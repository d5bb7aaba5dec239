import TraceScope.Proofs.Numerals
import TraceScope.Proofs.Pieces
import TraceScope.Proofs.Refusal
import TraceScope.Proofs.Tuning

/-!
# Where slow statements come from

The slow statements that an analyzer stored go back to spans of segments that it was given, in the
same order. The identifier of a slow statement tells both: digits follow the last dash, so the only
question is whether a dash before it is the sign of the span or the end of the segment's identifier.
-/

namespace TraceScope

namespace SlowStatement

/-! ### Identifiers -/

def idOf (segment : Text) (span : Int) : Text := segment ++ "-" ++ Integer.text span

/-- The numbers of two spans differ in their sign alone, and the dash that is missing from the second
one ends the identifier of its segment. -/
structure Lookalike (segment : Text) (span : Int) (segment' : Text) (span' : Int) : Prop where
  negative : span < 0
  opposite : span' = -span
  dashed : segment' = segment ++ "-"

def dash : Letter := .char '-'

/-- What comes before the last dash of an identifier. -/
def stem (segment : Text) (span : Int) : List Letter :=
  segment.letters ++ if span < 0 then [dash] else []

variable {s t : Text} {m n : Int}

theorem letters_idOf (s : Text) (m : Int) :
    (idOf s m).letters = stem s m ++ dash :: (Nat.toDigits 10 m.natAbs).map .char := by
  have number : (Text.ofString (Integer.text m)).letters = (Integer.text m).toList.map .char := rfl
  have whole : (idOf s m).letters =
      s.letters ++ [dash] ++ (Integer.text m).toList.map .char := by
    rw [← number]
    rfl
  rw [whole, Integer.toList_text, List.map_append, stem]
  split
  · simp [dash]
  · simp

/-- The digits at the end are taken off, and nothing before the last dash is. -/
theorem rdropWhile_idOf (s : Text) (m : Int) :
    (idOf s m).letters.rdropWhile (Letter.isIn Char.isDigit) = stem s m ++ [dash] := by
  have digits : ∀ l ∈ ((Nat.toDigits 10 m.natAbs).map Letter.char).reverse,
      l.isIn Char.isDigit = true := by
    intro l member
    obtain ⟨c, digit, rfl⟩ := List.mem_map.mp (List.mem_reverse.mp member)
    exact Integer.isDigit_toDigits digit
  have none : ((Nat.toDigits 10 m.natAbs).map Letter.char).rdropWhile (Letter.isIn Char.isDigit) =
      [] := by
    rw [List.rdropWhile, List.dropWhile_eq_nil_iff.mpr digits, List.reverse_nil]
  rw [letters_idOf, Text.rdropWhile_append_cons rfl, none]

theorem idOf_parts (same : idOf s m = idOf t n) : stem s m = stem t n ∧ m.natAbs = n.natAbs := by
  have stems : stem s m ++ [dash] = stem t n ++ [dash] := by
    rw [← rdropWhile_idOf, ← rdropWhile_idOf, same]
  have front := List.append_cancel_right stems
  have letters := congrArg Text.letters same
  rw [letters_idOf, letters_idOf, front] at letters
  have digits := List.tail_eq_of_cons_eq (List.append_cancel_left letters)
  have chars : Nat.toDigits 10 m.natAbs = Nat.toDigits 10 n.natAbs :=
    List.map_injective_iff.mpr (fun _ _ => Letter.char.inj) digits
  refine ⟨front, ?_⟩
  rw [← Integer.ofDigits_toDigits m.natAbs, chars, Integer.ofDigits_toDigits]

theorem Lookalike.idOf_eq (alike : Lookalike s m t n) : idOf s m = idOf t n := by
  obtain ⟨negative, rfl, rfl⟩ := alike
  have positive : ¬-m < 0 := by omega
  have stems : stem s m = stem (s ++ "-") (-m) := by
    rw [stem, stem, if_pos negative, if_neg positive, List.append_nil]
    rfl
  have letters : (idOf s m).letters = (idOf (s ++ "-") (-m)).letters := by
    rw [letters_idOf, letters_idOf, stems, Int.natAbs_neg]
  exact congrArg Text.mk letters

/-- Two spans have slow statements with the same identifier if they are known by the same identifiers
themselves, or if the sign of one is taken for the end of the other one's segment. -/
theorem idOf_eq_iff :
    idOf s m = idOf t n ↔ (s = t ∧ m = n) ∨ Lookalike s m t n ∨ Lookalike t n s m := by
  constructor
  · intro same
    obtain ⟨stems, digits⟩ := idOf_parts same
    unfold stem at stems
    -- A stem ends with a dash of its own where the number is negative.
    by_cases left : m < 0
    · by_cases right : n < 0
      · rw [if_pos left, if_pos right] at stems
        have names := congrArg Text.mk (List.append_cancel_right stems)
        exact Or.inl ⟨names, by omega⟩
      · rw [if_pos left, if_neg right, List.append_nil] at stems
        exact Or.inr (Or.inl ⟨left, by omega, congrArg Text.mk stems.symm⟩)
    · by_cases right : n < 0
      · rw [if_neg left, if_pos right, List.append_nil] at stems
        exact Or.inr (Or.inr ⟨right, by omega, congrArg Text.mk stems⟩)
      · rw [if_neg left, if_neg right, List.append_nil, List.append_nil] at stems
        exact Or.inl ⟨congrArg Text.mk stems, by omega⟩
  · rintro (⟨rfl, rfl⟩ | alike | alike)
    · rfl
    · exact alike.idOf_eq
    · exact alike.idOf_eq.symm

end SlowStatement

/-! ### Origins -/

/-- The spans of a segment that come to slow statements, each with the segment. -/
def Segment.slowOrigins (config : Config) (s : Segment) : List (Segment × Span) :=
  (slowCalls config s.spans).map fun span => (s, span)

namespace Analyzer

variable {a : Analyzer} {segment : Segment} {inv : Inventory} {config : Config}

theorem process_stores (segment : Segment) (a : Analyzer) :
    ∃ part, part <+: segment.records a.inventory a.config ∧
      (process segment a).1.records = a.records ++ part := by
  cases reached : segment.emission a.inventory a.config with
  | error f =>
    rw [process_failed reached]
    exact ⟨[], List.nil_prefix, (List.append_nil _).symm⟩
  | ok rs =>
    rw [← emission_records reached]
    rcases a.intake.accepts_or_refuses rs with
      accepts | ⟨part, r, rest, f, rfl, accepts, refused⟩
    · rw [process_accepted reached accepts]
      exact ⟨rs, List.prefix_rfl, (Intake.storeAll_sink a.intake rs).1⟩
    · rw [process_cut reached accepts refused]
      exact ⟨part, List.prefix_append _ _, (Intake.storeAll_sink a.intake part).1⟩

/-- What was stored since then are, of slow statements, those of some spans. -/
def StoredFrom (a b : Analyzer) (origins : List (Segment × Span)) : Prop :=
  b.records.filterMap Record.slowStatement? =
    a.records.filterMap Record.slowStatement? ++
      origins.map fun o => o.1.slowStatement a.inventory a.config o.2

def SameSetup (a b : Analyzer) : Prop := b.inventory = a.inventory ∧ b.config = a.config

variable {a b c : Analyzer} {origins more : List (Segment × Span)}

theorem StoredFrom.trans (first : a.StoredFrom b origins) (same : a.SameSetup b)
    (later : b.StoredFrom c more) : a.StoredFrom c (origins ++ more) := by
  obtain ⟨inventory, config⟩ := same
  unfold StoredFrom at first later ⊢
  rw [later, first, inventory, config, List.map_append, List.append_assoc]

theorem process_origins (segment : Segment) (a : Analyzer) :
    ∃ origins, origins.Sublist (segment.slowOrigins a.config) ∧
      a.StoredFrom (process segment a).1 origins := by
  obtain ⟨part, cut, stored⟩ := process_stores segment a
  have slow := cut.filterMap Record.slowStatement?
  rw [Segment.records_slow] at slow
  obtain ⟨spans, few, same⟩ := List.prefix_map_iff.mp slow
  refine ⟨spans.map fun span => (segment, span), few.sublist.map _, ?_⟩
  rw [StoredFrom, stored, List.filterMap_append, same, List.map_map]
  rfl

theorem process_setup (segment : Segment) (a : Analyzer) : a.SameSetup (process segment a).1 := by
  have kept := process_keeps (P := fun _ => True) (fun r => Intake.offer_keeps r (fun _ h => h)
    fun _ h => h) segment a ⟨rfl, rfl, trivial⟩
  exact ⟨kept.1, kept.2.1⟩

theorem perform_setup (task : Task) (a : Analyzer) : a.SameSetup (task.perform a).1 := by
  have kept := perform_keeps (P := fun _ => True) (fun r => Intake.offer_keeps r (fun _ h => h)
    fun _ h => h) task a ⟨rfl, rfl, trivial⟩
  exact ⟨kept.1, kept.2.1⟩

/-- The slow accesses of the segments that were begun. -/
def slowAccesses (config : Config) (calls : List (Segment × Analyzer)) : List (Segment × Span) :=
  calls.flatMap fun call => call.1.slowOrigins config

theorem begun_origins (items : List (Except Fault Segment)) (a : Analyzer) :
    ∃ origins, origins.Sublist (slowAccesses a.config (begun items a)) ∧
      a.StoredFrom (Step.each (fun item => .ofExcept item process) items a).1 origins := by
  induction items generalizing a with
  | nil => exact ⟨[], List.nil_sublist _, (List.append_nil _).symm⟩
  | cons item rest ih =>
    cases item with
    | error f => exact ⟨[], List.nil_sublist _, (List.append_nil _).symm⟩
    | ok segment =>
      obtain ⟨here, few, stored⟩ := process_origins segment a
      have same := process_setup segment a
      rw [Step.each_cons, begun, slowAccesses, List.flatMap_cons]
      rcases done : process segment a with ⟨b, _ | f⟩
      · have first : Step.ofExcept (.ok segment) process a = (b, none) := done
        rw [done] at stored same
        obtain ⟨later, fewer, more⟩ := ih b
        rw [same.2] at fewer
        rw [Step.andThen_ok first]
        exact ⟨here ++ later, few.append fewer, stored.trans same more⟩
      · have first : Step.ofExcept (.ok segment) process a = (b, some f) := done
        rw [done] at stored
        rw [Step.andThen_failed first]
        exact ⟨here, few.trans (List.sublist_append_left _ _), stored⟩

theorem run_origins (tasks : List Task) (a : Analyzer) :
    ∃ origins, origins.Sublist (slowAccesses a.config (history tasks a)) ∧
      a.StoredFrom (run tasks a) origins := by
  induction tasks generalizing a with
  | nil => exact ⟨[], List.nil_sublist _, (List.append_nil _).symm⟩
  | cons task rest ih =>
    obtain ⟨here, few, stored⟩ := begun_origins task.items a
    have same := perform_setup task a
    rw [← perform_eq] at stored
    obtain ⟨later, fewer, more⟩ := ih (task.perform a).1
    rw [same.2] at fewer
    refine ⟨here ++ later, ?_, stored.trans same more⟩
    rw [history, slowAccesses, List.flatMap_append]
    exact few.append fewer

theorem mem_begun {items : List (Except Fault Segment)} {call : Segment × Analyzer}
    (member : call ∈ begun items a) : .ok call.1 ∈ items := by
  induction items generalizing a with
  | nil => cases member
  | cons item rest ih =>
    cases item with
    | error f => cases member
    | ok segment =>
      rw [begun] at member
      rcases List.mem_cons.mp member with rfl | later
      · exact List.mem_cons_self
      · split at later
        · exact List.mem_cons_of_mem _ (ih later)
        · cases later

theorem mem_history {tasks : List Task} {call : Segment × Analyzer}
    (member : call ∈ history tasks a) : .ok call.1 ∈ tasks.flatMap Task.items := by
  induction tasks generalizing a with
  | nil => cases member
  | cons task rest ih =>
    rw [history] at member
    rw [List.flatMap_cons]
    rcases List.mem_append.mp member with here | later
    · exact List.mem_append_left _ (mem_begun here)
    · exact List.mem_append_right _ (ih later)

theorem mem_slowAccesses {config : Config} {calls : List (Segment × Analyzer)} {o : Segment × Span}
    (member : o ∈ slowAccesses config calls) :
    (∃ call ∈ calls, call.1 = o.1) ∧ o.2 ∈ o.1.spans := by
  obtain ⟨call, begun, member⟩ := List.mem_flatMap.mp member
  obtain ⟨span, slow, rfl⟩ := List.mem_map.mp member
  have access := List.mem_of_mem_filter slow
  exact ⟨⟨call, begun, rfl⟩, List.mem_of_mem_filter access⟩

/-- The slow statements that a new analyzer has stored after any history are, in order, those of
spans of segments that it was given. Two of them have the same identifier exactly if their segments
have the same identifier and their spans as well, or one comes from a span with a negative number
and the other from the span with the opposite number, in a segment whose identifier is that of the
first with a dash at its end. -/
theorem run_identifies (inv : Inventory) (config : Config) (refuses : Nat → Option Fault)
    (tasks : List Task) :
    let start : Analyzer := { inventory := inv, config, intake := { sink := { refuses } } }
    ∃ origins : List (Segment × Span),
      (run tasks start).records.filterMap Record.slowStatement? =
        origins.map (fun o => o.1.slowStatement inv config o.2) ∧
      origins.Sublist (slowAccesses config (history tasks start)) ∧
      (∀ o ∈ origins, .ok o.1 ∈ tasks.flatMap Task.items ∧ o.2 ∈ o.1.spans) ∧
      ∀ o ∈ origins, ∀ o' ∈ origins,
        (o.1.slowStatement inv config o.2).id = (o'.1.slowStatement inv config o'.2).id ↔
          (o.1.id = o'.1.id ∧ o.2.id = o'.2.id) ∨
            SlowStatement.Lookalike o.1.id o.2.id o'.1.id o'.2.id ∨
            SlowStatement.Lookalike o'.1.id o'.2.id o.1.id o.2.id := by
  intro start
  obtain ⟨origins, few, stored⟩ := run_origins tasks start
  refine ⟨origins, stored, few, ?_, ?_⟩
  · intro o member
    obtain ⟨⟨call, begun, same⟩, span⟩ := mem_slowAccesses (few.subset member)
    exact ⟨same ▸ mem_history begun, span⟩
  · exact fun o _ o' _ => SlowStatement.idOf_eq_iff

/-- The slow query under another identifier, with the same number for both of its spans. -/
def queryAs (id : Text) (span : Int) : Segment :=
  { slowQuery with id, spans := slowQuery.spans.map fun x => { x with id := span } }

theorem queryAs_succeed : ∀ segment ∈ [queryAs "a-" 1, queryAs "a" (-1)],
    succeeds impatient.inventory impatient.config segment = true := by
  decide +kernel

/-- A dash ends the identifier of the first segment, and is the sign of the spans of the second. -/
theorem run_confuses :
    let a := run [.segments [queryAs "a-" 1, queryAs "a" (-1)]] impatient
    let origins := (queryAs "a-" 1).slowOrigins impatient.config ++
      (queryAs "a" (-1)).slowOrigins impatient.config
    let made := origins.map fun o =>
      o.1.slowStatement impatient.inventory impatient.config o.2
    a.records.filterMap Record.slowStatement? = made ∧
      made.map (·.id) = ["a--1", "a--1"] ∧
      origins.map (·.1.id) = ["a-", "a"] ∧ origins.map (·.2.id) = [1, -1] := by
  intro a origins made
  have all := queryAs_succeed
  obtain ⟨whole, _⟩ := leading_eq_self all
  have stored : a.records =
      (queryAs "a-" 1).records impatient.inventory impatient.config ++
        (queryAs "a" (-1)).records impatient.inventory impatient.config := by
    change (processAll _ (fresh impatient.inventory impatient.config)).1.records = _
    rw [processAll_fresh, whole, (takeAll_effect _).2.2.1]
    change [] ++ List.flatten [output _ _ _, output _ _ _] = _
    rw [output_eq, output_eq, all _ List.mem_cons_self,
      all _ (List.mem_cons_of_mem _ List.mem_cons_self)]
    exact (List.nil_append _).trans (congrArg (_ ++ ·) (List.append_nil _))
  refine ⟨?_, by rfl, by rfl, by rfl⟩
  rw [stored, List.filterMap_append, Segment.records_slow, Segment.records_slow]
  rfl

end Analyzer

end TraceScope
