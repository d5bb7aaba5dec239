import Mathlib.Data.List.Forall2
import TraceScope.Proofs.Interleaving
import TraceScope.Proofs.Settings
import TraceScope.Report

/-!
# What a configuration can change

A configuration decides which accesses to a database are slow and how much of their statements is
kept, and nothing else. With greater thresholds fewer accesses are slow; with a greater limit more
of each statement is kept.
-/

namespace TraceScope

/-! ### Statements that are cut -/

namespace LengthLimit

variable {α : Type} {limit a b : LengthLimit} {items : List α} {v w : Value}

/-- What a limit leaves of some items. -/
def clip (limit : LengthLimit) (items : List α) : List α :=
  if limit.exceededBy items.length then items.take limit.kept else items

theorem shorten_text (limit : LengthLimit) (t : Text) :
    limit.shorten (.text t) = .text ⟨limit.clip t.letters⟩ := by
  by_cases long : limit.exceededBy t.length = true
  · have cut : limit.clip t.letters = t.letters.take limit.kept := if_pos long
    rw [shorten, if_pos long, cut]
  · have whole : limit.clip t.letters = t.letters := if_neg long
    rw [shorten, if_neg long, whole]

theorem shorten_list (limit : LengthLimit) (items : List Value) :
    limit.shorten (.list items) = .list (limit.clip items) := by
  simp only [shorten, clip]
  split
  · rfl
  · rfl

theorem text_of_shorten {t : Text} (text : limit.shorten v = .text t) :
    ∃ u, v = .text u ∧ t = ⟨limit.clip u.letters⟩ := by
  cases v with
  | text u =>
    rw [shorten_text] at text
    exact ⟨u, rfl, (Value.text.inj text).symm⟩
  | list items =>
    rw [shorten_list] at text
    cases text
  | _ => cases text

theorem whole_of_cut {k : Nat} (cut : limit.cut = .ok k) :
    ∃ n : Int, limit.kept = n.toNat ∧
      ∀ length : Nat, limit.exceededBy length = decide (n < length) := by
  cases limit with
  | chars n => exact ⟨n, rfl, fun _ => rfl⟩
  | flag =>
    refine ⟨1, rfl, fun length => decide_eq_decide.mpr ?_⟩
    omega
  | real x => cases cut

theorem clip_prefix (limit : LengthLimit) (items : List α) : limit.clip items <+: items := by
  unfold clip
  split
  · exact List.take_prefix _ _
  · exact List.prefix_refl _

theorem clip_fits (low : limit.exceededBy 0 = false) (items : List α) :
    limit.exceededBy (limit.clip items).length = false := by
  unfold clip
  split
  · rename_i long
    cases cut : limit.cut with
    | error f =>
      -- Where a limit cannot be cut at, nothing is left.
      have none : limit.kept = 0 := by
        unfold kept
        rw [cut]
        rfl
      rw [none, List.take_zero]
      exact low
    | ok k =>
      obtain ⟨n, kept, exceeded⟩ := whole_of_cut cut
      rw [exceeded, decide_eq_false_iff_not] at low ⊢
      rw [kept, List.length_take]
      omega
  · rename_i short
    exact Bool.not_eq_true _ ▸ short

theorem shorten_fits {t : Text} (low : limit.exceededBy 0 = false)
    (text : limit.shorten v = .text t) : limit.exceededBy t.length = false := by
  obtain ⟨u, _, rfl⟩ := text_of_shorten text
  exact clip_fits low u.letters

theorem clip_clip (le : a.AtMost b)
    (whole : a.exceededBy items.length = true → ∃ k, a.cut = .ok k)
    (whole' : b.exceededBy items.length = true → ∃ k, b.cut = .ok k) :
    a.clip (b.clip items) = a.clip items := by
  by_cases long : b.exceededBy items.length = true
  · obtain ⟨_, cut⟩ := whole (exceededBy_of_atMost le long)
    obtain ⟨_, cut'⟩ := whole' long
    obtain ⟨m, kept, exceeded⟩ := whole_of_cut cut
    obtain ⟨n, kept', exceeded'⟩ := whole_of_cut cut'
    have grows : ∀ length : Nat, n < length → m < length := by
      intro length longer
      have both := exceededBy_of_atMost le ((exceeded' length).trans (decide_eq_true longer))
      exact of_decide_eq_true ((exceeded length).symm.trans both)
    rw [exceeded', decide_eq_true_eq] at long
    have short := grows items.length long
    have next := grows (n.toNat + 1) (by omega)
    simp only [clip, exceeded, exceeded', kept, kept', decide_eq_true_eq, long, short, if_true,
      List.length_take, List.take_take]
    split
    · congr 1
      omega
    · congr 1
      omega
  · have same : b.clip items = items := if_neg long
    rw [same]

end LengthLimit

namespace Statement

variable {limit a b : LengthLimit} {v w x : Value} {config : Config} {n : Nat}

theorem length_empty (counted : length v = .ok n) (empty : v.truthy = false) : n = 0 := by
  cases v with
  | text t =>
    obtain rfl := Except.ok.inj counted
    simpa [Value.truthy, Text.isEmpty, Text.length] using empty
  | list items =>
    obtain rfl := Except.ok.inj counted
    simpa [Value.truthy] using empty
  | object members =>
    obtain rfl := Except.ok.inj counted
    simpa [Value.truthy] using empty
  | _ => cases counted

theorem cut_of_truncate (low : limit.exceededBy 0 = false) (done : truncate limit v = .ok w)
    (counted : length v = .ok n) (long : limit.exceededBy n = true) :
    ∃ k, limit.cut = .ok k := by
  have full : v.truthy = true := by
    by_contra empty
    obtain rfl := length_empty counted (Bool.not_eq_true _ ▸ empty)
    rw [low] at long
    cases long
  unfold truncate at done
  rw [if_pos full] at done
  obtain ⟨m, counted', done⟩ := bind_ok_iff.mp done
  obtain rfl : n = m := Except.ok.inj (counted.symm.trans counted')
  rw [if_pos long] at done
  cases v with
  | text t =>
    obtain ⟨k, cut, _⟩ := bind_ok_iff.mp done
    exact ⟨k, cut⟩
  | list items =>
    obtain ⟨k, cut, _⟩ := bind_ok_iff.mp done
    exact ⟨k, cut⟩
  | _ => cases done

theorem shorten_shorten (low : a.exceededBy 0 = false) (le : a.AtMost b)
    (done : truncate a v = .ok w) (done' : truncate b v = .ok x) :
    a.shorten (b.shorten v) = a.shorten v := by
  have low' : b.exceededBy 0 = false := by
    by_contra high
    rw [LengthLimit.exceededBy_of_atMost le (Bool.not_eq_false _ ▸ high)] at low
    cases low
  cases v with
  | text t =>
    rw [LengthLimit.shorten_text, LengthLimit.shorten_text, LengthLimit.shorten_text,
      LengthLimit.clip_clip le (cut_of_truncate low done rfl) (cut_of_truncate low' done' rfl)]
  | list items =>
    rw [LengthLimit.shorten_list, LengthLimit.shorten_list, LengthLimit.shorten_list,
      LengthLimit.clip_clip le (cut_of_truncate low done rfl) (cut_of_truncate low' done' rfl)]
  | _ => rfl

theorem evaluate_truncated {tags : List Tag} {latency : Int} {f : Finding} {t : Tag}
    (evaluated : evaluate config tags latency = .ok f) (member : t ∈ tags)
    (named : t.isNamed statementKey = true) : ∃ w, truncate config.limit t.value = .ok w := by
  obtain ⟨g, h, looked⟩ := foldlM_done evaluated t member
  obtain ⟨key, value⟩ := t
  cases key with
  | text key =>
    have statement : key = statementKey := of_decide_eq_true named
    simp only [look, if_pos statement] at looked
    obtain ⟨w, truncated, _⟩ := bind_ok_iff.mp looked
    exact ⟨w, truncated⟩
  | _ => cases named

end Statement

/-! ### The two parts of what is published -/

namespace SlowStatement

def untold (s : SlowStatement) : SlowStatement := { s with statement := .null }

/-- The same access to a database, with its statement cut to a limit. A text that is left is how the
other one starts, and not longer than the limit. -/
structure CutFrom (limit : LengthLimit) (s t : SlowStatement) : Prop where
  same : s.untold = t.untold
  statement : s.statement = limit.shorten t.statement
  start : ∀ x, s.statement = .text x →
    ∃ y, t.statement = .text y ∧ x.letters <+: y.letters ∧ limit.Admits x.length

theorem cutFrom_of_shorten {limit : LengthLimit} {s t : SlowStatement}
    (low : limit.exceededBy 0 = false) (same : s.untold = t.untold)
    (cut : s.statement = limit.shorten t.statement) : CutFrom limit s t := by
  refine ⟨same, cut, ?_⟩
  intro x text
  rw [cut] at text
  obtain ⟨y, known, rfl⟩ := LengthLimit.text_of_shorten text
  exact ⟨y, known, LengthLimit.clip_prefix limit y.letters,
    LengthLimit.admits_of_not_exceededBy (LengthLimit.shorten_fits low text)⟩

end SlowStatement

namespace Thresholds

variable {t u : Thresholds}

theorem millis_of_forType {R : Int → Int → Prop}
    (related : ∀ v m n, t.forType v = .ok m → u.forType v = .ok n → R m n) (v : Value) :
    R (t.millis v) (u.millis v) := by
  have others : R t.forOthers u.forOthers := related .null _ _ rfl rfl
  cases v with
  | text name => exact related (.text name) _ _ rfl rfl
  | _ => exact others

end Thresholds

namespace Segment

variable {inv : Inventory} {config c₁ c₂ : Config} {segment : Segment}

theorem callRecords_leg {r : Record} (member : r ∈ segment.callRecords inv) :
    ∃ f e b, r = .leg f e b := by
  rcases callRecords_cases member with ⟨span, _, origin, _, f, rfl⟩ | ⟨span, _, f, rfl⟩
  · exact ⟨f, _, _, rfl⟩
  · exact ⟨f, _, _, rfl⟩

theorem records_calls :
    (segment.records inv config).filter (fun r => r.scope ≠ .slowStatement) =
      segment.callRecords inv := by
  rw [records_eq, List.filter_append, List.filter_eq_self.mpr, List.filter_eq_nil_iff.mpr,
    List.append_nil]
  · simp
  · intro r member
    obtain ⟨f, e, b, rfl⟩ := callRecords_leg member
    simp

theorem records_slow :
    (segment.records inv config).filterMap Record.slowStatement? =
      (slowCalls config segment.spans).map (segment.slowStatement inv config) := by
  have none : (segment.callRecords inv).filterMap Record.slowStatement? = [] := by
    refine List.filterMap_eq_nil_iff.mpr fun r member => ?_
    obtain ⟨f, e, b, rfl⟩ := callRecords_leg member
    rfl
  rw [records_eq, List.filterMap_append, none, List.nil_append, List.filterMap_map]
  exact congrFun List.filterMap_eq_map _

theorem slowCalls_sublist (le : ∀ v, c₁.thresholds.millis v ≤ c₂.thresholds.millis v)
    (spans : List Span) : (slowCalls c₂ spans).Sublist (slowCalls c₁ spans) := by
  refine List.monotone_filter_right _ fun span slow => ?_
  simp only [Span.isSlow, decide_eq_true_eq, List.any_eq_true, Bool.and_eq_true] at slow ⊢
  obtain ⟨database, t, member, named, longer⟩ := slow
  exact ⟨database, t, member, named, lt_of_le_of_lt (le t.value) longer⟩

theorem slowCalls_congr (same : ∀ v, c₁.thresholds.millis v = c₂.thresholds.millis v)
    (spans : List Span) : slowCalls c₁ spans = slowCalls c₂ spans := by
  have slow : ∀ span : Span, span.isSlow c₁.thresholds = span.isSlow c₂.thresholds := by
    intro span
    simp only [Span.isSlow, same]
  simp only [slowCalls, slow]

end Segment

/-! ### Statements under two limits -/

theorem Span.statement_shortened {c₁ c₂ : Config} {span : Span} {latency : Int}
    {f g : Statement.Finding} (low : c₁.limit.exceededBy 0 = false)
    (le : c₁.limit.AtMost c₂.limit)
    (first : Statement.evaluate c₁ span.tags latency = .ok f)
    (second : Statement.evaluate c₂ span.tags latency = .ok g) :
    span.statement c₁.limit = c₁.limit.shorten (span.statement c₂.limit) := by
  unfold Span.statement
  cases last : (span.tags.filter (·.isNamed Statement.statementKey)).getLast? with
  | none => rfl
  | some t =>
    obtain ⟨member, named⟩ := List.mem_filter.mp (List.mem_of_getLast? last)
    obtain ⟨w, done⟩ := Statement.evaluate_truncated first member named
    obtain ⟨x, done'⟩ := Statement.evaluate_truncated second member named
    exact (Statement.shorten_shorten low le done done').symm

namespace Listener

variable {inv : Inventory} {config : Config} {info : SegmentInfo} {segment : Segment}
  {span : Span} {l : Listener}

theorem exit_evaluated (names : info.Names segment) (peer : span.peerId ≠ noId)
    (database : span.layer = .database)
    (heard : (receive inv config info (.exit span) l).2 = none) :
    ∃ f, Statement.evaluate config span.tags span.latency = .ok f := by
  have done : receive inv config info (.exit span) l =
      ((receive inv config info (.exit span) l).1, none) := Prod.ext rfl heard
  simp only [receive, onExit] at done
  obtain ⟨u, _, done⟩ := Step.andThen_eq_none.mp done
  rw [if_neg peer] at done
  obtain ⟨e, made, done⟩ := Step.ofExcept_done done
  obtain ⟨v, _, done⟩ := Step.andThen_eq_none.mp done
  obtain rfl := Edge.ofExit_done names made
  have access : (segment.exitLeg inv userId span).requestType = .database :=
    RequestType.ofLayer_eq_database.mpr database
  unfold addSlowStatement at done
  rw [if_pos access] at done
  cases found : slowStatement? config info span (segment.exitLeg inv userId span) v.traceId with
  | error f =>
    rw [found] at done
    cases (Prod.mk.inj done).2
  | ok s =>
    obtain ⟨f, evaluated, _⟩ := bind_ok_iff.mp found
    exact ⟨f, evaluated⟩

end Listener

namespace Analyzer

variable {inv : Inventory} {config c₁ c₂ : Config} {segment : Segment} {span : Span}

theorem slowCalls_evaluated (done : (alone inv config segment).2 = none)
    (member : span ∈ Segment.slowCalls config segment.spans) :
    ∃ f, Statement.evaluate config span.tags span.latency = .ok f := by
  have success : succeeds inv config segment = true := Option.isNone_iff_eq_none.mpr done
  obtain ⟨info, told, heard⟩ := succeeds_iff.mp success
  obtain ⟨call, kept⟩ := List.mem_filter.mp member
  obtain ⟨database, _⟩ := of_decide_eq_true kept
  obtain ⟨present, kind, peer⟩ := mem_outgoing.mp call
  have event : .exit span ∈ segment.spans.filterMap Span.event? :=
    List.mem_filterMap.mpr ⟨span, present, by simp only [Span.event?, kind]⟩
  exact Listener.exit_evaluated (Segment.info_names told) peer database
    ((Listener.gather_succeeds_iff.mp heard).2 _ event)

theorem output_of_done (done : (alone inv config segment).2 = none) :
    output inv config segment = segment.records inv config := by
  have success : succeeds inv config segment = true := Option.isNone_iff_eq_none.mpr done
  rw [output_eq, if_pos success]

def slowOutput (inv : Inventory) (config : Config) (segment : Segment) : List SlowStatement :=
  (output inv config segment).filterMap Record.slowStatement?

theorem slowOutput_of_done (done : (alone inv config segment).2 = none) :
    slowOutput inv config segment =
      (Segment.slowCalls config segment.spans).map (segment.slowStatement inv config) := by
  rw [slowOutput, output_of_done done, Segment.records_slow]

/-- A configuration makes no difference to what a segment publishes but for slow statements. With
thresholds that are nowhere less there are no other slow statements than before. With the same
thresholds there are the same ones, each cut to the lesser limit. -/
theorem output_tuned (first : (alone inv c₁ segment).2 = none)
    (second : (alone inv c₂ segment).2 = none) :
    (output inv c₁ segment).filter (fun r => r.scope ≠ .slowStatement) =
        (output inv c₂ segment).filter (fun r => r.scope ≠ .slowStatement) ∧
      ((∀ v m n, c₁.thresholds.forType v = .ok m → c₂.thresholds.forType v = .ok n → m ≤ n) →
        ((slowOutput inv c₂ segment).map SlowStatement.untold).Sublist
          ((slowOutput inv c₁ segment).map SlowStatement.untold)) ∧
      (c₁.Made → (∀ v, c₁.thresholds.forType v = c₂.thresholds.forType v) →
        c₁.limit.AtMost c₂.limit →
        List.Forall₂ (SlowStatement.CutFrom c₁.limit) (slowOutput inv c₁ segment)
          (slowOutput inv c₂ segment)) := by
  rw [slowOutput_of_done first, slowOutput_of_done second, output_of_done first,
    output_of_done second]
  refine ⟨?_, ?_, ?_⟩
  · rw [Segment.records_calls, Segment.records_calls]
  · intro le
    have fewer := Segment.slowCalls_sublist (Thresholds.millis_of_forType le) segment.spans
    rw [List.map_map, List.map_map]
    exact fewer.map _
  · intro made agree le
    have same : ∀ v, c₁.thresholds.millis v = c₂.thresholds.millis v := by
      refine Thresholds.millis_of_forType fun v m n known known' => ?_
      rw [agree v, known'] at known
      exact (Except.ok.inj known).symm
    have calls := Segment.slowCalls_congr same segment.spans
    rw [List.forall₂_map_left_iff, List.forall₂_map_right_iff, ← calls, List.forall₂_same]
    intro span member
    obtain ⟨f, evaluated⟩ := slowCalls_evaluated first member
    rw [calls] at member
    obtain ⟨g, evaluated'⟩ := slowCalls_evaluated second member
    exact SlowStatement.cutFrom_of_shorten made.limit rfl
      (Span.statement_shortened made.limit le evaluated evaluated')

def patient : Config := { impatient.config with limit := .chars 6 }

theorem impatient_made : impatient.config.Made := by
  have read : impatient.config.thresholds.Made :=
    @Thresholds.Made.pairs [(.text "default", .int 500)] _ rfl
  exact @Config.Made.thresholds {} (.int 3) _ _ read rfl

theorem output_patient :
    (alone impatient.inventory impatient.config slowQuery).2 = none ∧
      (alone impatient.inventory patient slowQuery).2 = none ∧
      (slowOutput impatient.inventory impatient.config slowQuery).length = 1 ∧
      (output impatient.inventory impatient.config slowQuery).filter
          (fun r => r.scope ≠ .slowStatement) =
        (output impatient.inventory patient slowQuery).filter
          (fun r => r.scope ≠ .slowStatement) ∧
      ((slowOutput impatient.inventory patient slowQuery).map SlowStatement.untold).Sublist
        ((slowOutput impatient.inventory impatient.config slowQuery).map SlowStatement.untold) ∧
      List.Forall₂ (SlowStatement.CutFrom (.chars 3))
        (slowOutput impatient.inventory impatient.config slowQuery)
        (slowOutput impatient.inventory patient slowQuery) := by
  have second : (alone impatient.inventory patient slowQuery).2 = none := by
    rw [← Option.isNone_iff_eq_none]
    decide +kernel
  obtain ⟨calls, fewer, cut⟩ := output_tuned slowQuery_succeeds second
  refine ⟨slowQuery_succeeds, second, ?_, calls, fewer ?_, cut impatient_made (fun _ => rfl) ?_⟩
  · decide +kernel
  · intro v m n known known'
    obtain rfl := Except.ok.inj (known.symm.trans known')
    exact le_refl m
  · exact LengthLimit.chars_atMost (by decide)

end Analyzer

end TraceScope
