import TraceScope.Reference.Items
import TraceScope.Proofs.Composition

/-!
# What the parts of a value inherit

A property is inherited if a list or an object has it exactly when its parts have it, and if texts
keep it where they are cut or joined. What is read from a document, or taken out of one, then has
every inherited property that the words, numbers and texts of the document have.
-/

namespace TraceScope

namespace Table

variable {κ ν : Type} [DecidableEq κ] {k : κ} {f : Option ν → ν} {pairs : List (κ × ν)} {e : κ × ν}

theorem mem_alterEntries {es : List (κ × ν)} (member : e ∈ alterEntries k f es) :
    (e.1 = k ∧ ∃ former : Option ν, (∀ v ∈ former, ∃ old ∈ es, old.2 = v) ∧ e.2 = f former) ∨
      e ∈ es := by
  induction es with
  | nil =>
    obtain rfl := List.mem_singleton.mp member
    exact Or.inl ⟨rfl, none, nofun, rfl⟩
  | cons first rest ih =>
    obtain ⟨k', w⟩ := first
    unfold alterEntries at member
    split at member
    · rename_i same
      rcases List.mem_cons.mp member with rfl | later
      · refine Or.inl ⟨same, some w, ?_, rfl⟩
        rintro v ⟨⟩
        exact ⟨_, List.mem_cons_self, rfl⟩
      · exact Or.inr (List.mem_cons_of_mem _ later)
    · rcases List.mem_cons.mp member with rfl | later
      · exact Or.inr List.mem_cons_self
      · rcases ih later with ⟨same, former, known, value⟩ | old
        · refine Or.inl ⟨same, former, fun v present => ?_, value⟩
          obtain ⟨old, member, value⟩ := known v present
          exact ⟨old, List.mem_cons_of_mem _ member, value⟩
        · exact Or.inr (List.mem_cons_of_mem _ old)

theorem mem_ofList (member : e ∈ (ofList pairs).entries) :
    (∃ p ∈ pairs, p.1 = e.1) ∧ ∃ p ∈ pairs, p.2 = e.2 := by
  refine List.foldlRecOn pairs (fun (t : Table κ ν) p => t.insert p.1 p.2)
    (motive := fun t => ∀ e ∈ t.entries, (∃ p ∈ pairs, p.1 = e.1) ∧ ∃ p ∈ pairs, p.2 = e.2)
    ?_ ?_ e member
  · exact fun e member => absurd member List.not_mem_nil
  · intro t known p present e member
    rcases mem_alterEntries member with ⟨key, _, _, new⟩ | old
    · exact ⟨⟨p, present, key.symm⟩, p, present, new.symm⟩
    · exact known e old

theorem nodup_keys_ofList (pairs : List (κ × ν)) : (ofList pairs).keys.Nodup :=
  List.foldlRecOn pairs (fun (t : Table κ ν) p => t.insert p.1 p.2)
    (motive := fun t => t.keys.Nodup) List.nodup_nil
    fun t distinct p _ => nodup_keys_alter t p.1 _ distinct

end Table

namespace Text

theorem ofChars_append (cs ds : List Char) : ofChars cs ++ ofChars ds = ofChars (cs ++ ds) :=
  congrArg mk List.map_append.symm

end Text

namespace Value

/-- A property of values that their parts inherit, and what is made of texts. -/
structure Inherited (P : Value → Prop) : Prop where
  null : P .null
  bool (b : Bool) : P (.bool b)
  int (n : Int) : P (.int n)
  quotient (s : Bool) (n : Nat) {d : Nat} (positive : 0 < d) : P (.double (.ofRatio s n d))
  list {vs : List Value} : P (.list vs) ↔ ∀ v ∈ vs, P v
  object {ms : List (Text × Value)} (distinct : (ms.map (·.1)).Nodup)
    (parts : ∀ m ∈ ms, P (.text m.1) ∧ P m.2) : P (.object ms)
  members {ms : List (Text × Value)} (whole : P (.object ms)) : ∀ m ∈ ms, P (.text m.1) ∧ P m.2
  chars (cs : List Char) : P (.text (.ofChars cs))
  letters {t : Text} (whole : P (.text t)) : ∀ l ∈ t.letters, P (.text ⟨[l]⟩)
  cut {t : Text} (n : Nat) (whole : P (.text t)) : P (.text ⟨t.letters.take n⟩)
  join {t u : Text} (c : Char) (cs : List Char) (first : P (.text t)) (second : P (.text u)) :
    P (.text (t ++ .ofChars (c :: cs) ++ u))

/-! ### Values as text -/

theorem quoted_chars_text (t : Text) : ∃ cs, t.quoted = Text.ofChars cs := ⟨_, rfl⟩

mutual

theorem quoted_chars (v : Value) : ∃ cs, v.quoted = Text.ofChars cs := by
  cases v with
  | list items =>
    obtain ⟨cs, inner⟩ := quotedItems_chars items
    rw [quoted, inner, Text.ofString, Text.ofString, Text.ofChars_append, Text.ofChars_append]
    exact ⟨_, rfl⟩
  | object members =>
    obtain ⟨cs, inner⟩ := quotedMembers_chars members
    rw [quoted, inner, Text.ofString, Text.ofString, Text.ofChars_append, Text.ofChars_append]
    exact ⟨_, rfl⟩
  | decimal x =>
    rw [quoted, Text.ofString, Text.ofString, Text.ofString, Text.ofChars_append,
      Text.ofChars_append]
    exact ⟨_, rfl⟩
  | _ => exact ⟨_, rfl⟩

theorem quotedItems_chars (vs : List Value) : ∃ cs, quotedItems vs = Text.ofChars cs := by
  cases vs with
  | nil => exact ⟨_, rfl⟩
  | cons v rest =>
    obtain ⟨cs, first⟩ := quoted_chars v
    cases rest with
    | nil => exact ⟨cs, first⟩
    | cons w rest =>
      obtain ⟨ds, later⟩ := quotedItems_chars (w :: rest)
      rw [quotedItems, first, later, Text.ofString, Text.ofChars_append, Text.ofChars_append]
      · exact ⟨_, rfl⟩
      · exact nofun

theorem quotedMembers_chars (ms : List (Text × Value)) :
    ∃ cs, quotedMembers ms = Text.ofChars cs := by
  cases ms with
  | nil => exact ⟨_, rfl⟩
  | cons m rest =>
    obtain ⟨name, v⟩ := m
    obtain ⟨ns, named⟩ := quoted_chars_text name
    obtain ⟨cs, first⟩ := quoted_chars v
    cases rest with
    | nil =>
      rw [quotedMembers, named, first, Text.ofString, Text.ofChars_append, Text.ofChars_append]
      exact ⟨_, rfl⟩
    | cons m rest =>
      obtain ⟨ds, later⟩ := quotedMembers_chars (m :: rest)
      rw [quotedMembers, named, first, later, Text.ofString, Text.ofString, Text.ofChars_append,
        Text.ofChars_append, Text.ofChars_append, Text.ofChars_append]
      · exact ⟨_, rfl⟩
      · exact nofun

end

namespace Inherited

variable {P : Value → Prop} {v w default : Value} {name t : Text} {vs : List Value}

theorem string (inherited : Inherited P) (s : String) : P (.text (s : Text)) :=
  inherited.chars s.toList

theorem quoted (inherited : Inherited P) (v : Value) : P (.text v.quoted) := by
  obtain ⟨cs, written⟩ := quoted_chars v
  exact written ▸ inherited.chars cs

theorem display (inherited : Inherited P) (whole : P v) : P (.text v.display) := by
  cases v with
  | text t => exact whole
  | decimal x => exact inherited.string x.text
  | _ => exact inherited.quoted _

theorem told {stack : Stack} {use : Telling} (inherited : Inherited P) (whole : P v)
    (done : v.told stack use = .ok t) : P (.text t) := by
  unfold Value.told at done
  split at done
  · obtain rfl := Except.ok.inj done
    exact inherited.display whole
  · cases done

theorem intercalate (inherited : Inherited P) (separator : Char) {parts : List Text}
    (all : ∀ t ∈ parts, P (.text t)) :
    P (.text (Text.intercalate (.ofChars [separator]) parts)) := by
  induction parts with
  | nil => exact inherited.chars []
  | cons t rest ih =>
    rw [List.forall_mem_cons] at all
    cases rest with
    | nil =>
      have single : Text.intercalate (.ofChars [separator]) [t] = t := by
        simp [Text.intercalate]
      exact single.symm ▸ all.1
    | cons u rest =>
      have pair : Text.intercalate (.ofChars [separator]) (t :: u :: rest) =
          t ++ .ofChars [separator] ++ Text.intercalate (.ofChars [separator]) (u :: rest) := by
        refine congrArg Text.mk ?_
        simp [Text.intercalate, List.intercalate]
      exact pair.symm ▸ inherited.join separator [] all.1 (ih all.2)

end Inherited

end Value

/-! ### Reading -/

namespace Json

variable {C : Letter → Prop} {P : Value → Prop} {d : Dialect} {m m' : Machine} {v : Value}
  {t : Token}

/-- What words, numerals and strings of certain letters stand for has the property. -/
structure Dialect.Yields (d : Dialect) (C : Letter → Prop) (P : Value → Prop) : Prop where
  words : ∀ w ∈ d.words, P w.2
  numerals : ∀ n v, d.numeral n = .ok v → P v
  texts : ∀ raw t, (∀ l ∈ raw, C l) → d.unescape raw = .ok t → P (.text t)

/-- A lexeme of certain letters, whose word has the property. -/
def Token.Given (C : Letter → Prop) (P : Value → Prop) : Token → Prop
  | .word v => P v
  | .string raw => ∀ l ∈ raw, C l
  | _ => True

def Opened.Holds (P : Value → Prop) : Opened → Prop
  | .list items => ∀ v ∈ items, P v
  | .object members name => (∀ m ∈ members, P (.text m.1) ∧ P m.2) ∧ P (.text name)

namespace Machine

structure Holds (P : Value → Prop) (m : Machine) : Prop where
  opened : ∀ o ∈ m.opened, o.Holds P
  result : P m.result
  collected : ∀ v ∈ m.collected, P v

theorem accept_holds (whole : P v) (h : m.Holds P) : (m.accept d v).Holds P := by
  have opened := h.opened
  have collected : ∀ w ∈ if d.collects m.opened then v :: m.collected else m.collected, P w := by
    split
    · exact List.forall_mem_cons.mpr ⟨whole, h.collected⟩
    · exact h.collected
  cases known : m.opened with
  | nil =>
    simp only [accept, known]
    rw [known] at opened collected
    exact ⟨opened, whole, collected⟩
  | cons o rest =>
    rw [known] at opened collected
    rw [List.forall_mem_cons] at opened
    cases o with
    | list items =>
      simp only [accept, known]
      refine ⟨List.forall_mem_cons.mpr ⟨?_, opened.2⟩, h.result, collected⟩
      exact List.forall_mem_cons.mpr ⟨whole, opened.1⟩
    | object members name =>
      simp only [accept, known]
      refine ⟨List.forall_mem_cons.mpr ⟨?_, opened.2⟩, h.result, collected⟩
      exact ⟨List.forall_mem_cons.mpr ⟨⟨opened.1.2, whole⟩, opened.1.1⟩, opened.1.2⟩

theorem enter_holds {o : Opened} {expects : Expectation} (whole : o.Holds P) (h : m.Holds P)
    (done : m.enter d o expects = .ok m') : m'.Holds P := by
  unfold enter at done
  split at done
  · obtain rfl := Except.ok.inj done
    exact ⟨List.forall_mem_cons.mpr ⟨whole, h.opened⟩, h.result, h.collected⟩
  · cases done

theorem closeList_holds (inherited : Value.Inherited P) (h : m.Holds P)
    (done : m.closeList d = .ok m') : m'.Holds P := by
  unfold closeList at done
  split at done
  · rename_i items rest known
    have opened := h.opened
    rw [known, List.forall_mem_cons] at opened
    obtain rfl := Except.ok.inj done
    have whole : P (.list items.reverse) :=
      inherited.list.mpr fun v member => opened.1 v (List.mem_reverse.mp member)
    exact accept_holds whole ⟨opened.2, h.result, h.collected⟩
  · cases done

theorem closeObject_holds (inherited : Value.Inherited P) (h : m.Holds P)
    (done : m.closeObject d = .ok m') : m'.Holds P := by
  unfold closeObject at done
  split at done
  · rename_i members name rest known
    have opened := h.opened
    rw [known, List.forall_mem_cons] at opened
    obtain rfl := Except.ok.inj done
    have whole : P (.object (Table.ofList members.reverse).entries) := by
      -- A member keeps its place when a later one of its name gives it another value.
      refine inherited.object (Table.nodup_keys_ofList _) fun e member => ?_
      obtain ⟨⟨p, first, key⟩, q, second, value⟩ := Table.mem_ofList member
      rw [← key, ← value]
      exact ⟨(opened.1.1 p (List.mem_reverse.mp first)).1,
        (opened.1.1 q (List.mem_reverse.mp second)).2⟩
    exact accept_holds whole ⟨opened.2, h.result, h.collected⟩
  · cases done

theorem setName_holds {name : Text} (whole : P (.text name)) (h : m.Holds P)
    (done : m.setName name = .ok m') : m'.Holds P := by
  unfold setName at done
  split at done
  · rename_i members former rest known
    have opened := h.opened
    rw [known, List.forall_mem_cons] at opened
    obtain rfl := Except.ok.inj done
    exact ⟨List.forall_mem_cons.mpr ⟨⟨opened.1.1, whole⟩, opened.2⟩, h.result, h.collected⟩
  · cases done

theorem goOn_holds (h : m.Holds P) (done : m.goOn = .ok m') : m'.Holds P := by
  unfold goOn at done
  split at done
  · obtain rfl := Except.ok.inj done
    exact ⟨h.opened, h.result, h.collected⟩
  · obtain rfl := Except.ok.inj done
    exact ⟨h.opened, h.result, h.collected⟩
  · cases done

/-- What is taken from a string or a numeral of a dialect is what the dialect says. -/
theorem ok_of_mapError {α : Type} {x : Except Fault α} {a : α}
    (done : x.mapError Refusal.failed = .ok a) : x = .ok a := by
  cases x with
  | error f => cases done
  | ok b => exact congrArg Except.ok (Except.ok.inj done)

theorem startValue_holds (inherited : Value.Inherited P) (dialect : d.Yields C P)
    (given : t.Given C P) (h : m.Holds P) (done : m.startValue d t = .ok m') : m'.Holds P := by
  unfold startValue at done
  split at done
  · have empty : (Opened.list []).Holds P := fun v member => absurd member List.not_mem_nil
    exact enter_holds empty h done
  · have empty : (Opened.object [] "").Holds P :=
      ⟨fun m member => absurd member List.not_mem_nil, inherited.string ""⟩
    exact enter_holds empty h done
  · obtain rfl := Except.ok.inj done
    exact accept_holds given h
  · rename_i n
    obtain ⟨v, read, rfl⟩ := map_ok_iff.mp done
    exact accept_holds (dialect.numerals n v (ok_of_mapError read)) h
  · rename_i raw
    obtain ⟨text, read, rfl⟩ := map_ok_iff.mp done
    exact accept_holds (dialect.texts raw text given (ok_of_mapError read)) h
  · cases done

theorem startName_holds (dialect : d.Yields C P) (given : t.Given C P) (h : m.Holds P)
    (done : m.startName d t = .ok m') : m'.Holds P := by
  unfold startName at done
  split at done
  · rename_i raw
    obtain ⟨name, read, done⟩ := bind_ok_iff.mp done
    exact setName_holds (dialect.texts raw name given (ok_of_mapError read)) h done
  · cases done

theorem step_holds (inherited : Value.Inherited P) (dialect : d.Yields C P) (given : t.Given C P)
    (h : m.Holds P) (done : m.step d t = .ok m') : m'.Holds P := by
  unfold step at done
  split at done
  · exact startValue_holds inherited dialect given h done
  · exact closeList_holds inherited h done
  · exact startValue_holds inherited dialect given h done
  · exact closeObject_holds inherited h done
  · exact startName_holds dialect given h done
  · exact startName_holds dialect given h done
  · obtain rfl := Except.ok.inj done
    exact ⟨h.opened, h.result, h.collected⟩
  · exact goOn_holds h done
  · exact closeList_holds inherited h done
  · exact closeObject_holds inherited h done
  · cases done

theorem spanString_letters {before ls raw : List Letter} {escaped : Bool}
    (first : ∀ l ∈ before, C l) (letters : ∀ l ∈ ls, C l)
    (found : spanString before escaped ls = some raw) : ∀ l ∈ raw, C l := by
  induction ls generalizing before escaped with
  | nil => cases found
  | cons l ls ih =>
    obtain ⟨here, later⟩ := List.forall_mem_cons.mp letters
    have more := List.forall_mem_cons.mpr ⟨here, first⟩
    unfold spanString at found
    split at found
    · split at found
      · exact ih more later found
      · cases found
    · split at found
      · obtain rfl := Option.some.inj found
        exact fun l member => first l (List.mem_reverse.mp member)
      · split at found
        · exact ih more later found
        · split at found
          · cases found
          · exact ih more later found

/-- The lexemes of certain letters are of these letters, and words are those of the dialect. -/
theorem token?_given {strict : Bool} {ls : List Letter} {n : Nat} (letters : ∀ l ∈ ls, C l)
    (words : ∀ w ∈ d.words, P w.2) (found : token? d.words strict ls = some (t, n)) :
    t.Given C P := by
  unfold token? at found
  split at found
  · cases found
  · rename_i l rest
    split at found
    · rename_i mark known
      obtain rfl : mark = t := (Prod.mk.inj (Option.some.inj found)).1
      unfold mark? at known
      repeat' split at known
      all_goals cases known
      all_goals exact trivial
    · split at found
      · obtain ⟨raw, spanned, same⟩ := Option.map_eq_some_iff.mp found
        obtain rfl := (Prod.mk.inj same).1
        exact spanString_letters (fun _ none => absurd none List.not_mem_nil)
          (List.forall_mem_cons.mp letters).2 spanned
      · unfold plain? at found
        split at found
        · rename_i w known
          obtain rfl := Option.some.inj found
          obtain ⟨word, chosen, same⟩ := Option.map_eq_some_iff.mp known
          obtain rfl := (Prod.mk.inj same).1
          exact words word (List.mem_of_find?_eq_some chosen)
        · obtain ⟨_, _, same⟩ := Option.map_eq_some_iff.mp found
          obtain rfl := (Prod.mk.inj same).1
          exact trivial

theorem run_holds (inherited : Value.Inherited P) (dialect : d.Yields C P) (h : m.Holds P)
    (skip : Nat) {ls : List Letter} (letters : ∀ l ∈ ls, C l) : (m.run d skip ls).1.Holds P := by
  induction ls generalizing m skip with
  | nil =>
    unfold run
    exact h
  | cons l ls ih =>
    have later := (List.forall_mem_cons.mp letters).2
    unfold run
    cases skip with
    | succ skip => exact ih h skip later
    | zero =>
      dsimp only
      split
      · exact ih h 0 later
      · split
        · exact h
        · split
          · exact h
          · rename_i t width lexeme
            split
            · rename_i m' done
              have given := token?_given letters dialect.words lexeme
              exact ih (step_holds inherited dialect given h done) (width - 1) later
            · exact h

theorem start_holds (inherited : Value.Inherited P) : ({} : Machine).Holds P :=
  ⟨fun _ member => absurd member List.not_mem_nil, inherited.null,
    fun _ member => absurd member List.not_mem_nil⟩

end Machine

/-! ### Documents and files -/

/-- What a document yields has the property if its fractions and its texts have it. -/
theorem document_yields (inherited : Value.Inherited P) (limited : Bool) (maxDepth : Option Nat)
    (undefined : P (.double (.nan 0))) (infinite : ∀ s, P (.double (.infinite s)))
    (fraction : ∀ s c q, P (.double (.ofDecimal s c q)))
    (texts : ∀ raw : List Letter, (∀ l ∈ raw, C l) → P (.text (stringText raw))) :
    (Dialect.document limited maxDepth).Yields C P where
  words := by
    intro w member
    simp only [Dialect.document, standardWords, List.cons_append, List.nil_append,
      List.mem_cons, List.not_mem_nil, or_false] at member
    rcases member with rfl | rfl | rfl | rfl | rfl | rfl
    · exact inherited.null
    · exact inherited.bool true
    · exact inherited.bool false
    · exact undefined
    · exact infinite false
    · exact infinite true
  numerals := by
    intro n v read
    simp only [Dialect.document, documentNumber] at read
    split at read
    · split at read
      · cases read
      · cases read
        exact inherited.int _
    · cases read
      exact fraction _ _ _
  texts := by
    intro raw t letters read
    obtain rfl := Except.ok.inj read
    exact texts raw letters

theorem readText_holds (inherited : Value.Inherited P) {limited : Bool} {maxDepth : Option Nat}
    (dialect : (Dialect.document limited maxDepth).Yields C P) {t : Text}
    (letters : ∀ l ∈ t.letters, C l) (read : readText limited maxDepth t = .ok v) : P v := by
  have kept := Machine.run_holds inherited dialect (Machine.start_holds inherited) 0 letters
  unfold readText at read
  split at read
  · rename_i m done
    obtain rfl := Except.ok.inj read
    rw [done] at kept
    exact kept.result
  · cases read
  · cases read

end Json

namespace Reference

open Json

variable {P : Value → Prop}

/-- What is read from a file has the property if decimals have it: its texts are characters. -/
theorem dialect_yields (inherited : Value.Inherited P) (decimal : ∀ x, P (.decimal x)) :
    dialect.Yields (fun _ => True) P where
  words := by
    intro w member
    simp only [dialect, standardWords, List.mem_cons, List.not_mem_nil, or_false] at member
    rcases member with rfl | rfl | rfl
    · exact inherited.null
    · exact inherited.bool true
    · exact inherited.bool false
  numerals := by
    intro n v read
    simp only [dialect, streamNumber] at read
    split at read
    · split at read
      · cases read
      · cases read
        exact inherited.int _
    · split at read
      · cases read
        exact decimal _
      · cases read
  texts := by
    intro raw t _ read
    obtain ⟨cs, _, rfl⟩ := map_ok_iff.mp read
    exact inherited.chars cs

theorem items_holds (inherited : Value.Inherited P) (decimal : ∀ x, P (.decimal x))
    (bytes : ByteArray) : ∀ doc ∈ (items bytes).items, P doc := by
  have letters : ∀ l ∈ ((readable bytes).1 : Text).letters, True := fun _ _ => trivial
  have read := Machine.run_holds inherited (dialect_yields inherited decimal)
    (Machine.start_holds inherited) 0 letters
  intro doc member
  exact read.collected doc (List.mem_reverse.mp member)

end Reference

end TraceScope
