import Mathlib.Data.List.Chain
import TraceScope.Proofs.Inheritance
import TraceScope.Proofs.ShortestDigits
import TraceScope.Proofs.WrittenDocuments

/-!
# Values that are read back as they are

Where a value is written and read back, halves of one pair that stand side by side become one
character, a number becomes the one that its digits are read as, and of members with one name the
last is kept. A value is steady if none of this changes it. What is read from a file of characters
is steady, and so is what is made of its parts.
-/

namespace TraceScope

/-! ### Halves of pairs -/

namespace Json

variable {before : List Letter} {sps : List Spelling} {raw : List Letter}

theorem arePaired_iff {l l' : Letter} :
    arePaired l l' = true ↔ isHighSurrogate l.code = true ∧ isLowSurrogate l'.code = true := by
  have high := fun c : Char => (isSurrogate_code c rfl).1
  have low := fun c : Char => (isSurrogate_code c rfl).2
  cases l <;> cases l' <;> simp [arePaired, high, low]

/-- The letter of a code unit is half of a pair if the unit is. -/
theorem isSurrogate_ofCode (n : Nat) :
    isHighSurrogate (Letter.ofCode n).code = isHighSurrogate n ∧
      isLowSurrogate (Letter.ofCode n).code = isLowSurrogate n := by
  unfold Letter.ofCode
  split
  · rename_i within
    have same : (Letter.half ⟨n - Letter.firstHalf, by omega⟩).code = n :=
      Nat.add_sub_of_le within.1
    rw [same]
    exact ⟨rfl, rfl⟩
  · rename_i beyond
    obtain ⟨high, low⟩ := isSurrogate_code (Char.ofNat n) rfl
    rw [Letter.code_char, high, low]
    unfold isHighSurrogate isLowSurrogate
    simp only [Letter.firstHalf] at beyond
    constructor <;> simp only [Bool.false_eq, Bool.and_eq_false_iff, decide_eq_false_iff_not] <;>
      omega

/-- No half is followed by the other half of a pair. -/
def Apart (ls : List Letter) : Prop := ls.IsChain fun l l' => arePaired l l' = false

theorem Apart.joined_eq {ls : List Letter} (apart : Apart ls) : joined ls = ls := by
  induction ls using joined.induct with
  | case1 => rfl
  | case2 l => rfl
  | case3 l l' ls paired ih =>
    rw [(List.isChain_cons_cons.mp apart).1] at paired
    cases paired
  | case4 l l' ls single ih =>
    rw [joined, if_neg single, ih (List.isChain_cons_cons.mp apart).2]

theorem arePaired_char_right (l : Letter) (c : Char) : arePaired l (.char c) = false := by
  cases l <;> rfl

theorem apart_chars (cs : List Char) : Apart (cs.map .char) := by
  induction cs with
  | nil => exact .nil
  | cons c cs ih => exact List.isChain_cons.mpr ⟨fun _ _ => rfl, ih⟩

theorem apart_join {ls ls' : List Letter} (first : Apart ls) (c : Char) (cs : List Char)
    (second : Apart ls') : Apart (ls ++ (c :: cs).map .char ++ ls') := by
  refine List.IsChain.append ?_ second ?_
  · refine List.IsChain.append first (apart_chars (c :: cs)) fun l _ l' next => ?_
    obtain rfl := Option.some.inj next
    exact arePaired_char_right l c
  · intro l last l' _
    have some : (c :: cs).map Letter.char ≠ [] := List.cons_ne_nil _ _
    rw [List.getLast?_append_of_ne_nil _ some] at last
    obtain ⟨d, _, rfl⟩ := List.mem_map.mp (List.mem_of_getLast? last)
    rfl

/-- A letter can come after others if it is not the second half of a pair with the last of them. -/
theorem apart_reverse_cons {l : Letter} (apart : Apart before.reverse)
    (single : ∀ last ∈ before.head?, arePaired last l = false) : Apart (l :: before).reverse := by
  rw [List.reverse_cons]
  refine List.IsChain.append apart (List.isChain_singleton l) fun last known l' next => ?_
  obtain rfl := Option.some.inj next
  rw [List.getLast?_reverse] at known
  exact single last known

/-- Halves that are told by numbers are joined as they are read, so no two are left side by side. -/
theorem apart_lettersAfter (chars : ∀ l, .letter l ∈ sps → ∃ c, l = .char c)
    (apart : Apart before.reverse)
    (next : ∀ last ∈ before.head?, ∀ n rest, sps = .unit n :: rest →
      arePaired last (.ofCode n) = false) : Apart (lettersAfter before sps) := by
  -- Besides what was read, the induction carries that its last letter does not make a pair with
  -- a code unit that comes next.
  induction before, sps using lettersAfter.induct with
  | case1 before high low rest paired ih =>
    rw [lettersAfter, if_pos paired]
    refine ih (fun l member => chars l (List.mem_cons_of_mem _ (List.mem_cons_of_mem _ member)))
      (apart_reverse_cons apart fun last _ => arePaired_char_right last _) ?_
    intro last known n rest same
    obtain rfl := Option.some.inj known
    rfl
  | case2 before high low rest single ih =>
    rw [lettersAfter, if_neg single]
    refine ih (fun l member => chars l (List.mem_cons_of_mem _ member))
      (apart_reverse_cons apart fun last known => next last known high _ rfl) ?_
    intro last known n rest same
    obtain rfl := Option.some.inj known
    obtain rfl := Spelling.unit.inj (List.cons.inj same).1
    refine Bool.eq_false_iff.mpr fun paired => single ?_
    rw [arePaired_iff, (isSurrogate_ofCode high).1, (isSurrogate_ofCode low).2] at paired
    exact Bool.and_eq_true_iff.mpr paired
  | case3 before n rest alone ih =>
    rw [lettersAfter_unit before fun low rest' same => absurd same (alone low rest')]
    refine ih (fun l member => chars l (List.mem_cons_of_mem _ member))
      (apart_reverse_cons apart fun last known => next last known n _ rfl) ?_
    exact fun _ _ low rest' same => absurd same (alone low rest')
  | case4 before l rest ih =>
    obtain ⟨c, rfl⟩ := chars l List.mem_cons_self
    rw [lettersAfter]
    refine ih (fun l member => chars l (List.mem_cons_of_mem _ member))
      (apart_reverse_cons apart fun last _ => arePaired_char_right last c) ?_
    intro last known n rest same
    obtain rfl := Option.some.inj known
    rfl
  | case5 before => exact apart

/-- A string of characters spells characters and code units. -/
theorem spellingsAfter_chars {spelt : List Spelling}
    (former : ∀ l, .letter l ∈ spelt → ∃ c, l = .char c) (chars : ∀ l ∈ raw, ∃ c, l = .char c) :
    ∀ l, .letter l ∈ spellingsAfter spelt raw → ∃ c, l = .char c := by
  have push : ∀ {spelt : List Spelling} {c : Char},
      (∀ l, .letter l ∈ spelt → ∃ c, l = .char c) →
        ∀ l, .letter l ∈ Spelling.letter (.char c) :: spelt → ∃ c, l = .char c := by
    intro spelt c former l member
    rcases List.mem_cons.mp member with same | old
    · exact ⟨c, Spelling.letter.inj same⟩
    · exact former l old
  induction spelt, raw using spellingsAfter.induct with
  | case1 spelt a b c d rest ih =>
    rw [spellingsAfter]
    refine ih (fun l member => ?_) fun l member => chars l (by simp [member])
    rcases List.mem_cons.mp member with same | old
    · cases same
    · exact former l old
  | case2 spelt c rest other ih =>
    rw [spellingsAfter]
    · exact ih (push former) fun l member => chars l (by simp [member])
    · exact other
  | case3 spelt l rest noUnit noEscape ih =>
    rw [spellingsAfter]
    · obtain ⟨c, rfl⟩ := chars l List.mem_cons_self
      exact ih (push former) fun l member => chars l (List.mem_cons_of_mem _ member)
    · exact noUnit
    · exact noEscape
  | case4 spelt =>
    rw [spellingsAfter]
    exact fun l member => former l (List.mem_reverse.mp member)

theorem apart_stringText (chars : ∀ l ∈ raw, ∃ c, l = .char c) : Apart (stringText raw).letters :=
  apart_lettersAfter (spellingsAfter_chars (fun _ none => absurd none List.not_mem_nil) chars) .nil
    (fun _ none => absurd none (Option.not_mem_none _))

end Json

/-! ### Values -/

namespace Table

variable {κ ν : Type} [DecidableEq κ]

theorem alterEntries_absent {k : κ} (f : Option ν → ν) {es : List (κ × ν)}
    (absent : k ∉ es.map (·.1)) : alterEntries k f es = es ++ [(k, f none)] := by
  induction es with
  | nil => rfl
  | cons e rest ih =>
    have other : e.1 ≠ k := fun same => absent (same ▸ List.mem_cons_self)
    rw [alterEntries, if_neg other, ih fun later => absent (List.mem_cons_of_mem _ later)]
    rfl

theorem entries_ofList {pairs : List (κ × ν)} (distinct : (pairs.map (·.1)).Nodup) :
    (ofList pairs).entries = pairs := by
  -- The pair that is inserted last is the last one of the list.
  induction pairs using List.reverseRecOn with
  | nil => rfl
  | append_singleton pairs p ih =>
    rw [List.map_append, List.nodup_append] at distinct
    have absent : p.1 ∉ pairs.map (·.1) := fun member =>
      distinct.2.2 p.1 member p.1 (List.mem_singleton_self _) rfl
    have former := ih distinct.1
    unfold ofList at former ⊢
    rw [List.foldl_append]
    change alterEntries p.1 (fun _ => p.2) _ = _
    rw [former, alterEntries_absent _ absent]

end Table

namespace Value

/-- Nothing in a value is read otherwise than it was written. -/
inductive Steady : Value → Prop
  | null : Steady .null
  | bool (b : Bool) : Steady (.bool b)
  | int (n : Int) : Steady (.int n)
  | double {x : Binary64} (same : x.reread = x) : Steady (.double x)
  | decimal (x : Decimal) : Steady (.decimal x)
  | text {t : Text} (apart : Json.Apart t.letters) : Steady (.text t)
  | list {vs : List Value} (items : ∀ v ∈ vs, Steady v) : Steady (.list vs)
  | object {ms : List (Text × Value)} (distinct : (ms.map (·.1)).Nodup)
    (names : ∀ m ∈ ms, Json.Apart m.1.letters) (parts : ∀ m ∈ ms, Steady m.2) :
    Steady (.object ms)

theorem rereadItems_eq_map (vs : List Value) : rereadItems vs = vs.map reread := by
  induction vs with
  | nil => rfl
  | cons v rest ih => rw [rereadItems, ih, List.map_cons]

theorem rereadMembers_eq_map (ms : List (Text × Value)) :
    rereadMembers ms = ms.map fun m => (rereadText m.1, reread m.2) := by
  induction ms with
  | nil => rfl
  | cons m rest ih => rw [rereadMembers, ih, List.map_cons]

theorem rereadText_eq {t : Text} (apart : Json.Apart t.letters) : rereadText t = t :=
  congrArg Text.mk apart.joined_eq

/-- A steady value is read back as it is. -/
theorem Steady.reread_eq {v : Value} (steady : v.Steady) : v.reread = v := by
  induction steady with
  | null | bool | int | decimal => rfl
  | double same => exact congrArg Value.double same
  | text apart => exact congrArg Value.text (rereadText_eq apart)
  | list items ih =>
    rw [reread, rereadItems_eq_map, List.map_congr_left ih, List.map_id']
  | @object ms distinct names parts ih =>
    have same : ∀ m ∈ ms, (rereadText m.1, reread m.2) = m := fun m member =>
      Prod.ext (rereadText_eq (names m member)) (ih m member)
    rw [reread, rereadMembers_eq_map, List.map_congr_left same, List.map_id',
      Table.entries_ofList distinct]

theorem Steady.apart {t : Text} (steady : Steady (.text t)) : Json.Apart t.letters := by
  cases steady with
  | text apart => exact apart

theorem steady_list {vs : List Value} : Steady (.list vs) ↔ ∀ v ∈ vs, v.Steady :=
  ⟨fun steady => by cases steady with | list items => exact items, .list⟩

theorem steady_inherited : Inherited Steady where
  null := .null
  bool := .bool
  int := .int
  quotient s n _ positive := .double (Binary64.reread_ofRatio s n positive)
  list := steady_list
  object distinct parts :=
    .object distinct (fun m member => (parts m member).1.apart) fun m member => (parts m member).2
  members := by
    rintro ms (_ | _ | _ | _ | _ | _ | _ | ⟨_, names, parts⟩) m member
    exact ⟨.text (names m member), parts m member⟩
  chars cs := .text (Json.apart_chars cs)
  letters _ l _ := .text (List.isChain_singleton l)
  cut n whole := .text (whole.apart.take n)
  join c cs first second := .text (Json.apart_join first.apart c cs second.apart)

end Value

/-! ### Reading -/

namespace Json

/-- What is read from characters is steady: fractions are rounded, and halves of pairs joined. -/
theorem document_steady (limited : Bool) (maxDepth : Option Nat) :
    (Dialect.document limited maxDepth).Yields (fun l => ∃ c, l = .char c) Value.Steady :=
  document_yields Value.steady_inherited limited maxDepth (.double rfl) (fun _ => .double rfl)
    (fun s c q => .double (Binary64.reread_ofDecimal s c q))
    fun _ chars => .text (apart_stringText chars)

end Json

end TraceScope
