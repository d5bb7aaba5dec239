import Mathlib.Data.List.Basic
import TraceScope.Json.Reader
import TraceScope.Json.Writer

/-!
# Texts as they are written

A text in a document is written between quotes, in ASCII. It is read back letter by letter. Two
halves that make a pair become one character, as a pair is spelt like the character.
-/

namespace TraceScope.Json

variable {n : Nat} {c : Char} {cs ds : List Char} {l : Letter} {ls rest : List Letter}
  {before : List Letter} {sps more : List Spelling}

/-! ### Hexadecimal digits -/

theorem hexValue?_digitChar : ∀ d < 16, Text.hexValue? d.digitChar = some d := by decide

theorem mem_toDigits {b : Nat} (two : 1 < b) (member : c ∈ Nat.toDigits b n) :
    ∃ d < b, c = d.digitChar := by
  induction n using Nat.strongRecOn with
  | ind n ih =>
    rcases Nat.lt_or_ge n b with small | large
    · rw [Nat.toDigits_of_lt_base small, List.mem_singleton] at member
      exact ⟨n, small, member⟩
    · rw [Nat.toDigits_of_base_le two large] at member
      rcases List.mem_append.mp member with first | last
      · exact ih (n / b) (Nat.div_lt_self (by omega) two) first
      · exact ⟨n % b, Nat.mod_lt n (by omega), List.mem_singleton.mp last⟩

def ofHex (cs : List Char) : Nat := cs.foldl (fun n c => 16 * n + (Text.hexValue? c).getD 0) 0

theorem ofHex_concat (cs : List Char) (c : Char) :
    ofHex (cs ++ [c]) = 16 * ofHex cs + (Text.hexValue? c).getD 0 := by
  rw [ofHex, List.foldl_append]
  rfl

theorem ofHex_toDigits (n : Nat) : ofHex (Nat.toDigits 16 n) = n := by
  induction n using Nat.strongRecOn with
  | ind n ih =>
    rcases Nat.lt_or_ge n 16 with small | large
    · rw [Nat.toDigits_of_lt_base small, ← List.nil_append [_], ofHex_concat,
        hexValue?_digitChar n small]
      exact Nat.zero_add n
    · rw [Nat.toDigits_of_base_le (by decide) large, ofHex_concat, ih (n / 16) (by omega),
        hexValue?_digitChar _ (Nat.mod_lt n (by decide))]
      exact Nat.div_add_mod n 16

theorem ofHex_zeros (k : Nat) (cs : List Char) :
    ofHex (List.replicate k '0' ++ cs) = ofHex cs := by
  induction k with
  | zero => rfl
  | succ k ih => exact ih

/-- A code unit is told in four hexadecimal digits. -/
theorem hexDigits_four (small : n < 0x10000) : ∃ w x y z, Text.hexDigits 4 n = [w, x, y, z] ∧
    (∀ c ∈ [w, x, y, z], (Text.hexValue? c).isSome = true) ∧ ofHex [w, x, y, z] = n := by
  have short : (Nat.toDigits 16 n).length ≤ 4 :=
    (Nat.length_toDigits_le_iff (by decide) (by decide)).mpr small
  have length : (Text.hexDigits 4 n).length = 4 := by
    rw [Text.hexDigits, List.length_append, List.length_replicate]
    omega
  have digits : ∀ c ∈ Text.hexDigits 4 n, (Text.hexValue? c).isSome = true := by
    intro c member
    rcases List.mem_append.mp member with zero | digit
    · rw [List.eq_of_mem_replicate zero]
      rfl
    · obtain ⟨d, less, rfl⟩ := mem_toDigits (by decide) digit
      rw [hexValue?_digitChar d less]
      rfl
  have value : ofHex (Text.hexDigits 4 n) = n := by
    rw [Text.hexDigits, ofHex_zeros, ofHex_toDigits]
  obtain ⟨w, later, first⟩ := List.exists_cons_of_length_eq_add_one length
  rw [first, List.length_cons, Nat.add_right_cancel_iff] at length
  obtain ⟨x, y, z, rfl⟩ := List.length_eq_three.mp length
  rw [first] at digits value
  exact ⟨w, x, y, z, first, digits, value⟩

/-! ### Escapes -/

/-- Characters that spell letters and code units: a character stands for itself, or for another one
after a backslash, or four digits tell a code unit. -/
inductive Spells : List Char → List Spelling → Prop
  | nil : Spells [] []
  | plain {c : Char} {cs : List Char} {sps : List Spelling} (quote : c ≠ Text.quotationMark)
      (backslash : c ≠ '\\') (shown : 32 ≤ c.toNat) (later : Spells cs sps) :
      Spells (c :: cs) (.letter (.char c) :: sps)
  | escape {c d : Char} {cs : List Char} {sps : List Spelling} (other : c ≠ 'u')
      (known : simpleEscape? c = some d) (later : Spells cs sps) :
      Spells ('\\' :: c :: cs) (.letter (.char d) :: sps)
  | unit {n : Nat} {cs : List Char} {sps : List Spelling} (small : n < 0x10000)
      (later : Spells cs sps) : Spells (escapeUnit n ++ cs) (.unit n :: sps)

theorem Spells.append (first : Spells cs sps) (second : Spells ds more) :
    Spells (cs ++ ds) (sps ++ more) := by
  induction first with
  | nil => exact second
  | plain quote backslash shown _ ih => exact .plain quote backslash shown ih
  | escape other known _ ih => exact .escape other known ih
  | unit small _ ih =>
    rw [List.append_assoc]
    exact .unit small ih

/-- A character that is taken as it stands. -/
theorem spanString_plain (quote : c ≠ Text.quotationMark) (backslash : c ≠ '\\')
    (shown : 32 ≤ c.toNat) (before rest : List Letter) :
    spanString before false (.char c :: rest) = spanString (.char c :: before) false rest := by
  have open' : isQuote (.char c) = false := decide_eq_false fun same => quote (Letter.char.inj same)
  have other : ¬(.char c : Letter) = .char '\\' := fun same => backslash (Letter.char.inj same)
  have visible : ¬(Letter.char c).code < 32 := Nat.not_lt.mpr shown
  rw [spanString, if_neg Bool.false_ne_true, open', if_neg Bool.false_ne_true, if_neg other,
    if_neg visible]

theorem plain_of_hexValue? (hex : (Text.hexValue? c).isSome = true) :
    c ≠ Text.quotationMark ∧ c ≠ '\\' ∧ 32 ≤ c.toNat := by
  have bounds : 48 ≤ c.toNat ∧ c.toNat ≤ 57 ∨ 65 ≤ c.toNat ∧ c.toNat ≤ 70 ∨
      97 ≤ c.toNat ∧ c.toNat ≤ 102 := by
    unfold Text.hexValue? at hex
    split at hex
    · rename_i digit
      simp only [Char.isDigit, Bool.and_eq_true, decide_eq_true_eq] at digit
      exact Or.inl digit
    · split at hex
      · rename_i small
        exact Or.inr (Or.inr small)
      · split at hex
        · rename_i large
          exact Or.inr (Or.inl large)
        · cases hex
  have quote : Text.quotationMark.toNat = 34 := rfl
  have backslash : '\\'.toNat = 92 := rfl
  refine ⟨?_, ?_, by omega⟩
  · rintro rfl
    omega
  · rintro rfl
    omega

theorem spanString_backslash (before rest : List Letter) :
    spanString before false (.char '\\' :: rest) = spanString (.char '\\' :: before) true rest := by
  rw [spanString, if_neg Bool.false_ne_true, if_neg (by decide), if_pos rfl]

theorem spanString_escaped (starts : startsEscape (l :: rest.take 4) = true) (before : List Letter) :
    spanString before true (l :: rest) = spanString (l :: before) false rest := by
  rw [spanString, if_pos rfl, if_pos starts]

theorem startsEscape_simple {d : Char} (other : c ≠ 'u') (known : simpleEscape? c = some d)
    (ls : List Letter) : startsEscape (.char c :: ls) = true := by
  unfold startsEscape
  split
  · rename_i same
    exact absurd (Letter.char.inj (List.cons.inj same).1) other
  · rename_i same
    rw [← Letter.char.inj (List.cons.inj same).1, known]
    rfl
  · rename_i nothing
    exact absurd rfl (nothing c ls)

theorem spanString_unit (small : n < 0x10000) (before rest : List Letter) :
    spanString before false ((escapeUnit n).map .char ++ rest) =
      spanString (((escapeUnit n).map .char).reverse ++ before) false rest := by
  obtain ⟨w, x, y, z, digits, hex, _⟩ := hexDigits_four small
  have starts : startsEscape (.char 'u' :: [w, x, y, z].map Letter.char) = true := by
    have all : ([w, x, y, z].map Letter.char).all isHexDigit = true :=
      List.all_eq_true.mpr fun l member => by
        obtain ⟨c, present, rfl⟩ := List.mem_map.mp member
        exact hex c present
    exact all
  obtain ⟨hw, hx, hy, hz⟩ : (Text.hexValue? w).isSome = true ∧ (Text.hexValue? x).isSome = true ∧
      (Text.hexValue? y).isSome = true ∧ (Text.hexValue? z).isSome = true := by
    simpa using hex
  have plain : ∀ {c : Char}, (Text.hexValue? c).isSome = true → ∀ before rest,
      spanString before false (.char c :: rest) = spanString (.char c :: before) false rest :=
    fun hex =>
      have ⟨quote, backslash, shown⟩ := plain_of_hexValue? hex
      spanString_plain quote backslash shown
  rw [escapeUnit, digits]
  change spanString before false (.char '\\' :: .char 'u' :: .char w :: .char x :: .char y ::
    .char z :: rest) = _
  rw [spanString_backslash, spanString_escaped starts, plain hw, plain hx, plain hy, plain hz]
  rfl

/-- A string ends at the first quote that is not escaped. -/
theorem Spells.spanString (spells : Spells cs sps) (before rest : List Letter) :
    spanString before false (cs.map .char ++ .char Text.quotationMark :: rest) =
      some (before.reverse ++ cs.map .char) := by
  induction spells generalizing before with
  | nil => rw [List.map_nil, List.append_nil]; rfl
  | plain quote backslash shown _ ih =>
    rw [List.map_cons, List.cons_append, spanString_plain quote backslash shown, ih,
      List.reverse_cons, List.append_assoc]
    rfl
  | escape other known _ ih =>
    rw [List.map_cons, List.map_cons, List.cons_append, List.cons_append, spanString_backslash,
      spanString_escaped (startsEscape_simple other known _), ih]
    simp
  | unit small _ ih =>
    rw [List.map_append, List.append_assoc, spanString_unit small, ih]
    simp

theorem spellingsAfter_plain (backslash : c ≠ '\\') (before : List Spelling) (ls : List Letter) :
    spellingsAfter before (.char c :: ls) = spellingsAfter (.letter (.char c) :: before) ls := by
  rw [spellingsAfter.eq_def]
  split
  · rename_i same
    exact absurd (Letter.char.inj (List.cons.inj same).1) backslash
  · rename_i same
    exact absurd (Letter.char.inj (List.cons.inj same).1) backslash
  · rename_i same
    obtain ⟨rfl, rfl⟩ := List.cons.inj same
    rfl
  · rename_i nothing
    cases nothing

theorem spellingsAfter_escape {d : Char} (other : c ≠ 'u') (known : simpleEscape? c = some d)
    (before : List Spelling) (ls : List Letter) :
    spellingsAfter before (.char '\\' :: .char c :: ls) =
      spellingsAfter (.letter (.char d) :: before) ls := by
  rw [spellingsAfter.eq_def]
  split
  · rename_i same
    exact absurd (Letter.char.inj (List.cons.inj (List.cons.inj same).2).1) other
  · rename_i same
    obtain ⟨_, same⟩ := List.cons.inj same
    obtain ⟨first, rfl⟩ := List.cons.inj same
    rw [← Letter.char.inj first, known]
    rfl
  · rename_i none same
    obtain ⟨rfl, rfl⟩ := List.cons.inj same
    exact absurd rfl (none c _ rfl)
  · rename_i nothing
    cases nothing

theorem spellingsAfter_unit (small : n < 0x10000) (before : List Spelling) (ls : List Letter) :
    spellingsAfter before ((escapeUnit n).map .char ++ ls) =
      spellingsAfter (.unit n :: before) ls := by
  obtain ⟨w, x, y, z, digits, _, value⟩ := hexDigits_four small
  have step : spellingsAfter before (.char '\\' :: .char 'u' :: .char w :: .char x :: .char y ::
      .char z :: ls) = spellingsAfter (.unit (ofHex [w, x, y, z]) :: before) ls := by
    rw [spellingsAfter.eq_def]
    rfl
  rw [escapeUnit, digits]
  exact step.trans (by rw [value])

theorem Spells.spellings (spells : Spells cs sps) (before : List Spelling) :
    spellingsAfter before (cs.map .char) = before.reverse ++ sps := by
  induction spells generalizing before with
  | nil => rw [List.append_nil]; rfl
  | plain quote backslash shown _ ih =>
    rw [List.map_cons, spellingsAfter_plain backslash, ih, List.reverse_cons, List.append_assoc]
    rfl
  | escape other known _ ih =>
    rw [List.map_cons, List.map_cons, spellingsAfter_escape other known, ih, List.reverse_cons,
      List.append_assoc]
    rfl
  | unit small _ ih =>
    rw [List.map_append, spellingsAfter_unit small, ih, List.reverse_cons, List.append_assoc]
    rfl

/-! ### Letters -/

/-- Characters that are spelt as letters: those of ASCII that can be shown, and the control characters
with an escape of their own. -/
def isSpelt (c : Char) : Prop :=
  c.toNat ∈ [8, 9, 10, 12, 13] ∨ 32 ≤ c.toNat ∧ c.toNat ≤ 126

instance (c : Char) : Decidable (isSpelt c) := inferInstanceAs (Decidable (_ ∨ _))

/-- What a letter is spelt as; other characters take one code unit or two. -/
def spellingOf : Letter → List Spelling
  | .half n => [.unit (Letter.half n).code]
  | .char c =>
    if isSpelt c then [.letter (.char c)]
    else if c.toNat < 0x10000 then [.unit c.toNat]
    else [.unit (0xd800 + (c.toNat - 0x10000) / 0x400),
      .unit (0xdc00 + (c.toNat - 0x10000) % 0x400)]

theorem Spells.one_escape {d : Char} (other : c ≠ 'u') (known : simpleEscape? c = some d) :
    Spells ['\\', c] [.letter (.char d)] := .escape other known .nil

theorem Spells.one_unit (small : n < 0x10000) : Spells (escapeUnit n) [.unit n] := by
  have single := Spells.unit small .nil
  rwa [List.append_nil] at single

theorem char_bounds (c : Char) :
    c.toNat < 0xd800 ∨ 0xdfff < c.toNat ∧ c.toNat < 0x110000 := by
  have valid := c.valid
  simp only [UInt32.isValidChar, Nat.isValidChar] at valid
  exact valid

theorem eq_ofNat {c : Char} {n : Nat} (same : c.toNat = n) : c = Char.ofNat n :=
  (Char.ofNat_toNat c).symm.trans (congrArg Char.ofNat same)

theorem spells_char (c : Char) : Spells (escapeChar c) (spellingOf (.char c)) := by
  have bounds := char_bounds c
  unfold escapeChar
  dsimp only
  split
  · rename_i mark
    rcases mark with rfl | rfl
    · exact .one_escape (by decide) (by decide)
    · exact .one_escape (by decide) (by decide)
  rename_i mark
  split
  · rename_i newline
    rw [newline]
    exact .one_escape (by decide) (by decide)
  rename_i newline
  split
  · rename_i return'
    rw [return']
    exact .one_escape (by decide) (by decide)
  rename_i return'
  split
  · rename_i tab
    rw [tab]
    exact .one_escape (by decide) (by decide)
  rename_i tab
  split
  · rename_i feed
    rw [eq_ofNat feed]
    exact .one_escape (by decide) (by decide)
  rename_i feed
  split
  · rename_i back
    rw [eq_ofNat back]
    exact .one_escape (by decide) (by decide)
  rename_i back
  split
  · rename_i shown
    have spelt : isSpelt c := Or.inr shown
    rw [spellingOf, if_pos spelt]
    exact .plain (fun same => mark (Or.inl same)) (fun same => mark (Or.inr same)) shown.1 .nil
  rename_i hidden
  have other : ¬isSpelt c := by
    rintro (control | shown)
    · simp only [List.mem_cons, List.not_mem_nil, or_false] at control
      rcases control with code | code | code | code | code
      · exact back code
      · exact tab (eq_ofNat code)
      · exact newline (eq_ofNat code)
      · exact feed code
      · exact return' (eq_ofNat code)
    · exact hidden shown
  split
  · rename_i small
    rw [spellingOf, if_neg other, if_pos small]
    exact .one_unit small
  · rename_i large
    rw [spellingOf, if_neg other, if_neg large]
    exact (Spells.one_unit (by omega)).append (.one_unit (by omega))

theorem spells_letter (l : Letter) : Spells (escapeLetter l) (spellingOf l) := by
  cases l with
  | char c => exact spells_char c
  | half n =>
    have small : (Letter.half n).code < 0x10000 := by
      have := n.isLt
      simp only [Letter.code, Letter.firstHalf]
      omega
    exact .one_unit small

theorem spells_letters (ls : List Letter) :
    Spells (ls.flatMap escapeLetter) (ls.flatMap spellingOf) := by
  induction ls with
  | nil => exact .nil
  | cons l ls ih => exact (spells_letter l).append ih

/-! ### Halves of pairs -/

/-- Two letters that are halves of one pair. -/
def arePaired : Letter → Letter → Bool
  | .half a, .half b =>
    isHighSurrogate (Letter.half a).code && isLowSurrogate (Letter.half b).code
  | _, _ => false

/-- The letters of a text with each two halves of a pair joined. -/
def joined : List Letter → List Letter
  | [] => []
  | [l] => [l]
  | l :: l' :: ls =>
    if arePaired l l' then .char (joinSurrogates l.code l'.code) :: joined ls
    else l :: joined (l' :: ls)

theorem isSurrogate_code {n : Nat} (c : Char) (same : c.toNat = n) :
    isHighSurrogate n = false ∧ isLowSurrogate n = false := by
  have bounds := char_bounds c
  unfold isHighSurrogate isLowSurrogate
  simp only [Bool.and_eq_false_iff, decide_eq_false_iff_not]
  omega

/-- A code unit is taken alone unless it and the next one make a pair. -/
theorem lettersAfter_unit (before : List Letter)
    (alone : ∀ low rest, sps = .unit low :: rest →
      (isHighSurrogate n && isLowSurrogate low) = false) :
    lettersAfter before (.unit n :: sps) = lettersAfter (.ofCode n :: before) sps := by
  rw [lettersAfter.eq_def]
  split
  · rename_i low rest same
    obtain ⟨first, rfl⟩ := List.cons.inj same
    obtain rfl := Spelling.unit.inj first
    rw [alone low rest rfl, if_neg Bool.false_ne_true]
  · rename_i same
    obtain ⟨first, rfl⟩ := List.cons.inj same
    obtain rfl := Spelling.unit.inj first
    rfl
  · rename_i same
    cases (List.cons.inj same).1
  · rename_i nothing
    cases nothing

theorem lettersAfter_pair {high low : Nat} (paired : (isHighSurrogate high && isLowSurrogate low) = true)
    (before : List Letter) (sps : List Spelling) :
    lettersAfter before (.unit high :: .unit low :: sps) =
      lettersAfter (.char (joinSurrogates high low) :: before) sps := by
  rw [lettersAfter, if_pos paired]

/-- A letter is read as it is spelt, unless it is a first half and a second half comes next. -/
theorem lettersAfter_spelling (before : List Letter) (l : Letter)
    (alone : ∀ low rest, sps = .unit low :: rest → isLowSurrogate low = true →
      isHighSurrogate l.code = false) :
    lettersAfter before (spellingOf l ++ sps) = lettersAfter (l :: before) sps := by
  have single : ∀ low rest, sps = .unit low :: rest →
      (isHighSurrogate l.code && isLowSurrogate low) = false := by
    intro low rest next
    cases second : isLowSurrogate low with
    | false => exact Bool.and_false _
    | true => rw [alone low rest next second, Bool.false_and]
  have taken : lettersAfter before (.unit l.code :: sps) = lettersAfter (l :: before) sps := by
    rw [lettersAfter_unit before single, Letter.ofCode_code]
  cases l with
  | half n => exact taken
  | char c =>
    rw [spellingOf]
    split
    · rfl
    · split
      · exact taken
      · -- A character beyond the first plane is spelt as a pair, which is joined again.
        rename_i large
        have bounds := char_bounds c
        have paired : (isHighSurrogate (0xd800 + (c.toNat - 0x10000) / 0x400) &&
            isLowSurrogate (0xdc00 + (c.toNat - 0x10000) % 0x400)) = true := by
          unfold isHighSurrogate isLowSurrogate
          simp only [Bool.and_eq_true, decide_eq_true_eq]
          omega
        have whole : joinSurrogates (0xd800 + (c.toNat - 0x10000) / 0x400)
            (0xdc00 + (c.toNat - 0x10000) % 0x400) = c := by
          unfold joinSurrogates
          exact (eq_ofNat (by omega)).symm
        refine (lettersAfter_pair paired before sps).trans ?_
        rw [whole]

/-- A second half comes first only where a second half was written first. -/
theorem code_of_low {low : Nat} {rest : List Spelling} (l : Letter)
    (first : spellingOf l ++ sps = .unit low :: rest) (second : isLowSurrogate low = true) :
    ∃ n, l = .half n ∧ low = l.code := by
  cases l with
  | half n => exact ⟨n, rfl, (Spelling.unit.inj (List.cons.inj first).1).symm⟩
  | char c =>
    exfalso
    rw [spellingOf] at first
    split at first
    · cases (List.cons.inj first).1
    · split at first
      · rw [← Spelling.unit.inj (List.cons.inj first).1, (isSurrogate_code c rfl).2] at second
        cases second
      · rw [← Spelling.unit.inj (List.cons.inj first).1] at second
        have bounds := char_bounds c
        unfold isLowSurrogate at second
        simp only [Bool.and_eq_true, decide_eq_true_eq] at second
        omega

theorem lettersAfter_spellings (ls before : List Letter) :
    lettersAfter before (ls.flatMap spellingOf) = before.reverse ++ joined ls := by
  induction ls using joined.induct generalizing before with
  | case1 => exact (List.append_nil before.reverse).symm
  | case2 l =>
    have alone : ∀ low rest, ([] : List Spelling) = .unit low :: rest →
        isLowSurrogate low = true → isHighSurrogate l.code = false := nofun
    exact (lettersAfter_spelling before l alone).trans List.reverse_cons
  | case3 l l' ls paired ih =>
    rw [joined, if_pos paired]
    cases l with
    | char c => cases paired
    | half a =>
      cases l' with
      | char c => cases paired
      | half b =>
        refine (lettersAfter_pair paired before (ls.flatMap spellingOf)).trans ?_
        rw [ih, List.reverse_cons, List.append_assoc]
        rfl
  | case4 l l' ls single ih =>
    have alone : ∀ low rest, (l' :: ls).flatMap spellingOf = .unit low :: rest →
        isLowSurrogate low = true → isHighSurrogate l.code = false := by
      intro low rest next second
      obtain ⟨b, rfl, rfl⟩ := code_of_low l' next second
      cases l with
      | char c => exact (isSurrogate_code c rfl).1
      | half a =>
        have apart : (isHighSurrogate (Letter.half a).code &&
            isLowSurrogate (Letter.half b).code) = false := Bool.not_eq_true _ ▸ single
        rwa [second, Bool.and_true] at apart
    rw [List.flatMap_cons, lettersAfter_spelling before l alone, ih, joined, if_neg single,
      List.reverse_cons, List.append_assoc]
    rfl

/-- What is read between the quotes of a text: its letters, with each two halves of a pair
joined. -/
theorem stringText_written (t : Text) :
    stringText ((t.letters.flatMap escapeLetter).map .char) = ⟨joined t.letters⟩ := by
  unfold stringText Json.spellings
  rw [(spells_letters t.letters).spellings, List.reverse_nil, List.nil_append,
    lettersAfter_spellings]
  rfl

end TraceScope.Json
