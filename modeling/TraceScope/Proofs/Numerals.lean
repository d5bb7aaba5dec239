import Mathlib.Data.List.TakeWhile
import TraceScope.Numeric.Integer

/-!
# Integers as they are written

The texts that are read as integers: blanks, a sign or none, digits with single underscores between
them, and blanks. Integers that are short enough to be written are read as themselves.
-/

namespace TraceScope.Integer

/-- Digits with single underscores between them, and the digits alone. -/
inductive Digits : List Char → List Char → Prop
  | single {c : Char} (digit : c.isDigit = true) : Digits [c] [c]
  | next {c : Char} {cs ds : List Char} (digit : c.isDigit = true) (later : Digits cs ds) :
      Digits (c :: cs) (c :: ds)
  | gap {c : Char} {cs ds : List Char} (digit : c.isDigit = true) (later : Digits cs ds) :
      Digits (c :: '_' :: cs) (c :: ds)

/-- The ways to write a sign, and whether it is minus. -/
inductive Sign : List Char → Bool → Prop
  | minus : Sign ['-'] true
  | plus : Sign ['+'] false
  | none : Sign [] false

/-- A text spells an integer if its letters count as blanks, a sign, digits and blanks. -/
def Spelled (t : Text) (n : Int) : Prop :=
  ∃ before sign numeral after negative ds,
    toAscii t = before ++ (sign ++ (numeral ++ after)) ∧
      (∀ c ∈ before, isAsciiBlank c = true) ∧ (∀ c ∈ after, isAsciiBlank c = true) ∧
      Sign sign negative ∧ Digits numeral ds ∧ ds.length ≤ maxDigits ∧
      n = if negative then -(ofDigits ds : Int) else ofDigits ds

variable {b negative : Bool} {c : Char} {cs ds numeral rest after : List Char} {n : Nat} {k : Int}
  {t : Text}

/-! ### Characters -/

theorem digit_bounds : c.isDigit = true ↔ 48 ≤ c.toNat ∧ c.toNat ≤ 57 := by
  simp only [Char.isDigit, Bool.and_eq_true, decide_eq_true_eq]
  exact Iff.rfl

theorem ne_of_digit {d : Char} (digit : c.isDigit = true) (other : d.isDigit = false) : c ≠ d := by
  rintro rfl
  rw [digit] at other
  cases other

theorem not_blank_of_digit (digit : c.isDigit = true) : isAsciiBlank c = false := by
  have bounds := digit_bounds.mp digit
  have space : c ≠ ' ' := ne_of_digit digit rfl
  simp only [isAsciiBlank, space, decide_false, Bool.false_or, Bool.and_eq_false_iff,
    decide_eq_false_iff_not]
  omega

theorem not_digit_of_blank (blank : isAsciiBlank c = true) : c.isDigit = false := by
  by_contra digit
  rw [not_blank_of_digit (Bool.not_eq_false _ ▸ digit)] at blank
  cases blank

theorem ne_of_blank {d : Char} (blank : isAsciiBlank c = true) (other : isAsciiBlank d = false) :
    c ≠ d := by
  rintro rfl
  rw [blank] at other
  cases other

/-! ### Runs of digits -/

theorem Digits.head (digits : Digits numeral ds) :
    ∃ c cs, numeral = c :: cs ∧ c.isDigit = true := by
  cases digits with
  | single digit => exact ⟨_, _, rfl, digit⟩
  | next digit later => exact ⟨_, _, rfl, digit⟩
  | gap digit later => exact ⟨_, _, rfl, digit⟩

theorem Digits.of_forall (some : ds ≠ []) (all : ∀ c ∈ ds, c.isDigit = true) : Digits ds ds := by
  induction ds with
  | nil => exact absurd rfl some
  | cons c ds ih =>
    have digit := all c List.mem_cons_self
    cases ds with
    | nil => exact .single digit
    | cons d ds =>
      apply Digits.next digit
      exact ih (List.cons_ne_nil d ds) fun e member => all e (List.mem_cons_of_mem c member)

theorem spanDigits_digit (digit : c.isDigit = true) (b : Bool) (cs : List Char) :
    spanDigits b (c :: cs) = (spanDigits false cs).map fun r => (c :: r.1, r.2) := by
  have other : c ≠ '_' := ne_of_digit digit rfl
  rw [spanDigits, if_neg other, if_pos digit]

theorem spanDigits_stop (blank : ∀ c ∈ rest, isAsciiBlank c = true) :
    spanDigits b rest = some ([], b, rest) := by
  cases rest with
  | nil => rfl
  | cons c rest =>
    have here := blank c List.mem_cons_self
    have other : c ≠ '_' := ne_of_blank here rfl
    have stop : ¬c.isDigit = true := by simp [not_digit_of_blank here]
    rw [spanDigits, if_neg other, if_neg stop]

theorem eq_of_spanDigits_nil (spanned : spanDigits b cs = some ([], false, rest)) :
    b = false ∧ cs = rest := by
  induction cs generalizing b with
  | nil =>
    cases spanned
    exact ⟨rfl, rfl⟩
  | cons c cs ih =>
    rw [spanDigits] at spanned
    split at spanned
    · split at spanned
      · cases spanned
      · cases (ih spanned).1
    · split at spanned
      · obtain ⟨r, _, first⟩ := Option.map_eq_some_iff.mp spanned
        cases first
      · cases spanned
        exact ⟨rfl, rfl⟩

theorem digits_of_spanDigits (spanned : spanDigits b cs = some (ds, false, rest)) (some : ds ≠ []) :
    ∃ numeral, Digits numeral ds ∧ (cs = numeral ++ rest ∨
      b = false ∧ cs = '_' :: (numeral ++ rest)) := by
  -- An underscore that is read first belongs to no numeral yet: the digit before it takes it in.
  induction cs generalizing b ds with
  | nil =>
    cases spanned
    exact absurd rfl some
  | cons c cs ih =>
    rw [spanDigits] at spanned
    split at spanned
    · rename_i under
      subst under
      split at spanned
      · cases spanned
      · rename_i first
        obtain ⟨numeral, digits, whole | ⟨twice, _⟩⟩ := ih spanned some
        · exact ⟨numeral, digits, .inr ⟨Bool.not_eq_true _ ▸ first, by rw [whole]⟩⟩
        · cases twice
    · split at spanned
      · rename_i digit
        obtain ⟨⟨ds', last, rest'⟩, spanned', same⟩ := Option.map_eq_some_iff.mp spanned
        obtain ⟨rfl, rfl, rfl⟩ : c :: ds' = ds ∧ last = false ∧ rest' = rest := by
          simpa using same
        by_cases single : ds' = []
        · subst single
          obtain ⟨_, rfl⟩ := eq_of_spanDigits_nil spanned'
          exact ⟨[c], .single digit, .inl rfl⟩
        · obtain ⟨numeral, digits, whole | ⟨_, whole⟩⟩ := ih spanned' single
          · exact ⟨c :: numeral, .next digit digits, .inl (by rw [whole]; rfl)⟩
          · exact ⟨c :: '_' :: numeral, .gap digit digits, .inl (by rw [whole]; rfl)⟩
      · cases spanned
        exact absurd rfl some

theorem Digits.spanDigits (digits : Digits numeral ds)
    (blank : ∀ c ∈ rest, isAsciiBlank c = true) (b : Bool) :
    spanDigits b (numeral ++ rest) = some (ds, false, rest) := by
  induction digits generalizing b with
  | single digit =>
    rw [List.singleton_append, spanDigits_digit digit, spanDigits_stop blank]
    rfl
  | next digit _ ih =>
    rw [List.cons_append, spanDigits_digit digit, ih]
    rfl
  | gap digit _ ih =>
    rw [List.cons_append, List.cons_append, spanDigits_digit digit, Integer.spanDigits, if_pos rfl,
      if_neg Bool.false_ne_true, ih]
    rfl

/-! ### Reading -/

theorem spells_of_readUnsigned (read : readUnsigned cs = .ok n) : ∃ numeral after ds,
    cs = numeral ++ after ∧ (∀ c ∈ after, isAsciiBlank c = true) ∧ Digits numeral ds ∧
      ds.length ≤ maxDigits ∧ n = ofDigits ds := by
  unfold readUnsigned at read
  split at read
  · cases read
  · rename_i plain
    split at read
    · cases read
    · rename_i ds under rest spanned
      split at read
      · cases read
      · rename_i proper
        obtain ⟨rfl, some⟩ : under = false ∧ ds ≠ [] := by simpa using proper
        split at read
        · cases read
        · rename_i short
          split at read
          · rename_i blank
            obtain ⟨numeral, digits, whole | ⟨_, whole⟩⟩ := digits_of_spanDigits spanned some
            · exact ⟨numeral, rest, ds, whole, List.all_eq_true.mp blank, digits,
                Nat.le_of_not_lt short, (Except.ok.inj read).symm⟩
            · -- What starts with an underscore has been refused before.
              exact absurd whole (plain _)
          · cases read

theorem Digits.readUnsigned (digits : Digits numeral ds) (short : ds.length ≤ maxDigits)
    (blank : ∀ c ∈ after, isAsciiBlank c = true) :
    readUnsigned (numeral ++ after) = .ok (ofDigits ds) := by
  have some : ds ≠ [] := by
    cases digits <;> exact List.cons_ne_nil _ _
  have proper : ¬(false || ds.isEmpty) = true := by simpa using some
  unfold Integer.readUnsigned
  split
  · rename_i whole
    obtain ⟨c, cs, rfl, digit⟩ := digits.head
    obtain ⟨under, _⟩ := List.cons.inj whole
    exact absurd under (ne_of_digit digit rfl)
  · rw [digits.spanDigits blank]
    dsimp only
    rw [if_neg proper, if_neg (Nat.not_lt.mpr short), if_pos (List.all_eq_true.mpr blank)]

theorem sign_of_splitSign (cs : List Char) :
    ∃ sign, Sign sign (splitSign cs).1 ∧ cs = sign ++ (splitSign cs).2 := by
  unfold splitSign
  split
  · exact ⟨['-'], .minus, rfl⟩
  · exact ⟨['+'], .plus, rfl⟩
  · exact ⟨[], .none, rfl⟩

theorem Sign.splitSign {sign : List Char} (signed : Sign sign negative)
    (digit : c.isDigit = true) (cs : List Char) :
    splitSign (sign ++ c :: cs) = (negative, c :: cs) := by
  cases signed with
  | minus => rfl
  | plus => rfl
  | none =>
    have notMinus : c ≠ '-' := ne_of_digit digit rfl
    have notPlus : c ≠ '+' := ne_of_digit digit rfl
    unfold Integer.splitSign
    split
    · rename_i whole
      exact absurd (List.cons.inj whole).1 notMinus
    · rename_i whole
      exact absurd (List.cons.inj whole).1 notPlus
    · rfl

theorem Sign.dropWhile {sign before : List Char} (signed : Sign sign negative)
    (blank : ∀ c ∈ before, isAsciiBlank c = true) (digit : c.isDigit = true) (cs : List Char) :
    (before ++ (sign ++ c :: cs)).dropWhile isAsciiBlank = sign ++ c :: cs := by
  rw [List.dropWhile_append_of_pos blank]
  cases signed with
  | minus => rfl
  | plus => rfl
  | none => exact List.dropWhile_cons_of_neg (by simp [not_blank_of_digit digit])

theorem read_ok_iff : read t = .ok k ↔ Spelled t k := by
  constructor
  · intro done
    obtain ⟨sign, signed, split⟩ := sign_of_splitSign ((toAscii t).dropWhile isAsciiBlank)
    simp only [read] at done
    split at done
    · cases done
    · rename_i n unsigned
      obtain ⟨numeral, after, ds, whole, blank, digits, short, rfl⟩ :=
        spells_of_readUnsigned unsigned
      refine ⟨(toAscii t).takeWhile isAsciiBlank, sign, numeral, after, _, ds, ?_, ?_, blank,
        signed, digits, short, (Except.ok.inj done).symm⟩
      · rw [← whole, ← split, List.takeWhile_append_dropWhile]
      · intro c member
        exact List.mem_takeWhile_imp member
  · rintro ⟨before, sign, numeral, after, negative, ds, whole, blank, blank', signed, digits, short,
      rfl⟩
    have unsigned := digits.readUnsigned short blank'
    obtain ⟨c, cs, rfl, digit⟩ := digits.head
    rw [List.cons_append] at whole unsigned
    simp only [read, whole, signed.dropWhile blank digit, signed.splitSign digit, unsigned]

theorem toAscii_ofString {s : String} (ascii : ∀ c ∈ s.toList, c.toNat < 128) :
    toAscii (Text.ofString s) = s.toList := by
  have small : (Text.ofString s).letters.all (·.code < 128) = true := by
    simp only [Text.ofString, Text.ofChars, List.all_map, List.all_eq_true]
    exact fun c member => decide_eq_true (ascii c member)
  rw [toAscii, if_pos small]
  simp [Text.ofString, Text.ofChars, Letter.shown, Function.comp_def]

theorem ofDigits_toDigits (n : Nat) : ofDigits (Nat.toDigits 10 n) = n :=
  Nat.ofDigitChars_ten_toDigits

theorem length_toDigits (short : n < writableBound) : (Nat.toDigits 10 n).length ≤ maxDigits := by
  have power : ∀ k, Nat.pow 10 k = 10 ^ k := fun _ => rfl
  unfold writableBound at short
  rw [power] at short
  exact (Nat.length_toDigits_le_iff (by decide) (by decide)).mpr short

theorem toList_text (k : Int) :
    (text k).toList = (if k < 0 then ['-'] else []) ++ Nat.toDigits 10 k.natAbs := by
  by_cases minus : k < 0
  · simp [text, minus]
  · simp [text, minus]

theorem isDigit_toDigits {n : Nat} (member : c ∈ Nat.toDigits 10 n) : c.isDigit = true :=
  Nat.isDigit_of_mem_toDigits (by decide) (by decide) member

theorem mem_text (member : c ∈ (text k).toList) : c = '-' ∨ c.isDigit = true := by
  rw [toList_text] at member
  rcases List.mem_append.mp member with sign | digit
  · split at sign
    · exact .inl (List.mem_singleton.mp sign)
    · cases sign
  · exact .inr (isDigit_toDigits digit)

/-- An integer that is written is read as itself. -/
theorem read_text (short : isWritable k = true) : read (Text.ofString (text k)) = .ok k := by
  have digits := Digits.of_forall Nat.toDigits_ne_nil fun c => isDigit_toDigits (n := k.natAbs)
  have fits := length_toDigits (of_decide_eq_true short)
  have nothing : ∀ c ∈ ([] : List Char), isAsciiBlank c = true := by simp
  have ascii : ∀ c ∈ (text k).toList, c.toNat < 128 := by
    intro c member
    rcases mem_text member with rfl | digit
    · decide
    · have bounds := digit_bounds.mp digit
      omega
  apply read_ok_iff.mpr
  by_cases minus : k < 0
  · refine ⟨[], ['-'], _, [], true, _, ?_, nothing, nothing, .minus, digits, fits, ?_⟩
    · rw [toAscii_ofString ascii, toList_text, if_pos minus, List.append_nil]
      rfl
    · rw [ofDigits_toDigits, if_pos rfl]
      omega
  · refine ⟨[], [], _, [], false, _, ?_, nothing, nothing, .none, digits, fits, ?_⟩
    · rw [toAscii_ofString ascii, toList_text, if_neg minus, List.append_nil]
      rfl
    · rw [ofDigits_toDigits, if_neg Bool.false_ne_true]
      omega

end TraceScope.Integer
