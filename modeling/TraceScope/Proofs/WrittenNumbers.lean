import TraceScope.Json.Reader
import TraceScope.Json.Writer
import TraceScope.Proofs.Nearest
import TraceScope.Proofs.Numerals

/-!
# Numbers as they are written

A number in a document is written as a numeral. An integer is read back as it was; a binary number
is read back as the one nearest to its digits, wherever the point stands among them.
-/

namespace TraceScope

/-! ### Decimals -/

namespace Binary64

variable {n n' d d' k : Nat} {s : Bool} {e : Int}

theorem roundHalfEven_scaled (n d : Nat) (positive : 0 < k) :
    roundHalfEven (n * k) (d * k) = roundHalfEven n d := by
  have part : 2 * (n * k % (d * k)) = 2 * (n % d) * k := by
    rw [Nat.mul_mod_mul_right, Nat.mul_assoc]
  unfold roundHalfEven
  simp only [Nat.mul_div_mul_right _ _ positive, part, Nat.mul_lt_mul_right positive]

theorem cross_eq (bottom : 0 < d) (bottom' : 0 < d') (same : (n : ℚ) / d = (n' : ℚ) / d') :
    n * d' = n' * d := by
  have some : (d : ℚ) ≠ 0 := by exact_mod_cast bottom.ne'
  have some' : (d' : ℚ) ≠ 0 := by exact_mod_cast bottom'.ne'
  exact_mod_cast (div_eq_div_iff some some').mp same

theorem roundHalfEven_congr (bottom : 0 < d) (bottom' : 0 < d')
    (same : (n : ℚ) / d = (n' : ℚ) / d') : roundHalfEven n d = roundHalfEven n' d' := by
  rw [← roundHalfEven_scaled n d bottom', ← roundHalfEven_scaled n' d' bottom,
    cross_eq bottom bottom' same, Nat.mul_comm d]

theorem floorLog2_congr (nonzero : n ≠ 0) (bottom : 0 < d) (bottom' : 0 < d')
    (same : (n : ℚ) / d = (n' : ℚ) / d') : floorLog2 n d = floorLog2 n' d' := by
  have nonzero' : n' ≠ 0 := by
    rintro rfl
    have cross := cross_eq bottom bottom' same
    rw [Nat.zero_mul] at cross
    exact (Nat.mul_ne_zero nonzero bottom'.ne') cross
  obtain ⟨low, high⟩ := floorLog2_bounds nonzero bottom
  obtain ⟨low', high'⟩ := floorLog2_bounds nonzero' bottom'
  rw [same] at low high
  have below := (zpow_lt_zpow_iff_right₀ one_lt_two).mp (low.trans_lt high')
  have above := (zpow_lt_zpow_iff_right₀ one_lt_two).mp (low'.trans_lt high)
  omega

theorem mantissaAt_congr (bottom : 0 < d) (bottom' : 0 < d')
    (same : (n : ℚ) / d = (n' : ℚ) / d') : mantissaAt n d e = mantissaAt n' d' e := by
  obtain ⟨t, b, some, rounded, value⟩ := mantissaAt_eq (n := n) bottom e
  obtain ⟨t', b', some', rounded', value'⟩ := mantissaAt_eq (n := n') bottom' e
  have unit : (2 : ℚ) ^ e ≠ 0 := by positivity
  rw [rounded, rounded']
  apply roundHalfEven_congr some some'
  exact mul_right_cancel₀ unit (value.trans (same.trans value'.symm))

/-- Equal quotients are rounded to the same number. -/
theorem ofRatio_congr (s : Bool) (bottom : 0 < d) (bottom' : 0 < d')
    (same : (n : ℚ) / d = (n' : ℚ) / d') : ofRatio s n d = ofRatio s n' d' := by
  have cross := cross_eq bottom bottom' same
  by_cases nonzero : n = 0
  · have zero : n' = 0 := by
      rw [nonzero, Nat.zero_mul] at cross
      exact (Nat.mul_eq_zero.mp cross.symm).resolve_right bottom.ne'
    rw [nonzero, zero, ofRatio_zero, ofRatio_zero]
  · have nonzero' : n' ≠ 0 := by
      rintro rfl
      rw [Nat.zero_mul] at cross
      exact Nat.mul_ne_zero nonzero bottom'.ne' cross
    have exponents : exponentOf n d = exponentOf n' d' := by
      rw [exponentOf, floorLog2_congr nonzero bottom bottom' same, exponentOf]
    unfold ofRatio
    dsimp only
    rw [if_neg nonzero, if_neg nonzero', exponents, mantissaAt_congr bottom bottom' same]

theorem length_toDigits_scaled (some : n ≠ 0) (k : Nat) :
    (Nat.toDigits 10 (n * 10 ^ k)).length = (Nat.toDigits 10 n).length + k := by
  induction k with
  | zero => simp
  | succ k ih =>
    have positive : 0 < n * 10 ^ k := Nat.mul_pos (Nat.pos_of_ne_zero some) (by positivity)
    rw [pow_succ, ← Nat.mul_assoc, Nat.toDigits_of_base_le (by decide) (by omega),
      Nat.mul_div_cancel _ (by decide), List.length_append, ih]
    rfl

/-- A decimal that is in range is rounded as a quotient. -/
theorem ofDecimal_quotient (s : Bool) {c : Nat} (some : c ≠ 0) (e : Int)
    (most : ¬310 < ((Nat.toDigits 10 c).length : Int) + e)
    (least : ¬((Nat.toDigits 10 c).length : Int) + e < -330) :
    ∃ top bottom : Nat, 0 < bottom ∧ ofDecimal s c e = ofRatio s top bottom ∧
      (top : ℚ) / bottom = c * 10 ^ e := by
  unfold ofDecimal
  dsimp only
  rw [if_neg some, if_neg most, if_neg least]
  by_cases whole : 0 ≤ e
  · obtain ⟨j, rfl⟩ := Int.eq_ofNat_of_zero_le whole
    rw [if_pos whole]
    exact ⟨_, 1, Nat.one_pos, rfl, by simp⟩
  · obtain ⟨j, rfl⟩ : ∃ j : Nat, e = -j := ⟨(-e).toNat, by omega⟩
    rw [if_neg whole]
    exact ⟨_, _, Nat.pow_pos (by decide), rfl, by simp [div_eq_mul_inv]⟩

/-- Zeros may be moved from the exponent to the digits. -/
theorem ofDecimal_scaled (s : Bool) (c k : Nat) (e : Int) :
    ofDecimal s (c * 10 ^ k) (e - k) = ofDecimal s c e := by
  by_cases some : c = 0
  · simp [ofDecimal, some]
  · have power : 0 < 10 ^ k := Nat.pow_pos (by decide)
    have scaled : c * 10 ^ k ≠ 0 := Nat.mul_ne_zero some power.ne'
    have size : ((Nat.toDigits 10 (c * 10 ^ k)).length : Int) + (e - k) =
        (Nat.toDigits 10 c).length + e := by
      rw [length_toDigits_scaled some]
      push_cast
      ring
    by_cases most : 310 < ((Nat.toDigits 10 c).length : Int) + e
    · simp [ofDecimal, some, size, most]
    by_cases least : ((Nat.toDigits 10 c).length : Int) + e < -330
    · simp [ofDecimal, some, size, most, least]
    obtain ⟨t, b, positive, done, value⟩ := ofDecimal_quotient s some e most least
    obtain ⟨t', b', positive', done', value'⟩ :=
      ofDecimal_quotient s scaled (e - k) (size ▸ most) (size ▸ least)
    rw [done, done']
    apply ofRatio_congr s positive' positive
    rw [value, value', zpow_sub₀ (by norm_num), zpow_natCast]
    push_cast
    field_simp

/-! ### Shortest digits -/

namespace Interval

/-- A multiple of `10 ^ q` lies in the interval, or at one of its ends if they belong to it. -/
def Holds (i : Interval) (q : Int) (c : Nat) : Prop :=
  if i.closed then
    i.low * Nat.pow 10 (-q).toNat ≤ c * (i.unit * Nat.pow 10 q.toNat) ∧
      c * (i.unit * Nat.pow 10 q.toNat) ≤ i.high * Nat.pow 10 (-q).toNat
  else
    i.low * Nat.pow 10 (-q).toNat < c * (i.unit * Nat.pow 10 q.toNat) ∧
      c * (i.unit * Nat.pow 10 q.toNat) < i.high * Nat.pow 10 (-q).toNat

/-- What is found lies in the interval. -/
theorem holds_of_hit? {i : Interval} {q : Int} {c : Nat} (hit : i.hit? q = some c) :
    i.Holds q c := by
  unfold hit? at hit
  dsimp only at hit
  split at hit
  · rename_i low high
    have below := of_decide_eq_true low
    have above := of_decide_eq_true high
    obtain rfl := Option.some.inj hit
    split
    · exact below
    · split
      · exact above
      · split
        · exact below
        · exact above
  · rename_i low _
    have below := of_decide_eq_true low
    obtain rfl := Option.some.inj hit
    exact below
  · rename_i _ high
    have above := of_decide_eq_true high
    obtain rfl := Option.some.inj hit
    exact above
  · cases hit

theorem Holds.nonzero {i : Interval} {q : Int} {c : Nat} (holds : i.Holds q c) (low : 0 < i.low) :
    c ≠ 0 := by
  rintro rfl
  have scaled : 0 < i.low * Nat.pow 10 (-q).toNat := Nat.mul_pos low (Nat.pow_pos (by decide))
  unfold Holds at holds
  rw [Nat.zero_mul] at holds
  split at holds
  · omega
  · omega

end Interval

theorem stripZeros_eq (fuel c : Nat) (q : Int) :
    ∃ k : Nat, c = (stripZeros fuel c q).1 * 10 ^ k ∧ (stripZeros fuel c q).2 = q + k := by
  induction fuel generalizing c q with
  | zero => exact ⟨0, (Nat.mul_one c).symm, (Int.add_zero q).symm⟩
  | succ fuel ih =>
    unfold stripZeros
    split
    · rename_i zero
      obtain ⟨k, digits, exponent⟩ := ih (c / 10) (q + 1)
      refine ⟨k + 1, ?_, ?_⟩
      · rw [pow_succ, ← Nat.mul_assoc, ← digits]
        omega
      · rw [exponent]
        push_cast
        ring
    · exact ⟨0, (Nat.mul_one c).symm, (Int.add_zero q).symm⟩

/-- The digits of a number are those of a decimal in its interval, if there is one that is short
enough. -/
theorem shortest_cases (m : Nat) (e : Int) :
    (∃ c q, (interval m e).Holds q c ∧ ∃ k : Nat,
        c = (shortest m e).1 * 10 ^ k ∧ (shortest m e).2 = q + k) ∨
      shortest m e = (0, 0) ∧ ∀ k < 17,
        (interval m e).hit? (floorLog10 (ratio m e).1 (ratio m e).2 - (k : Nat)) = none := by
  unfold shortest
  dsimp only
  split
  · rename_i c q found
    obtain ⟨k, _, mapped⟩ := List.exists_of_findSome?_eq_some found
    obtain ⟨c, hit, same⟩ := Option.map_eq_some_iff.mp mapped
    obtain ⟨rfl, rfl⟩ := Prod.mk.inj same
    exact Or.inl ⟨_, _, Interval.holds_of_hit? hit, stripZeros_eq 18 _ _⟩
  · rename_i absent
    refine Or.inr ⟨rfl, fun k short => ?_⟩
    have missed := List.findSome?_eq_none_iff.mp absent k (List.mem_range.mpr short)
    exact Option.map_eq_none_iff.mp missed

theorem low_pos {m : Nat} (some : m ≠ 0) (e : Int) : 0 < (interval m e).low := by
  unfold interval
  refine Nat.mul_pos ?_ (Nat.pow_pos (by decide))
  split <;> omega

def digitsOf (m : Nat) (e : Int) : Nat × Int := if m = 0 then (0, 0) else shortest m e

theorem digitsOf_proper (m : Nat) (e : Int) : (digitsOf m e).1 ≠ 0 ∨ (digitsOf m e).2 = 0 := by
  unfold digitsOf
  split
  · exact Or.inr rfl
  · rename_i some
    rcases shortest_cases m e with ⟨c, q, holds, k, digits, _⟩ | ⟨nothing, _⟩
    · refine Or.inl fun zero => holds.nonzero (low_pos some e) ?_
      rw [digits, zero, Nat.zero_mul]
    · rw [nothing]
      exact Or.inr rfl

/-- What is read where a number is written: the number that its digits stand for. Undefined numbers
are not told apart. -/
def reread : Binary64 → Binary64
  | .nan _ => .nan 0
  | .infinite negative => .infinite negative
  | .finite negative m e => ofDecimal negative (digitsOf m e).1 (digitsOf m e).2

theorem text_finite (negative : Bool) (m : Nat) (e : Int) :
    (finite negative m e).text.toList =
      (if negative then ['-'] else []) ++ digitsText (digitsOf m e).1 (digitsOf m e).2 := by
  have zero : digitsText 0 0 = ['0', '.', '0'] := by decide
  rw [text, String.toList_ofList, digitsOf]
  by_cases none : m = 0
  · rw [if_pos none, if_pos none, zero]
    cases negative <;> rfl
  · rw [if_neg none, if_neg none]
    cases negative <;> rfl

end Binary64

namespace Json

variable {c : Char} {cs ds rest : List Char} {strict : Bool}

/-! ### Numerals -/

theorem spanDigits_stop (digits : ∀ c ∈ ds, c.isDigit = true)
    (stop : ∀ c ∈ rest.head?, c.isDigit = false) : spanDigits (ds ++ rest) = (ds, rest) := by
  have nothing : rest.takeWhile Char.isDigit = [] ∧ rest.dropWhile Char.isDigit = rest := by
    cases rest with
    | nil => exact ⟨rfl, rfl⟩
    | cons c rest =>
      have other : ¬c.isDigit = true := Bool.not_eq_true _ ▸ stop c rfl
      exact ⟨List.takeWhile_cons_of_neg other, List.dropWhile_cons_of_neg other⟩
  rw [spanDigits, List.takeWhile_append_of_pos digits, List.dropWhile_append_of_pos digits,
    nothing.1, nothing.2, List.append_nil]

/-- The digits of a natural number as they are written: a zero stands first only if it stands
alone. -/
structure IsWhole (ds : List Char) : Prop where
  nonempty : ds ≠ []
  digits : ∀ c ∈ ds, c.isDigit = true
  zero : ds.head? = some '0' → ds = ['0']

/-- The point and the digits after it, if there are any. -/
def fractionChars : Option (List Char) → List Char
  | some ds => '.' :: ds
  | none => []

/-- An exponent as it is written. -/
def exponentChars : Option Exponent → List Char
  | some x => 'e' :: (x.sign ++ x.digits)
  | none => []

namespace Numeral

def chars (n : Numeral) : List Char :=
  (if n.negative then ['-'] else []) ++
    (n.whole ++ (fractionChars n.fraction ++ exponentChars n.exponent))

/-- There are digits wherever there can be digits, and nothing else. -/
structure Proper (n : Numeral) : Prop where
  whole : IsWhole n.whole
  fraction : ∀ ds ∈ n.fraction, ds ≠ [] ∧ ∀ c ∈ ds, c.isDigit = true
  exponent : ∀ x ∈ n.exponent, (x.sign = ['-'] ∨ x.sign = ['+'] ∨ x.sign = []) ∧
    x.digits ≠ [] ∧ ∀ c ∈ x.digits, c.isDigit = true

theorem length_chars (n : Numeral) : n.chars.length = n.width := by
  unfold chars width
  cases n.negative <;> cases n.fraction <;> cases n.exponent <;>
    simp +arith [fractionChars, exponentChars]

end Numeral

theorem spanWhole_whole (whole : IsWhole ds) (stop : ∀ c ∈ rest.head?, c.isDigit = false) :
    spanWhole (ds ++ rest) = some (ds, rest) := by
  have spanned := spanDigits_stop whole.digits stop
  obtain ⟨c, ds', rfl⟩ := List.exists_cons_of_ne_nil whole.nonempty
  unfold spanWhole
  split
  · rename_i zero
    obtain ⟨rfl, rfl⟩ := List.cons.inj zero
    obtain ⟨_, rfl⟩ := List.cons.inj (whole.zero rfl)
    rfl
  · rw [spanned]

theorem spanFraction_chars {fraction : Option (List Char)}
    (proper : ∀ ds ∈ fraction, ds ≠ [] ∧ ∀ c ∈ ds, c.isDigit = true)
    (stop : ∀ c ∈ rest.head?, c.isDigit = false ∧ c ≠ '.') :
    spanFraction strict (fractionChars fraction ++ rest) = some (fraction, rest) := by
  cases fraction with
  | none =>
    unfold spanFraction
    split
    · rename_i point
      exact absurd rfl (stop '.' (congrArg List.head? point)).2
    · rfl
  | some ds =>
    obtain ⟨some, digits⟩ := proper ds rfl
    have spanned := spanDigits_stop digits fun c first => (stop c first).1
    obtain ⟨d, ds, rfl⟩ := List.exists_cons_of_ne_nil some
    rw [List.cons_append] at spanned
    rw [fractionChars, List.cons_append, List.cons_append, spanFraction, spanned]

theorem spanSign_sign {sign : List Char} (signed : sign = ['-'] ∨ sign = ['+'] ∨ sign = [])
    (digit : c.isDigit = true) (cs : List Char) :
    spanSign (sign ++ c :: cs) = (sign, c :: cs) := by
  rcases signed with rfl | rfl | rfl
  · rfl
  · rfl
  · unfold spanSign
    split
    · rename_i minus
      exact absurd (List.cons.inj minus).1 (Integer.ne_of_digit digit rfl)
    · rename_i plus
      exact absurd (List.cons.inj plus).1 (Integer.ne_of_digit digit rfl)
    · rfl

theorem spanExponent_chars {exponent : Option Exponent}
    (proper : ∀ x ∈ exponent, (x.sign = ['-'] ∨ x.sign = ['+'] ∨ x.sign = []) ∧
      x.digits ≠ [] ∧ ∀ c ∈ x.digits, c.isDigit = true) :
    spanExponent strict (exponentChars exponent) = some (exponent, []) := by
  cases exponent with
  | none => rfl
  | some x =>
    obtain ⟨sign, digits⟩ := x
    obtain ⟨signed, some, all⟩ := proper _ rfl
    have nothing : ∀ c ∈ ([] : List Char).head?, c.isDigit = false := nofun
    have spanned := spanDigits_stop all nothing
    obtain ⟨d, ds, rfl⟩ := List.exists_cons_of_ne_nil some
    rw [List.append_nil] at spanned
    have split := spanSign_sign signed (all d List.mem_cons_self) ds
    simp only [exponentChars, spanExponent, split, spanned, true_or, if_true]

/-- A numeral after its sign, and the rest. -/
def spanUnsigned (strict negative : Bool) (cs : List Char) : Option (Numeral × List Char) := do
  let (whole, cs) ← spanWhole cs
  let (fraction, cs) ← spanFraction strict cs
  let (exponent, cs) ← spanExponent strict cs
  return ({ negative, whole, fraction, exponent }, cs)

theorem spanNumeral_minus (cs : List Char) :
    spanNumeral strict ('-' :: cs) = spanUnsigned strict true cs := rfl

theorem spanNumeral_digit (digit : c.isDigit = true) (cs : List Char) :
    spanNumeral strict (c :: cs) = spanUnsigned strict false (c :: cs) := by
  unfold spanNumeral
  split
  rename_i negative cs signed
  split at signed
  · rename_i minus
    exact absurd (List.cons.inj minus).1 (Integer.ne_of_digit digit rfl)
  · obtain ⟨rfl, rfl⟩ := Prod.mk.inj signed
    rfl

theorem spanNumeral_chars {n : Numeral} (proper : n.Proper) :
    spanNumeral strict n.chars = some (n, []) := by
  obtain ⟨negative, whole, fraction, exponent⟩ := n
  have ending : ∀ c ∈ (exponentChars exponent).head?, c.isDigit = false ∧ c ≠ '.' := by
    intro c first
    cases exponent with
    | none => cases first
    | some x =>
      obtain rfl := Option.some.inj first
      exact ⟨rfl, by decide⟩
  have middle : ∀ c ∈ (fractionChars fraction ++ exponentChars exponent).head?,
      c.isDigit = false := by
    intro c first
    cases fraction with
    | none => exact (ending c first).1
    | some ds =>
      obtain rfl := Option.some.inj first
      rfl
  have unsigned : spanUnsigned strict negative
      (whole ++ (fractionChars fraction ++ exponentChars exponent)) =
        some (⟨negative, whole, fraction, exponent⟩, []) := by
    simp only [spanUnsigned, spanWhole_whole proper.whole middle,
      spanFraction_chars proper.fraction ending, spanExponent_chars proper.exponent, bind,
      Option.bind, pure]
  cases negative with
  | true => exact (spanNumeral_minus _).trans unsigned
  | false =>
    obtain ⟨d, ds, rfl⟩ := List.exists_cons_of_ne_nil proper.whole.nonempty
    exact (spanNumeral_digit (proper.whole.digits d List.mem_cons_self) _).trans unsigned

/-! ### Digits -/

theorem isWhole_toDigits (n : Nat) : IsWhole (Nat.toDigits 10 n) where
  nonempty := Nat.toDigits_ne_nil
  digits _ := Integer.isDigit_toDigits
  zero := by
    -- The digits of a number end in its last digit, and the others are those of its tenth part.
    induction n using Nat.strongRecOn with
    | ind n ih =>
      intro first
      rcases Nat.lt_or_ge n 10 with small | large
      · rw [Nat.toDigits_of_lt_base small] at first ⊢
        exact congrArg (fun c => [c]) (Option.some.inj first)
      · have tenth : 0 < n / 10 := Nat.div_pos large (by decide)
        rw [Nat.toDigits_of_base_le (by decide) large,
          List.head?_append_of_ne_nil _ Nat.toDigits_ne_nil] at first
        have single := ih (n / 10) (by omega) first
        have value := Integer.ofDigits_toDigits (n / 10)
        rw [single] at value
        exact absurd value tenth.ne

theorem ofDigits_append (ds es : List Char) :
    Integer.ofDigits (ds ++ es) =
      Integer.ofDigits ds * 10 ^ es.length + Integer.ofDigits es := by
  induction es using List.reverseRecOn with
  | nil => simp [Integer.ofDigits]
  | append_singleton es c ih =>
    have last : ∀ cs : List Char, Integer.ofDigits (cs ++ [c]) =
        10 * Integer.ofDigits cs + (c.toNat - 48) := fun cs => by
      simp [Integer.ofDigits, List.foldl_append]
    rw [← List.append_assoc, last, last, ih, List.length_append, List.length_singleton, pow_succ]
    ring

theorem ofDigits_zeros (n : Nat) : Integer.ofDigits (List.replicate n '0') = 0 := by
  induction n with
  | zero => rfl
  | succ n ih => exact ih

/-! ### Numbers -/

/-- A numeral with a fraction or an exponent that stands for `c * 10 ^ q`; there may be zeros in it
that `q` counts. -/
structure Numeral.Tells (n : Numeral) (c : Nat) (q : Int) : Prop where
  proper : n.Proper
  broken : n.isWhole = false
  value : ∃ k : Nat, n.coefficient = c * 10 ^ k ∧ n.power = q - k

theorem IsWhole.take (whole : IsWhole ds) {p : Nat} (some : 0 < p) : IsWhole (ds.take p) := by
  obtain ⟨p, rfl⟩ := Nat.exists_eq_succ_of_ne_zero some.ne'
  obtain ⟨d, ds, rfl⟩ := List.exists_cons_of_ne_nil whole.nonempty
  refine ⟨List.cons_ne_nil _ _, fun c member => whole.digits c (List.mem_of_mem_take member), ?_⟩
  intro first
  rw [whole.zero first, List.take_succ_cons, List.take_nil]

theorem isDigit_zeros (n : Nat) : ∀ c ∈ List.replicate n '0', c.isDigit = true := by
  intro c member
  rw [List.eq_of_mem_replicate member]
  rfl

theorem IsWhole.zeros (whole : IsWhole ds) (n : Nat) (some : ds ≠ ['0'] ∨ n = 0) :
    IsWhole (ds ++ List.replicate n '0') := by
  rcases some with other | rfl
  · refine ⟨List.append_ne_nil_of_left_ne_nil whole.nonempty _, fun c member => ?_, fun first => ?_⟩
    · rcases List.mem_append.mp member with digit | zero
      · exact whole.digits c digit
      · exact isDigit_zeros n c zero
    · rw [List.head?_append_of_ne_nil _ whole.nonempty] at first
      exact absurd (whole.zero first) other
  · rw [List.replicate_zero, List.append_nil]
    exact whole

theorem Numeral.Tells.signed {n : Numeral} {c : Nat} {q : Int} (tells : n.Tells c q)
    (unsigned : n.negative = false) (negative : Bool) :
    ({ n with negative } : Numeral).Tells c q ∧
      ({ n with negative } : Numeral).chars = (if negative then ['-'] else []) ++ n.chars := by
  obtain ⟨⟨whole, fraction, exponent⟩, broken, value⟩ := tells
  refine ⟨⟨⟨whole, fraction, exponent⟩, broken, value⟩, ?_⟩
  simp [Numeral.chars, unsigned]

/-- Characters without a sign are such a numeral. -/
def Unsigned (cs : List Char) (c : Nat) (q : Int) : Prop :=
  ∃ n : Numeral, n.Tells c q ∧ n.negative = false ∧ n.chars = cs

/-- A numeral with a point and without an exponent. -/
theorem positional_tells {w f : List Char} {c k : Nat} {q : Int} (whole : IsWhole w)
    (some : f ≠ []) (digits : ∀ c ∈ f, c.isDigit = true)
    (coefficient : Integer.ofDigits (w ++ f) = c * 10 ^ k) (power : -(f.length : Int) = q - k) :
    Unsigned (w ++ '.' :: f) c q := by
  refine ⟨{ negative := false, whole := w, fraction := f },
    ⟨⟨whole, ?_, ?_⟩, rfl, k, coefficient, ?_⟩, rfl, ?_⟩
  · rintro ds ⟨⟩
    exact ⟨some, digits⟩
  · exact nofun
  · rw [← power]
    exact zero_sub _
  · simp [Numeral.chars, fractionChars, exponentChars]

theorem toInt_signed {es : List Char} {x : Int} (size : Integer.ofDigits es = x.natAbs) :
    (⟨[if x < 0 then '-' else '+'], es⟩ : Exponent).toInt = x := by
  unfold Exponent.toInt
  by_cases minus : x < 0
  · simp only [minus, if_true, size]
    omega
  · simp only [minus, if_false, size]
    rw [if_neg (by decide)]
    omega

/-- A numeral with one digit before the point and with an exponent. -/
theorem scientific_tells {ds es : List Char} {c : Nat} {q x : Int} (whole : IsWhole ds)
    (some : es ≠ []) (digits : ∀ c ∈ es, c.isDigit = true) (value : Integer.ofDigits ds = c)
    (size : Integer.ofDigits es = x.natAbs) (power : x + 1 = ds.length + q) :
    Unsigned (ds.take 1 ++ (match ds.tail with
      | [] => []
      | rest => '.' :: rest) ++ 'e' :: (if x < 0 then '-' else '+') :: es) c q := by
  have signed : ∀ y ∈ Option.some (⟨[if x < 0 then '-' else '+'], es⟩ : Exponent),
      (y.sign = ['-'] ∨ y.sign = ['+'] ∨ y.sign = []) ∧ y.digits ≠ [] ∧
        ∀ c ∈ y.digits, c.isDigit = true := by
    rintro y ⟨⟩
    refine ⟨?_, some, digits⟩
    by_cases minus : x < 0
    · exact Or.inl (by rw [if_pos minus])
    · exact Or.inr (Or.inl (by rw [if_neg minus]))
  have first := whole.take Nat.one_pos
  obtain ⟨d, ds, rfl⟩ := List.exists_cons_of_ne_nil whole.nonempty
  cases ds with
  | nil =>
    refine ⟨⟨false, [d], none, Option.some ⟨[if x < 0 then '-' else '+'], es⟩⟩,
      ⟨⟨first, nofun, signed⟩, rfl, 0, ?_, ?_⟩, rfl, rfl⟩
    · rw [pow_zero, Nat.mul_one]
      exact value
    · change (Exponent.toInt _) - ((0 : Nat) : Int) = _
      rw [toInt_signed size]
      push_cast [List.length_singleton] at power ⊢
      omega
  | cons f ds =>
    refine ⟨⟨false, [d], Option.some (f :: ds), Option.some ⟨[if x < 0 then '-' else '+'], es⟩⟩,
      ⟨⟨first, ?_, signed⟩, rfl, 0, ?_, ?_⟩, rfl, ?_⟩
    · rintro fs ⟨⟩
      exact ⟨List.cons_ne_nil _ _, fun c member =>
        whole.digits c (List.mem_cons_of_mem d member)⟩
    · rw [pow_zero, Nat.mul_one]
      exact value
    · change (Exponent.toInt _) - ((f :: ds).length : Int) = _
      rw [toInt_signed size]
      rw [List.length_cons] at power
      push_cast at power ⊢
      omega
    · simp [Numeral.chars, fractionChars, exponentChars]

/-- Digits after the point, behind zeros. -/
theorem behind_tells {ds : List Char} {c : Nat} {q : Int} (whole : IsWhole ds)
    (value : Integer.ofDigits ds = c) (n : Nat) (power : q = -(n + ds.length : Int)) :
    Unsigned ('0' :: '.' :: (List.replicate n '0' ++ ds)) c q := by
  have nought : IsWhole ['0'] := ⟨nofun, isDigit_zeros 1, fun _ => rfl⟩
  refine positional_tells (k := 0) nought (List.append_ne_nil_of_right_ne_nil _ whole.nonempty)
    ?_ ?_ ?_
  · intro c member
    rcases List.mem_append.mp member with zero | digit
    · exact isDigit_zeros n c zero
    · exact whole.digits c digit
  · rw [ofDigits_append, ofDigits_append, ofDigits_zeros, value]
    simp [Integer.ofDigits]
  · rw [List.length_append, List.length_replicate]
    omega

/-- Digits before the point, with zeros behind them. -/
theorem before_tells {ds : List Char} {c : Nat} {q : Int} (whole : IsWhole ds)
    (value : Integer.ofDigits ds = c) (n : Nat) (some : c ≠ 0 ∨ n = 0) (power : q = n) :
    Unsigned (ds ++ List.replicate n '0' ++ ['.', '0']) c q := by
  have zeros : ds ≠ ['0'] ∨ n = 0 := by
    refine some.imp_left fun some zero => some ?_
    rw [← value, zero]
    rfl
  refine positional_tells (k := n + 1) (whole.zeros n zeros) (List.cons_ne_nil '0' [])
    (isDigit_zeros 1) ?_ ?_
  · rw [ofDigits_append, ofDigits_append, ofDigits_zeros, value, List.length_replicate, pow_succ,
      ← Nat.mul_assoc]
    rfl
  · rw [List.length_singleton]
    push_cast
    omega

theorem among_tells {ds : List Char} {c p : Nat} {q : Int} (whole : IsWhole ds)
    (value : Integer.ofDigits ds = c) (some : 0 < p) (more : p < ds.length)
    (power : q = p - ds.length) : Unsigned (ds.take p ++ '.' :: ds.drop p) c q := by
  refine positional_tells (k := 0) (whole.take some) ?_
    (fun c member => whole.digits c (List.mem_of_mem_drop member)) ?_ ?_
  · rw [Ne, List.drop_eq_nil_iff]
    omega
  · rw [List.take_append_drop, value, pow_zero, Nat.mul_one]
  · rw [List.length_drop]
    omega

/-- Digits stand for the same number with a zero before them. -/
theorem padded_digits {es : List Char} (some : es ≠ []) (digits : ∀ c ∈ es, c.isDigit = true) :
    let padded := if es.length < 2 then '0' :: es else es
    padded ≠ [] ∧ (∀ c ∈ padded, c.isDigit = true) ∧
      Integer.ofDigits padded = Integer.ofDigits es := by
  intro padded
  by_cases short : es.length < 2
  · have same : padded = '0' :: es := if_pos short
    rw [same]
    exact ⟨List.cons_ne_nil _ _, List.forall_mem_cons.mpr ⟨rfl, digits⟩, rfl⟩
  · have same : padded = es := if_neg short
    rw [same]
    exact ⟨some, digits, rfl⟩

theorem digitsText_tells (c : Nat) (q : Int) (proper : c ≠ 0 ∨ q = 0) :
    Unsigned (Binary64.digitsText c q) c q := by
  have whole := isWhole_toDigits c
  have value := Integer.ofDigits_toDigits c
  unfold Binary64.digitsText
  generalize Nat.toDigits 10 c = ds at whole value ⊢
  have positive : 0 < ds.length := List.length_pos_of_ne_nil whole.nonempty
  dsimp only
  split
  · split
    · exact behind_tells whole value _ (by omega)
    · split
      · exact before_tells whole value _ (proper.imp_right fun none => by omega) (by omega)
      · exact among_tells whole value (by omega) (by omega) (by omega)
  · obtain ⟨some, digits, same⟩ := padded_digits Nat.toDigits_ne_nil
      fun c (member : c ∈ Nat.toDigits 10 ((ds.length : Int) + q - 1).natAbs) =>
        Integer.isDigit_toDigits member
    exact scientific_tells whole some digits value (same.trans (Integer.ofDigits_toDigits _))
      (by omega)

/-- A finite number is written as a numeral that stands for what is read. -/
theorem text_tells (negative : Bool) (m : Nat) (e : Int) :
    ∃ n : Numeral, n.Proper ∧ n.isWhole = false ∧
      n.chars = (Binary64.finite negative m e).text.toList ∧
      Binary64.ofDecimal n.negative n.coefficient n.power =
        (Binary64.finite negative m e).reread := by
  obtain ⟨n, tells, unsigned, same⟩ :=
    digitsText_tells _ _ (Binary64.digitsOf_proper m e)
  obtain ⟨⟨proper, broken, k, digits, power⟩, chars⟩ := tells.signed unsigned negative
  refine ⟨_, proper, broken, ?_, ?_⟩
  · rw [chars, same, Binary64.text_finite]
  · rw [digits, power, Binary64.ofDecimal_scaled]
    rfl

/-- An integer is written as a numeral without a fraction and an exponent. -/
theorem integer_tells (k : Int) :
    ∃ n : Numeral, n.Proper ∧ n.isWhole = true ∧ n.chars = (Integer.text k).toList ∧
      n.toInt = k := by
  refine ⟨⟨decide (k < 0), Nat.toDigits 10 k.natAbs, none, none⟩,
    ⟨isWhole_toDigits _, nofun, nofun⟩, rfl, ?_, ?_⟩
  · rw [Integer.toList_text]
    simp [Numeral.chars, fractionChars, exponentChars]
  · unfold Numeral.toInt
    rw [Integer.ofDigits_toDigits]
    by_cases minus : k < 0
    · simp only [minus, decide_true, if_true]
      omega
    · simp only [minus, decide_false, Bool.false_eq_true, if_false]
      omega

end Json

end TraceScope
