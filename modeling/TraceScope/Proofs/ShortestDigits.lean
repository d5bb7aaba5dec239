import TraceScope.Proofs.WrittenNumbers

/-!
# Digits that are enough

A number that rounding yields is read back from its shortest digits as it was. Decimals that are
close enough to a number are rounded to it, and one of seventeen digits is always that close.
-/

namespace TraceScope

variable {n d k : Nat}

theorem roundHalfEven_eq (positive : 0 < d) (low : 2 * (k * d) ≤ 2 * n + d)
    (high : 2 * n ≤ 2 * (k * d) + d)
    (odd : k % 2 = 1 → 2 * (k * d) < 2 * n + d ∧ 2 * n < 2 * (k * d) + d) :
    roundHalfEven n d = k := by
  have split := Nat.div_add_mod n d
  have part := Nat.mod_lt n positive
  unfold roundHalfEven
  dsimp only
  rcases Nat.lt_or_ge (n / d) k with less | more
  · obtain ⟨j, rfl⟩ : ∃ j, k = n / d + 1 + j := ⟨k - (n / d + 1), by omega⟩
    have whole : (n / d + 1 + j) * d = d * (n / d) + d + j * d := by ring
    have rest : 0 < j → d ≤ j * d := fun some => Nat.le_mul_of_pos_left d some
    rcases Nat.eq_zero_or_pos j with rfl | some
    · split_ifs <;> omega
    · have := rest some
      omega
  · obtain ⟨j, whole⟩ : ∃ j, n / d = k + j := ⟨n / d - k, by omega⟩
    have product : d * (n / d) = k * d + j * d := by rw [whole]; ring
    have rest : 0 < j → d ≤ j * d := fun some => Nat.le_mul_of_pos_left d some
    rcases Nat.eq_zero_or_pos j with rfl | some
    · split_ifs <;> omega
    · have := rest some
      omega

/-! ### Logarithms -/

/-- The decimal logarithm that is computed from a binary one is not too large. -/
theorem pow_ten_le {l j : Int} (log : (j + 1) * 100000 ≤ l * 30103) (least : -20000 ≤ l)
    (most : l ≤ 15000) : (10 : ℚ) ^ j ≤ 2 ^ l := by
  -- 10 ^ 31 is just below 2 ^ 103, and 10 ^ 28 just above 2 ^ 93: close enough in this range.
  rcases le_or_gt 0 j with whole | part
  · refine (pow_le_pow_iff_left₀ (by positivity) (by positivity) (by decide : 31 ≠ 0)).mp ?_
    calc ((10 : ℚ) ^ j) ^ 31 = ((10 : ℚ) ^ 31) ^ j := by
          rw [← zpow_natCast, ← zpow_natCast, ← zpow_mul, ← zpow_mul, mul_comm]
      _ ≤ ((2 : ℚ) ^ 103) ^ j := zpow_le_zpow_left₀ whole (by positivity) (by norm_num)
      _ = 2 ^ (103 * j) := by rw [← zpow_natCast, ← zpow_mul]; rfl
      _ ≤ 2 ^ (l * 31) := zpow_le_zpow_right₀ one_le_two (by omega)
      _ = (2 ^ l) ^ 31 := by rw [zpow_mul]; rfl
  · refine (pow_le_pow_iff_left₀ (by positivity) (by positivity) (by decide : 28 ≠ 0)).mp ?_
    obtain ⟨i, rfl⟩ : ∃ i : Nat, j = -i := ⟨(-j).toNat, by omega⟩
    calc ((10 : ℚ) ^ (-(i : Int))) ^ 28 = (((10 : ℚ) ^ 28) ^ i)⁻¹ := by
          rw [zpow_neg, zpow_natCast, inv_pow, ← pow_mul, ← pow_mul, mul_comm]
      _ ≤ (((2 : ℚ) ^ 93) ^ i)⁻¹ :=
          inv_anti₀ (by positivity) (pow_le_pow_left₀ (by positivity) (by norm_num) i)
      _ = 2 ^ (-(93 * i : Int)) := by rw [← pow_mul, zpow_neg]; norm_cast
      _ ≤ 2 ^ (l * 28) := zpow_le_zpow_right₀ one_le_two (by omega)
      _ = (2 ^ l) ^ 28 := by rw [zpow_mul]; rfl

theorem floorLog10_le (nonzero : n ≠ 0) (positive : 0 < d) (least : -20000 ≤ floorLog2 n d)
    (most : floorLog2 n d ≤ 15000) : (10 : ℚ) ^ floorLog10 n d ≤ (n : ℚ) / d := by
  obtain ⟨low, _⟩ := floorLog2_bounds nonzero positive
  unfold floorLog10
  dsimp only
  split
  · rename_i reached
    exact_mod_cast (reachesPower_iff (by decide) positive _).mp reached
  · split
    · rename_i reached
      exact_mod_cast (reachesPower_iff (by decide) positive _).mp reached
    · exact (pow_ten_le (by omega) least most).trans low

namespace Binary64

variable {m c : Nat} {e q : Int} {s s' : Bool} {x : ℚ}

/-! ### What is rounded to a number -/

/-- What rounding yields: a mantissa of at most 53 bits, and of no less unless the exponent is the
least one. -/
structure Regular (m : Nat) (e : Int) : Prop where
  small : m < 2 ^ 53
  least : minExponent ≤ e
  most : e ≤ maxExponent
  full : e = minExponent ∨ 2 ^ 52 ≤ m

/-- How far the numbers that are rounded to `m * 2 ^ e` reach below it, in quarters of a unit. -/
def reach (m : Nat) (e : Int) : Nat := if m = 2 ^ 52 ∧ minExponent < e then 1 else 2

/-- A number lies where it is rounded to `m * 2 ^ e`. -/
structure Near (m : Nat) (e : Int) (x : ℚ) : Prop where
  low : (4 * m - reach m e) * 2 ^ (e - 2) ≤ x
  high : x ≤ (4 * m + 2) * 2 ^ (e - 2)
  odd : m % 2 = 1 → (4 * m - reach m e) * 2 ^ (e - 2) < x ∧ x < (4 * m + 2) * 2 ^ (e - 2)

theorem quarters (e : Int) : (2 : ℚ) ^ e = 4 * 2 ^ (e - 2) := by
  rw [zpow_sub₀ two_ne_zero, zpow_ofNat]
  ring

theorem halves (e : Int) : (2 : ℚ) ^ (e - 1) = 2 * 2 ^ (e - 2) := by
  rw [← zpow_one_add₀ two_ne_zero]
  congr 1
  omega

theorem reach_bounds (m : Nat) (e : Int) : (1 : ℚ) ≤ reach m e ∧ (reach m e : ℚ) ≤ 2 := by
  unfold reach
  split_ifs <;> norm_num

theorem Near.above (near : Near m e x) (some : m ≠ 0) : (2 : ℚ) ^ (e - 2) < x := by
  have unit : (0 : ℚ) < 2 ^ (e - 2) := by positivity
  have mantissa : (1 : ℚ) ≤ m := by exact_mod_cast Nat.one_le_iff_ne_zero.mpr some
  have reaches := (reach_bounds m e).2
  exact (lt_mul_of_one_lt_left unit (by linarith)).trans_le near.low

/-- A number that is rounded without a carry is in the half unit around the mantissa. -/
theorem Near.whole (near : Near m e x) (regular : Regular m e)
    (stays : m = 2 ^ 52 → minExponent < e → 2 ^ 52 * 2 ^ e ≤ x) :
    ((m : ℚ) - 1 / 2) * 2 ^ e ≤ x ∧ (m % 2 = 1 → ((m : ℚ) - 1 / 2) * 2 ^ e < x) ∧
      (e = minExponent ∨ 2 ^ 52 * 2 ^ e ≤ x) := by
  obtain ⟨low, _, odd⟩ := near
  by_cases power : m = 2 ^ 52 ∧ minExponent < e
  · obtain ⟨rfl, above⟩ := power
    have inside := stays rfl above
    have unit : (0 : ℚ) < 2 ^ e := by positivity
    push_cast
    exact ⟨by linarith, fun _ => by linarith, .inr inside⟩
  · rw [reach, if_neg power] at low odd
    push_cast at low odd
    rw [quarters]
    refine ⟨by linarith, fun isOdd => by linarith [(odd isOdd).1], ?_⟩
    rcases regular.full with first | large
    · exact .inl first
    · rcases regular.least.eq_or_lt with first | above
      · exact .inl first.symm
      · have more : 2 ^ 52 + 1 ≤ m :=
          Nat.lt_of_le_of_ne large fun same => power ⟨same.symm, above⟩
        have scaled : ((2 : ℚ) ^ 52 + 1) * 2 ^ (e - 2) ≤ m * 2 ^ (e - 2) := by
          gcongr
          exact_mod_cast more
        exact .inr (by linarith)

theorem mantissaAt_near (positive : 0 < d) (low : ((k : ℚ) - 1 / 2) * 2 ^ e ≤ (n : ℚ) / d)
    (high : (n : ℚ) / d ≤ ((k : ℚ) + 1 / 2) * 2 ^ e)
    (odd : k % 2 = 1 →
      ((k : ℚ) - 1 / 2) * 2 ^ e < (n : ℚ) / d ∧ (n : ℚ) / d < ((k : ℚ) + 1 / 2) * 2 ^ e) :
    mantissaAt n d e = k := by
  have unit : (0 : ℚ) < 2 ^ e := by positivity
  obtain ⟨top, bottom, some, rounded, scaled⟩ := mantissaAt_eq (n := n) positive e
  have bottom' : (0 : ℚ) < bottom := by exact_mod_cast some
  rw [← scaled] at low high odd
  simp only [mul_le_mul_iff_left₀ unit, mul_lt_mul_iff_left₀ unit, le_div_iff₀ bottom',
    div_le_iff₀ bottom', lt_div_iff₀ bottom', div_lt_iff₀ bottom'] at low high odd
  rw [rounded]
  refine roundHalfEven_eq some ?_ ?_ fun isOdd => ?_
  · exact_mod_cast (by linarith : (2 : ℚ) * (k * bottom) ≤ 2 * top + bottom)
  · exact_mod_cast (by linarith : (2 : ℚ) * top ≤ 2 * (k * bottom) + bottom)
  · obtain ⟨less, more⟩ := odd isOdd
    exact ⟨by exact_mod_cast (by linarith : (2 : ℚ) * (k * bottom) < 2 * top + bottom),
      by exact_mod_cast (by linarith : (2 : ℚ) * top < 2 * (k * bottom) + bottom)⟩

theorem exponentOf_eq (nonzero : n ≠ 0) (positive : 0 < d) (least : minExponent ≤ e)
    (low : e = minExponent ∨ 2 ^ 52 * 2 ^ e ≤ (n : ℚ) / d)
    (high : (n : ℚ) / d < 2 ^ 53 * 2 ^ e) : exponentOf n d = e := by
  obtain ⟨below, above⟩ := floorLog2_bounds nonzero positive
  have power : ∀ k : Nat, (2 : ℚ) ^ k * 2 ^ e = 2 ^ (k + e) := fun k => by
    rw [zpow_add₀ two_ne_zero, zpow_natCast]
  rw [power] at low high
  have most := (zpow_lt_zpow_iff_right₀ one_lt_two).mp (below.trans_lt high)
  unfold exponentOf
  push_cast at most
  rcases low with rfl | full
  · omega
  · have fewest := (zpow_lt_zpow_iff_right₀ one_lt_two).mp (full.trans_lt above)
    push_cast at fewest
    omega

/-- Just below a power of two the mantissa is carried over. -/
theorem ofRatio_carried (nonzero : n ≠ 0) (positive : 0 < d) (above : minExponent < e)
    (most : e ≤ maxExponent) (s : Bool) (near : Near (2 ^ 52) e ((n : ℚ) / d))
    (below : (n : ℚ) / d < 2 ^ 52 * 2 ^ e) : ofRatio s n d = .finite s (2 ^ 52) e := by
  have unit : (0 : ℚ) < 2 ^ (e - 2) := by positivity
  have low := near.low
  rw [reach, if_pos ⟨rfl, above⟩] at low
  push_cast at low
  rw [quarters] at below
  have exponent : exponentOf n d = e - 1 := by
    refine exponentOf_eq nonzero positive (by omega) (.inr ?_) ?_
    · rw [halves]
      linarith
    · rw [halves]
      linarith
  have mantissa : mantissaAt n d (e - 1) = 2 ^ 53 := by
    refine (mantissaAt_full positive ?_).mpr ?_
    · rw [halves]
      linarith
    · rw [halves]
      linarith
  have power : Nat.pow 2 53 = 2 ^ 53 := rfl
  unfold ofRatio
  dsimp only
  rw [if_neg nonzero, exponent, mantissa, if_pos power.symm]
  dsimp only
  rw [if_neg (by omega), sub_add_cancel]
  rfl

/-- A quotient close to a number is rounded to it. -/
theorem ofRatio_near (regular : Regular m e) (some : m ≠ 0) (s : Bool) (positive : 0 < d)
    (near : Near m e ((n : ℚ) / d)) : ofRatio s n d = .finite s m e := by
  have unit : (0 : ℚ) < 2 ^ (e - 2) := by positivity
  have nonzero : n ≠ 0 := by
    rintro rfl
    have above := near.above some
    rw [Nat.cast_zero, zero_div] at above
    linarith
  -- Below a power of two the exponent is smaller, so the mantissa has to be carried over.
  by_cases carried : m = 2 ^ 52 ∧ minExponent < e ∧ (n : ℚ) / d < 2 ^ 52 * 2 ^ e
  · obtain ⟨rfl, above, below⟩ := carried
    exact ofRatio_carried nonzero positive above regular.most s near below
  · obtain ⟨low, strict, full⟩ := near.whole regular fun power above =>
      le_of_not_gt fun less => carried ⟨power, above, less⟩
    have bound : (m : ℚ) + 1 ≤ 2 ^ 53 := by exact_mod_cast regular.small
    have exponent : exponentOf n d = e := by
      refine exponentOf_eq nonzero positive regular.least full ?_
      rw [quarters]
      have scaled : ((m : ℚ) + 1) * 2 ^ (e - 2) ≤ 2 ^ 53 * 2 ^ (e - 2) := by gcongr
      linarith [near.high]
    have mantissa : mantissaAt n d e = m := by
      refine mantissaAt_near positive low ?_ fun isOdd => ⟨strict isOdd, ?_⟩
      · rw [quarters]
        linarith [near.high]
      · rw [quarters]
        linarith [(near.odd isOdd).2]
    have part : m ≠ Nat.pow 2 53 := regular.small.ne
    unfold ofRatio
    dsimp only
    rw [if_neg nonzero, exponent, mantissa, if_neg part]
    dsimp only
    rw [if_neg (not_lt.mpr regular.most)]

/-! ### Decimals close to a number -/

theorem size_bounds (some : c ≠ 0) :
    (10 : ℚ) ^ ((Nat.toDigits 10 c).length - 1 : Int) ≤ c ∧
      (c : ℚ) < 10 ^ ((Nat.toDigits 10 c).length : Int) := by
  have digits : 0 < (Nat.toDigits 10 c).length := List.length_pos_of_ne_nil Nat.toDigits_ne_nil
  constructor
  · obtain ⟨j, length⟩ : ∃ j, (Nat.toDigits 10 c).length = j + 1 := ⟨_, (Nat.succ_pred digits.ne').symm⟩
    rw [length]
    push_cast
    rw [add_sub_cancel_right, zpow_natCast]
    rcases Nat.eq_zero_or_pos j with rfl | positive
    · exact_mod_cast Nat.one_le_iff_ne_zero.mpr some
    · have large : ¬c < 10 ^ j := fun less => by
        have short := (Nat.length_toDigits_le_iff (by decide) positive).mpr less
        omega
      exact_mod_cast Nat.le_of_not_lt large
  · rw [zpow_natCast]
    exact_mod_cast (Nat.length_toDigits_le_iff (by decide) digits).mp le_rfl

/-- No number is rounded to one that is finite if it is out of the range of decimals. -/
theorem Near.range (near : Near m e x) (regular : Regular m e) (some : m ≠ 0) :
    (10 : ℚ) ^ (-330 : Int) < x ∧ x < 10 ^ (310 : Int) := by
  have unit : (0 : ℚ) < 2 ^ (e - 2) := by positivity
  obtain ⟨small, least, most, _⟩ := regular
  unfold minExponent at least
  unfold maxExponent at most
  constructor
  · calc (10 : ℚ) ^ (-330 : Int) ≤ 2 ^ (-1076 : Int) :=
          pow_ten_le (by decide) (by decide) (by decide)
      _ ≤ 2 ^ (e - 2) := zpow_le_zpow_right₀ one_le_two (by omega)
      _ < x := near.above some
  · have bound : (m : ℚ) + 1 ≤ 2 ^ 53 := by exact_mod_cast small
    have power := pow_ten_le (l := -1024) (j := -310) (by decide) (by decide) (by decide)
    rw [zpow_neg, zpow_neg, inv_le_inv₀ (by positivity) (by positivity)] at power
    have largest : (2 : ℚ) ^ (e - 2) ≤ 2 ^ (969 : Int) :=
      zpow_le_zpow_right₀ one_le_two (by omega)
    calc x ≤ (4 * m + 2) * 2 ^ (e - 2) := near.high
      _ < 2 ^ 55 * 2 ^ (e - 2) := by gcongr; linarith
      _ ≤ 2 ^ 55 * 2 ^ (969 : Int) := by gcongr
      _ = 2 ^ (1024 : Int) := by rw [← zpow_natCast, ← zpow_add₀ two_ne_zero]; rfl
      _ ≤ 10 ^ (310 : Int) := power

theorem ofDecimal_near (regular : Regular m e) (some : m ≠ 0) (s : Bool)
    (near : Near m e (c * 10 ^ q)) : ofDecimal s c q = .finite s m e := by
  obtain ⟨bottom, top⟩ := near.range regular some
  have nonzero : c ≠ 0 := by
    rintro rfl
    have positive : (0 : ℚ) < 10 ^ (-330 : Int) := by positivity
    rw [Nat.cast_zero, zero_mul] at bottom
    linarith
  obtain ⟨low, high⟩ := size_bounds nonzero
  have ten : (0 : ℚ) < 10 ^ q := by positivity
  have fits : ¬310 < ((Nat.toDigits 10 c).length : Int) + q := by
    intro large
    have reached : (10 : ℚ) ^ (310 : Int) ≤ 10 ^ ((Nat.toDigits 10 c).length - 1 : Int) * 10 ^ q := by
      rw [← zpow_add₀ (by norm_num)]
      exact zpow_le_zpow_right₀ (by norm_num) (by omega)
    have more := mul_le_mul_of_nonneg_right low ten.le
    linarith
  have counts : ¬((Nat.toDigits 10 c).length : Int) + q < -330 := by
    intro small
    have reached : (10 : ℚ) ^ ((Nat.toDigits 10 c).length : Int) * 10 ^ q ≤ 10 ^ (-330 : Int) := by
      rw [← zpow_add₀ (by norm_num)]
      exact zpow_le_zpow_right₀ (by norm_num) small.le
    have less := mul_lt_mul_of_pos_right high ten
    linarith
  obtain ⟨n, d, positive, done, value⟩ := ofDecimal_quotient s nonzero q fits counts
  rw [done]
  exact ofRatio_near regular some s positive (value ▸ near)

/-! ### The search for digits -/

theorem zpow_parts {b : ℚ} (nonzero : b ≠ 0) (k : Int) :
    b ^ k * b ^ (-k).toNat = b ^ k.toNat := by
  rw [← zpow_natCast, ← zpow_natCast, ← zpow_add₀ nonzero]
  congr 1
  omega

/-- What powers of two and ten below one are counted in. -/
def units (e q : Int) : ℚ := 2 ^ (-e).toNat * 10 ^ (-q).toNat

theorem units_pos (e q : Int) : 0 < units e q := by
  unfold units
  positivity

theorem binary_units (a : Nat) (e q : Int) :
    ((a * Nat.pow 2 e.toNat * Nat.pow 10 (-q).toNat : Nat) : ℚ) = a * 2 ^ e * units e q := by
  have parts := zpow_parts (by norm_num : (2 : ℚ) ≠ 0) e
  simp only [Nat.pow_eq, units]
  push_cast
  rw [← parts]
  ring

theorem decimal_units (c : Nat) (e q : Int) :
    ((c * (Nat.pow 2 (-e).toNat * Nat.pow 10 q.toNat) : Nat) : ℚ) = c * 10 ^ q * units e q := by
  have parts := zpow_parts (by norm_num : (10 : ℚ) ≠ 0) q
  simp only [Nat.pow_eq, units]
  push_cast
  rw [← parts]
  ring

theorem binary_le_decimal (a c : Nat) (e q : Int) :
    a * Nat.pow 2 e.toNat * Nat.pow 10 (-q).toNat ≤
        c * (Nat.pow 2 (-e).toNat * Nat.pow 10 q.toNat) ↔
      (a : ℚ) * 2 ^ e ≤ c * 10 ^ q := by
  rw [← mul_le_mul_iff_left₀ (units_pos e q), ← binary_units, ← decimal_units, Nat.cast_le]

theorem decimal_le_binary (a c : Nat) (e q : Int) :
    c * (Nat.pow 2 (-e).toNat * Nat.pow 10 q.toNat) ≤
        a * Nat.pow 2 e.toNat * Nat.pow 10 (-q).toNat ↔
      (c : ℚ) * 10 ^ q ≤ a * 2 ^ e := by
  rw [← mul_le_mul_iff_left₀ (units_pos e q), ← binary_units, ← decimal_units, Nat.cast_le]

theorem interval_eq (m : Nat) (e : Int) : interval m e =
    { low := (4 * m - reach m e) * Nat.pow 2 (e - 2).toNat
      value := 4 * m * Nat.pow 2 (e - 2).toNat
      high := (4 * m + 2) * Nat.pow 2 (e - 2).toNat
      unit := Nat.pow 2 (-(e - 2)).toNat
      closed := m % 2 = 0 } := by
  rw [interval, show 2 - e = -(e - 2) by omega]
  rfl

/-- A decimal is in the interval if it lies between the ends. -/
theorem holds_iff (some : m ≠ 0) : (interval m e).Holds q c ↔
    if m % 2 = 0 then (4 * m - reach m e) * 2 ^ (e - 2) ≤ (c : ℚ) * 10 ^ q ∧
        (c : ℚ) * 10 ^ q ≤ (4 * m + 2) * 2 ^ (e - 2)
      else (4 * m - reach m e) * 2 ^ (e - 2) < (c : ℚ) * 10 ^ q ∧
        (c : ℚ) * 10 ^ q < (4 * m + 2) * 2 ^ (e - 2) := by
  have fits : reach m e ≤ 4 * m := by
    unfold reach
    split_ifs <;> omega
  have low : (4 * m - reach m e : ℚ) = (4 * m - reach m e : Nat) := by
    rw [Nat.cast_sub fits]
    push_cast
    rfl
  have high : (4 * m + 2 : ℚ) = (4 * m + 2 : Nat) := by
    push_cast
    rfl
  have binary_lt := fun a => lt_iff_lt_of_le_iff_le (decimal_le_binary a c (e - 2) q)
  have lt_binary := fun a => lt_iff_lt_of_le_iff_le (binary_le_decimal a c (e - 2) q)
  rw [interval_eq, low, high]
  simp only [Interval.Holds, decide_eq_true_eq, binary_le_decimal, decimal_le_binary, binary_lt,
    lt_binary]

theorem near_of_holds (some : m ≠ 0) (holds : (interval m e).Holds q c) :
    Near m e (c * 10 ^ q) := by
  have between := (holds_iff some).mp holds
  split at between
  · rename_i even
    exact ⟨between.1, between.2, fun isOdd => by omega⟩
  · exact ⟨between.1.le, between.2.le, fun _ => between⟩

theorem holds_of_between (some : m ≠ 0) (low : (4 * m - reach m e) * 2 ^ (e - 2) < (c : ℚ) * 10 ^ q)
    (high : (c : ℚ) * 10 ^ q < (4 * m + 2) * 2 ^ (e - 2)) : (interval m e).Holds q c := by
  refine (holds_iff some).mpr ?_
  split
  · exact ⟨low.le, high.le⟩
  · exact ⟨low, high⟩

/-- The search succeeds if one of the two decimals next to the number is in the interval. -/
theorem hit?_isSome {i : Interval}
    (holds : let below := i.value * Nat.pow 10 (-q).toNat / (i.unit * Nat.pow 10 q.toNat)
      i.Holds q below ∨ i.Holds q (below + 1)) : i.hit? q ≠ none := by
  unfold Interval.hit?
  dsimp only
  split
  · exact Option.some_ne_none _
  · exact Option.some_ne_none _
  · exact Option.some_ne_none _
  · rename_i low high
    have below := of_decide_eq_false low
    have above := of_decide_eq_false high
    exact absurd holds (not_or.mpr ⟨below, above⟩)

/-- A step in the last of seventeen digits is shorter than twice the part of the interval that lies
below the number. -/
theorem step_short (regular : Regular m e) (fine : (10 : ℚ) ^ (q + 16) ≤ m * 2 ^ e) :
    (10 : ℚ) ^ q < 2 * (reach m e * 2 ^ (e - 2)) := by
  have unit : (0 : ℚ) < 2 ^ (e - 2) := by positivity
  have bound : (m : ℚ) + 1 ≤ 2 ^ 53 := by exact_mod_cast regular.small
  rw [zpow_add₀ (by norm_num), quarters e] at fine
  unfold reach
  split_ifs with power
  · rw [power.1] at fine
    norm_num at fine ⊢
    linarith
  · have scaled : ((m : ℚ) + 1) * 2 ^ (e - 2) ≤ 2 ^ 53 * 2 ^ (e - 2) := by gcongr
    norm_num at fine scaled ⊢
    linarith

theorem next_decimals (m : Nat) (e q : Int) :
    let i := interval m e
    let b := i.value * Nat.pow 10 (-q).toNat / (i.unit * Nat.pow 10 q.toNat)
    (b : ℚ) * 10 ^ q ≤ 4 * m * 2 ^ (e - 2) ∧ 4 * m * 2 ^ (e - 2) < ((b : ℚ) + 1) * 10 ^ q := by
  have positive : 0 < Nat.pow 2 (-(e - 2)).toNat * Nat.pow 10 q.toNat :=
    Nat.mul_pos (Nat.pow_pos Nat.two_pos) (Nat.pow_pos (by decide))
  intro i b
  have same : b = 4 * m * Nat.pow 2 (e - 2).toNat * Nat.pow 10 (-q).toNat /
      (Nat.pow 2 (-(e - 2)).toNat * Nat.pow 10 q.toNat) := by
    change (interval m e).value * _ / ((interval m e).unit * _) = _
    rw [interval_eq]
  have least : b * (Nat.pow 2 (-(e - 2)).toNat * Nat.pow 10 q.toNat) ≤
      4 * m * Nat.pow 2 (e - 2).toNat * Nat.pow 10 (-q).toNat := same ▸ Nat.div_mul_le_self _ _
  have most : 4 * m * Nat.pow 2 (e - 2).toNat * Nat.pow 10 (-q).toNat <
      (b + 1) * (Nat.pow 2 (-(e - 2)).toNat * Nat.pow 10 q.toNat) :=
    (Nat.div_lt_iff_lt_mul positive).mp (same ▸ Nat.lt_succ_self b)
  rw [decimal_le_binary] at least
  rw [lt_iff_lt_of_le_iff_le (decimal_le_binary _ _ _ _)] at most
  exact ⟨by exact_mod_cast least, by exact_mod_cast most⟩

/-- One of the two decimals of seventeen digits next to a number is in its interval. -/
theorem seventeen_digits (regular : Regular m e) (some : m ≠ 0)
    (fine : (10 : ℚ) ^ (q + 16) ≤ m * 2 ^ e) : (interval m e).hit? q ≠ none := by
  have unit : (0 : ℚ) < 2 ^ (e - 2) := by positivity
  have step : (0 : ℚ) < 10 ^ q := by positivity
  have short := step_short regular fine
  obtain ⟨positive, reaches⟩ := reach_bounds m e
  have above : (reach m e : ℚ) * 2 ^ (e - 2) ≤ 2 * 2 ^ (e - 2) := by gcongr
  have below : 0 < (reach m e : ℚ) * 2 ^ (e - 2) := by positivity
  obtain ⟨least, most⟩ := next_decimals m e q
  refine hit?_isSome ?_
  intro b
  -- The nearer of the two is at most half a step away.
  rcases le_or_gt (4 * (m : ℚ) * 2 ^ (e - 2) - b * 10 ^ q) (10 ^ q / 2) with near | far
  · exact .inl (holds_of_between some (by linarith) (by linarith))
  · refine .inr (holds_of_between some ?_ ?_)
    · push_cast
      linarith
    · push_cast
      linarith

theorem log2_ratio (regular : Regular m e) (some : m ≠ 0) :
    (ratio m e).1 ≠ 0 ∧ -20000 ≤ floorLog2 (ratio m e).1 (ratio m e).2 ∧
      floorLog2 (ratio m e).1 (ratio m e).2 ≤ 15000 := by
  obtain ⟨positive, size⟩ := ratio_number m e
  have unit : (0 : ℚ) < 2 ^ e := by positivity
  have mantissa : (1 : ℚ) ≤ m := by exact_mod_cast Nat.one_le_iff_ne_zero.mpr some
  have bound : (m : ℚ) < 2 ^ 53 := by exact_mod_cast regular.small
  have nonzero : (ratio m e).1 ≠ 0 := by
    intro none
    rw [none, Nat.cast_zero, zero_div] at size
    have above := mul_pos (zero_lt_one.trans_le mantissa) unit
    linarith
  obtain ⟨low, high⟩ := floorLog2_bounds nonzero positive
  rw [size] at low high
  have less : (2 : ℚ) ^ floorLog2 (ratio m e).1 (ratio m e).2 < 2 ^ (53 + e) := by
    rw [zpow_add₀ two_ne_zero]
    exact low.trans_lt (mul_lt_mul_of_pos_right bound unit)
  have more : (2 : ℚ) ^ e < 2 ^ (floorLog2 (ratio m e).1 (ratio m e).2 + 1) :=
    (le_mul_of_one_le_left unit.le mantissa).trans_lt high
  have most := (zpow_lt_zpow_iff_right₀ one_lt_two).mp less
  have least := (zpow_lt_zpow_iff_right₀ one_lt_two).mp more
  obtain ⟨_, first, last, _⟩ := regular
  unfold minExponent at first
  unfold maxExponent at last
  exact ⟨nonzero, by omega, by omega⟩

/-- The shortest digits are those of a decimal close to the number. -/
theorem shortest_near (regular : Regular m e) (some : m ≠ 0) :
    ∃ (c : Nat) (q : Int), Near m e (c * 10 ^ q) ∧ ∃ k : Nat,
      c = (shortest m e).1 * 10 ^ k ∧ (shortest m e).2 = q + k := by
  rcases shortest_cases m e with ⟨c, q, holds, digits⟩ | ⟨_, missed⟩
  · exact ⟨c, q, near_of_holds some holds, digits⟩
  · -- The last step of the search is for seventeen digits, and cannot miss.
    obtain ⟨positive, size⟩ := ratio_number m e
    obtain ⟨nonzero, least, most⟩ := log2_ratio regular some
    have logarithm := floorLog10_le nonzero positive least most
    rw [size] at logarithm
    refine absurd (missed 16 (by decide)) (seventeen_digits regular some ?_)
    rw [Nat.cast_ofNat, sub_add_cancel]
    exact logarithm

/-! ### Numbers that are read back -/

/-- What rounding yields is read back from its digits. -/
theorem reread_regular (regular : Regular m e) (s : Bool) :
    (finite s m e).reread = finite s m e := by
  rw [reread, digitsOf]
  by_cases zero : m = 0
  · have least : e = minExponent := regular.full.resolve_right (by omega)
    rw [if_pos zero, zero, least]
    rfl
  · obtain ⟨c, q, near, k, digits, exponent⟩ := shortest_near regular zero
    have scaled := ofDecimal_scaled s (shortest m e).1 k (shortest m e).2
    rw [← digits, exponent, add_sub_cancel_right] at scaled
    rw [if_neg zero, exponent, ← scaled]
    exact ofDecimal_near regular zero s near

theorem ofRatio_regular (positive : 0 < d) (done : ofRatio s n d = .finite s' m e) :
    Regular m e := by
  have least : minExponent ≤ exponentOf n d := le_max_right _ _
  by_cases nonzero : n = 0
  · rw [nonzero, ofRatio_zero] at done
    cases done
    exact ⟨by decide, le_rfl, by decide, .inl rfl⟩
  have most : mantissaAt n d (exponentOf n d) ≤ 2 ^ 53 :=
    mantissaAt_le positive (by exact_mod_cast (below_exponentOf nonzero positive).le)
  unfold ofRatio at done
  dsimp only at done
  rw [if_neg nonzero] at done
  by_cases full : mantissaAt n d (exponentOf n d) = Nat.pow 2 53
  · rw [if_pos full] at done
    dsimp only at done
    split at done
    · cases done
    · rename_i fits
      cases done
      exact ⟨by decide, by omega, by omega, .inr le_rfl⟩
  · rw [if_neg full] at done
    dsimp only at done
    split at done
    · cases done
    · rename_i fits
      cases done
      refine ⟨Nat.lt_of_le_of_ne most full, least, by omega, ?_⟩
      refine least.eq_or_lt.imp Eq.symm fun above => ?_
      obtain ⟨_, within⟩ := exponentOf_above nonzero positive le_rfl above
      exact le_mantissaAt positive (by exact_mod_cast within)

theorem reread_ofRatio (s : Bool) (n : Nat) (positive : 0 < d) :
    (ofRatio s n d).reread = ofRatio s n d := by
  cases known : ofRatio s n d with
  | nan payload =>
    by_cases nonzero : n = 0
    · rw [nonzero, ofRatio_zero] at known
      cases known
    · obtain ⟨_, _, _, _, eq⟩ := ofRatio_nonzero (d := d) s nonzero
      rw [eq] at known
      split at known <;> cases known
  | infinite s' => rfl
  | finite s' m e => exact reread_regular (ofRatio_regular positive known) s'

theorem reread_ofDecimal (s : Bool) (c : Nat) (q : Int) :
    (ofDecimal s c q).reread = ofDecimal s c q := by
  unfold ofDecimal
  dsimp only
  split
  · exact reread_ofRatio s 0 Nat.one_pos
  · split
    · rfl
    · split
      · exact reread_ofRatio s 0 Nat.one_pos
      · split
        · exact reread_ofRatio s _ Nat.one_pos
        · exact reread_ofRatio s _ (Nat.pow_pos (by decide))

end Binary64

end TraceScope
