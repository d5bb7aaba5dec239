import Mathlib.Tactic.FieldSimp
import Mathlib.Tactic.Linarith
import Mathlib.Tactic.Positivity
import Mathlib.Tactic.Ring
import TraceScope.Proofs.Settings

/-!
# Rounding keeps bounds

A quotient that is rounded to floating point stays on the same side of every number that needs no
rounding. Nothing more is used of a rounded number: bounds chosen close enough to the quotient tell
how far it may have moved.
-/

namespace TraceScope

variable {n d k : Nat}

/-! ### Whole numbers -/

theorem le_roundHalfEven_of_mul_le (positive : 0 < d) (h : k * d ≤ n) : k ≤ roundHalfEven n d :=
  ((Nat.le_div_iff_mul_le positive).mpr h).trans (le_roundHalfEven n d)

theorem roundHalfEven_le_of_le_mul (positive : 0 < d) (h : n ≤ k * d) : roundHalfEven n d ≤ k := by
  rcases h.lt_or_eq with less | rfl
  · have below : n / d < k := (Nat.div_lt_iff_lt_mul positive).mpr less
    have bound := roundHalfEven_le n d
    omega
  · simp [roundHalfEven, Nat.mul_div_cancel _ positive, positive]

/-- A quotient below an even number is rounded up to it from half a unit below. -/
theorem roundHalfEven_eq_even (positive : 0 < d) (even : k % 2 = 0) (below : n < k * d) :
    roundHalfEven n d = k ↔ 2 * (k * d) ≤ 2 * n + d := by
  have split := Nat.div_add_mod n d
  have part := Nat.mod_lt n positive
  have less : n / d < k := (Nat.div_lt_iff_lt_mul positive).mpr below
  obtain ⟨j, rfl⟩ : ∃ j, k = n / d + 1 + j := ⟨k - (n / d + 1), by omega⟩
  have whole : (n / d + 1 + j) * d = d * (n / d) + d + j * d := by ring
  have rest : 0 < j → d ≤ j * d := fun some => Nat.le_mul_of_pos_left d some
  unfold roundHalfEven
  dsimp only
  rcases Nat.eq_zero_or_pos j with rfl | some
  · split_ifs <;> omega
  · have := rest some
    split_ifs <;> omega

/-! ### Powers of two around a quotient -/

theorem reachesPower_iff {b : Nat} (base : 0 < b) (positive : 0 < d) (k : Int) :
    reachesPower b n d k = true ↔ (b : ℚ) ^ k ≤ (n : ℚ) / d := by
  have bottom : (0 : ℚ) < d := by exact_mod_cast positive
  unfold reachesPower
  by_cases whole : 0 ≤ k
  · obtain ⟨j, rfl⟩ := Int.eq_ofNat_of_zero_le whole
    rw [if_pos whole, decide_eq_true_eq, le_div_iff₀ bottom, Int.toNat_natCast, zpow_natCast,
      mul_comm]
    exact_mod_cast Iff.rfl
  · obtain ⟨j, rfl⟩ : ∃ j : Nat, k = -j := ⟨(-k).toNat, by omega⟩
    have power : (0 : ℚ) < (b : ℚ) ^ j := by positivity
    rw [if_neg whole, decide_eq_true_eq, neg_neg, Int.toNat_natCast, zpow_neg, zpow_natCast,
      le_div_iff₀ bottom, inv_mul_le_iff₀ power, mul_comm]
    exact_mod_cast Iff.rfl

theorem log2_bounds (nonzero : n ≠ 0) :
    (2 : ℚ) ^ (n.log2 : Int) ≤ n ∧ (n : ℚ) < 2 ^ ((n.log2 : Int) + 1) := by
  obtain ⟨low, high⟩ := (Nat.log2_eq_iff nonzero).mp rfl
  refine ⟨by exact_mod_cast low, ?_⟩
  rw [← Nat.cast_one, ← Nat.cast_add, zpow_natCast]
  exact_mod_cast high

theorem floorLog2_bounds (nonzero : n ≠ 0) (positive : 0 < d) :
    (2 : ℚ) ^ floorLog2 n d ≤ (n : ℚ) / d ∧ (n : ℚ) / d < (2 : ℚ) ^ (floorLog2 n d + 1) := by
  have bottom : (0 : ℚ) < d := by exact_mod_cast positive
  obtain ⟨lowTop, highTop⟩ := log2_bounds nonzero
  obtain ⟨lowBottom, highBottom⟩ := log2_bounds positive.ne'
  have above : (n : ℚ) / d < (2 : ℚ) ^ ((n.log2 : Int) - d.log2 + 1) := by
    rw [div_lt_iff₀ bottom]
    calc (n : ℚ) < 2 ^ ((n.log2 : Int) + 1) := highTop
      _ = 2 ^ ((n.log2 : Int) - d.log2 + 1) * 2 ^ (d.log2 : Int) := by
        rw [← zpow_add₀ two_ne_zero]
        congr 1
        omega
      _ ≤ 2 ^ ((n.log2 : Int) - d.log2 + 1) * d := by gcongr
  have below : (2 : ℚ) ^ ((n.log2 : Int) - d.log2 - 1) ≤ (n : ℚ) / d := by
    rw [le_div_iff₀ bottom]
    calc (2 : ℚ) ^ ((n.log2 : Int) - d.log2 - 1) * d
        ≤ 2 ^ ((n.log2 : Int) - d.log2 - 1) * 2 ^ ((d.log2 : Int) + 1) := by gcongr
      _ = 2 ^ (n.log2 : Int) := by
        rw [← zpow_add₀ two_ne_zero]
        congr 1
        omega
      _ ≤ n := lowTop
  unfold floorLog2
  dsimp only
  split
  · rename_i reached
    exact ⟨by exact_mod_cast (reachesPower_iff Nat.two_pos positive _).mp reached, above⟩
  · rename_i missed
    refine ⟨below, ?_⟩
    rw [sub_add_cancel]
    exact lt_of_not_ge fun reached =>
      missed ((reachesPower_iff Nat.two_pos positive _).mpr (by exact_mod_cast reached))

namespace Binary64

variable {m j : Nat} {e e' : Int} {s s' : Bool} {q : ℚ}

/-! ### Mantissas -/

theorem mantissaAt_eq (positive : 0 < d) (e : Int) :
    ∃ top bottom : Nat, 0 < bottom ∧ mantissaAt n d e = roundHalfEven top bottom ∧
      (top : ℚ) / bottom * 2 ^ e = (n : ℚ) / d := by
  unfold mantissaAt
  by_cases whole : 0 ≤ e
  · obtain ⟨k, rfl⟩ := Int.eq_ofNat_of_zero_le whole
    rw [if_pos whole]
    refine ⟨_, _, Nat.mul_pos positive (Nat.pow_pos Nat.two_pos), rfl, ?_⟩
    simp only [Int.toNat_natCast, Nat.cast_mul, zpow_natCast]
    push_cast
    field_simp
  · obtain ⟨k, rfl⟩ : ∃ k : Nat, e = -k := ⟨(-e).toNat, by omega⟩
    have power : ((Nat.pow 2 k : Nat) : ℚ) = 2 ^ k := by exact_mod_cast rfl
    rw [if_neg whole]
    refine ⟨_, _, positive, rfl, ?_⟩
    simp only [neg_neg, Int.toNat_natCast, Nat.cast_mul, power, zpow_neg, zpow_natCast]
    field_simp

theorem le_mantissaAt (positive : 0 < d) (h : (k : ℚ) * 2 ^ e ≤ (n : ℚ) / d) :
    k ≤ mantissaAt n d e := by
  obtain ⟨top, bottom, nonzero, rounded, same⟩ := mantissaAt_eq (n := n) positive e
  rw [← same] at h
  have scaled := le_of_mul_le_mul_right h (by positivity)
  rw [le_div_iff₀ (by exact_mod_cast nonzero)] at scaled
  rw [rounded]
  exact le_roundHalfEven_of_mul_le nonzero (by exact_mod_cast scaled)

theorem mantissaAt_le (positive : 0 < d) (h : (n : ℚ) / d ≤ (k : ℚ) * 2 ^ e) :
    mantissaAt n d e ≤ k := by
  obtain ⟨top, bottom, nonzero, rounded, same⟩ := mantissaAt_eq (n := n) positive e
  rw [← same] at h
  have scaled := le_of_mul_le_mul_right h (by positivity)
  rw [div_le_iff₀ (by exact_mod_cast nonzero)] at scaled
  rw [rounded]
  exact roundHalfEven_le_of_le_mul nonzero (by exact_mod_cast scaled)

theorem shift_number (j i : Nat) (e : Int) :
    (j : ℚ) * 2 ^ (e + i) = (j * 2 ^ i : Nat) * 2 ^ e := by
  rw [zpow_add₀ two_ne_zero, zpow_natCast]
  push_cast
  ring

/-! ### Rounded quotients -/

/-- The number is a floating-point number as it is. -/
def Representable (q : ℚ) : Prop :=
  ∃ (m : Nat) (e : Int), m < 2 ^ 53 ∧ minExponent ≤ e ∧ e ≤ maxExponent ∧ q = m * 2 ^ e

theorem representable_nat (small : n < 2 ^ 53) : Representable n :=
  ⟨n, 0, small, by decide, by decide, by simp⟩

/-- A whole number and some of 1024 parts. -/
theorem representable_add (small : n * 1024 + j < 2 ^ 53) :
    Representable (n + (j : ℚ) / 1024) := by
  refine ⟨n * 1024 + j, -10, small, by decide, by decide, ?_⟩
  rw [zpow_neg]
  push_cast
  ring

theorem ofRatio_zero (s : Bool) (d : Nat) : ofRatio s 0 d = .finite s 0 minExponent := rfl

theorem ofRatio_nonzero (s : Bool) (nonzero : n ≠ 0) : ∃ (m : Nat) (e : Int),
    (m : ℚ) * 2 ^ e = mantissaAt n d (exponentOf n d) * 2 ^ exponentOf n d ∧
      (e = exponentOf n d ∧ mantissaAt n d (exponentOf n d) ≠ 2 ^ 53 ∨
        e = exponentOf n d + 1 ∧ mantissaAt n d (exponentOf n d) = 2 ^ 53) ∧
        ofRatio s n d = if maxExponent < e then .infinite s else .finite s m e := by
  unfold ofRatio
  rw [if_neg nonzero]
  dsimp only
  by_cases full : mantissaAt n d (exponentOf n d) = Nat.pow 2 53
  · refine ⟨2 ^ 52, exponentOf n d + 1, ?_, .inr ⟨rfl, full⟩, ?_⟩
    · rw [full, zpow_add₀ two_ne_zero]
      push_cast
      ring
    · rw [if_pos full]
      rfl
  · refine ⟨_, _, rfl, .inl ⟨rfl, full⟩, ?_⟩
    rw [if_neg full]

/-- An exponent above another one belongs to a quotient above all numbers of the other. -/
theorem exponentOf_above (nonzero : n ≠ 0) (positive : 0 < d) (least : minExponent ≤ e)
    (above : e < exponentOf n d) :
    (2 : ℚ) ^ 53 * 2 ^ e ≤ 2 ^ 52 * 2 ^ exponentOf n d ∧
      (2 : ℚ) ^ 52 * 2 ^ exponentOf n d ≤ (n : ℚ) / d := by
  have log : exponentOf n d = floorLog2 n d - 52 := by
    unfold exponentOf at above ⊢
    omega
  obtain ⟨low, _⟩ := floorLog2_bounds nonzero positive
  constructor
  · rw [← zpow_natCast, ← zpow_natCast, ← zpow_add₀ two_ne_zero, ← zpow_add₀ two_ne_zero]
    exact zpow_le_zpow_right₀ one_le_two (by push_cast; omega)
  · rw [← zpow_natCast, ← zpow_add₀ two_ne_zero, log]
    convert low using 2
    push_cast
    omega

theorem le_ofRatio (h : Representable q) (positive : 0 < d) (le : q ≤ (n : ℚ) / d)
    (done : ofRatio s n d = .finite s' m e) : s' = s ∧ q ≤ (m : ℚ) * 2 ^ e := by
  obtain ⟨j, k, small, least, _, rfl⟩ := h
  by_cases nonzero : n = 0
  · rw [nonzero, ofRatio_zero] at done
    cases done
    refine ⟨rfl, ?_⟩
    simpa [nonzero] using le
  obtain ⟨m', e', same, _, eq⟩ := ofRatio_nonzero (d := d) s nonzero
  rw [eq] at done
  split at done
  · cases done
  cases done
  refine ⟨rfl, ?_⟩
  rw [same]
  rcases le_or_gt (exponentOf n d) k with inside | above
  · obtain ⟨i, rfl⟩ : ∃ i : Nat, k = exponentOf n d + i := ⟨(k - exponentOf n d).toNat, by omega⟩
    rw [shift_number] at le ⊢
    have reached := le_mantissaAt positive le
    gcongr
  · obtain ⟨beyond, within⟩ := exponentOf_above nonzero positive least above
    have full : 2 ^ 52 ≤ mantissaAt n d (exponentOf n d) :=
      le_mantissaAt positive (by exact_mod_cast within)
    calc (j : ℚ) * 2 ^ k ≤ 2 ^ 53 * 2 ^ k := by
          gcongr
          exact_mod_cast small.le
      _ ≤ 2 ^ 52 * 2 ^ exponentOf n d := beyond
      _ ≤ mantissaAt n d (exponentOf n d) * 2 ^ exponentOf n d := by
          gcongr
          exact_mod_cast full

theorem ofRatio_le (s : Bool) (h : Representable q) (positive : 0 < d) (le : (n : ℚ) / d ≤ q) :
    ∃ (m : Nat) (e : Int), ofRatio s n d = .finite s m e ∧ (m : ℚ) * 2 ^ e ≤ q := by
  by_cases nonzero : n = 0
  · refine ⟨0, minExponent, by rw [nonzero, ofRatio_zero], ?_⟩
    simpa [nonzero] using le
  obtain ⟨j, k, small, least, most, rfl⟩ := h
  have inside : exponentOf n d ≤ k := by
    by_contra above
    obtain ⟨beyond, within⟩ := exponentOf_above nonzero positive least (lt_of_not_ge above)
    have less : (j : ℚ) * 2 ^ k < 2 ^ 53 * 2 ^ k := by
      gcongr
      exact_mod_cast small
    linarith
  obtain ⟨i, rfl⟩ : ∃ i : Nat, k = exponentOf n d + i := ⟨(k - exponentOf n d).toNat, by omega⟩
  rw [shift_number] at le ⊢
  have reached := mantissaAt_le positive le
  obtain ⟨m, e, same, carried, eq⟩ := ofRatio_nonzero (d := d) s nonzero
  have fits : ¬ maxExponent < e := by
    rcases carried with ⟨rfl, _⟩ | ⟨rfl, full⟩
    · omega
    · -- A mantissa that is carried over leaves room for a larger exponent.
      have shifted : i ≠ 0 := by
        rintro rfl
        omega
      omega
  refine ⟨m, e, by rw [eq, if_neg fits], ?_⟩
  rw [same]
  gcongr

theorem ofRatio_exact (s : Bool) (h : Representable q) (positive : 0 < d) (eq : (n : ℚ) / d = q) :
    ∃ (m : Nat) (e : Int), ofRatio s n d = .finite s m e ∧ (m : ℚ) * 2 ^ e = q := by
  obtain ⟨m, e, done, most⟩ := ofRatio_le s h positive eq.le
  exact ⟨m, e, done, le_antisymm most (le_ofRatio h positive eq.ge done).2⟩

theorem le_nearest (s : Bool) (h : (k : ℚ) ≤ m * 2 ^ e) : k ≤ (finite s m e).nearest := by
  obtain ⟨positive, size⟩ := ratio_number m e
  rw [← size, le_div_iff₀ (by exact_mod_cast positive)] at h
  exact le_roundHalfEven_of_mul_le positive (by exact_mod_cast h)

theorem nearest_le (s : Bool) (h : (m : ℚ) * 2 ^ e ≤ k) : (finite s m e).nearest ≤ k := by
  obtain ⟨positive, size⟩ := ratio_number m e
  rw [← size, div_le_iff₀ (by exact_mod_cast positive)] at h
  exact roundHalfEven_le_of_le_mul positive (by exact_mod_cast h)

/-! ### Quotients out of range -/

/-- A quotient lies below the power of two that its exponent leaves room for. -/
theorem below_exponentOf (nonzero : n ≠ 0) (positive : 0 < d) :
    (n : ℚ) / d < 2 ^ 53 * 2 ^ exponentOf n d := by
  obtain ⟨_, high⟩ := floorLog2_bounds nonzero positive
  refine high.trans_le ?_
  rw [← zpow_natCast, ← zpow_add₀ two_ne_zero]
  refine zpow_le_zpow_right₀ one_le_two ?_
  unfold exponentOf
  push_cast
  omega

/-- A mantissa is rounded up to the next power of two from half a unit below. -/
theorem mantissaAt_full (positive : 0 < d) (below : (n : ℚ) / d < 2 ^ 53 * 2 ^ e) :
    mantissaAt n d e = 2 ^ 53 ↔ (2 ^ 53 - 1 / 2) * 2 ^ e ≤ (n : ℚ) / d := by
  have unit : (0 : ℚ) < 2 ^ e := by positivity
  obtain ⟨top, bottom, some, rounded, scaled⟩ := mantissaAt_eq (n := n) positive e
  have bottom' : (0 : ℚ) < bottom := by exact_mod_cast some
  rw [← scaled, mul_lt_mul_iff_left₀ unit, div_lt_iff₀ bottom'] at below
  rw [rounded, ← scaled, mul_le_mul_iff_left₀ unit, le_div_iff₀ bottom',
    roundHalfEven_eq_even some (by norm_num) (by exact_mod_cast below)]
  have cast : 2 * (2 ^ 53 * bottom) ≤ 2 * top + bottom ↔
      (2 : ℚ) * (2 ^ 53 * bottom) ≤ 2 * top + bottom := by exact_mod_cast Iff.rfl
  rw [cast]
  constructor <;> intro <;> linarith

/-- The least number that is rounded to infinity: half a unit less than the next power of two. -/
def overflowBound : ℚ := (2 ^ 53 - 1 / 2) * 2 ^ maxExponent

theorem overflowBound_le : overflowBound ≤ 2 ^ 1024 := by
  have unit : (0 : ℚ) < 2 ^ 971 := by positivity
  have bound : overflowBound = (2 ^ 53 - 1 / 2) * 2 ^ 971 := by
    rw [overflowBound, show maxExponent = (971 : Nat) from rfl, zpow_natCast]
  calc overflowBound
      ≤ 2 ^ 53 * 2 ^ 971 := bound.trans_le (mul_le_mul_of_nonneg_right (by norm_num) unit.le)
    _ = 2 ^ 1024 := (pow_add 2 53 971).symm

theorem ofRatio_infinite_iff (s : Bool) (positive : 0 < d) :
    (∃ s', ofRatio s n d = .infinite s') ↔ overflowBound ≤ (n : ℚ) / d := by
  have unit : (0 : ℚ) < 2 ^ maxExponent := by positivity
  have bound : overflowBound = (2 ^ 53 - 1 / 2) * 2 ^ maxExponent := rfl
  by_cases nonzero : n = 0
  · rw [nonzero, ofRatio_zero, Nat.cast_zero, zero_div, bound]
    constructor
    · rintro ⟨_, same⟩
      cases same
    · intro large
      linarith
  have below := below_exponentOf nonzero positive
  obtain ⟨m, e, _, carried, eq⟩ := ofRatio_nonzero (d := d) s nonzero
  rw [eq]
  rcases lt_trichotomy (exponentOf n d) maxExponent with less | same | above
  · -- There is room for a larger exponent, even if the mantissa is carried over.
    rw [if_neg (by omega)]
    constructor
    · rintro ⟨_, impossible⟩
      cases impossible
    · intro large
      have smaller : (2 : ℚ) ^ exponentOf n d * 2 ≤ 2 ^ maxExponent := by
        rw [← zpow_add_one₀ two_ne_zero]
        exact zpow_le_zpow_right₀ one_le_two (by omega)
      rw [bound] at large
      linarith
  · -- The quotient is rounded to infinity if its mantissa is carried over.
    have full : mantissaAt n d (exponentOf n d) = 2 ^ 53 ↔ overflowBound ≤ (n : ℚ) / d := by
      rw [mantissaAt_full positive below, same, bound]
    rw [← full]
    rcases carried with ⟨rfl, partly⟩ | ⟨rfl, carry⟩
    · rw [if_neg (by omega)]
      refine ⟨?_, fun carry => absurd carry partly⟩
      rintro ⟨_, impossible⟩
      cases impossible
    · rw [if_pos (by omega)]
      exact ⟨fun _ => carry, fun _ => ⟨s, rfl⟩⟩
  · have least : minExponent ≤ maxExponent := by decide
    obtain ⟨beyond, within⟩ := exponentOf_above nonzero positive least above
    rw [if_pos (by omega), bound]
    refine ⟨fun _ => ?_, fun _ => ⟨s, rfl⟩⟩
    linarith

end Binary64

/-- The quotient of two integers is told unless it is too large. -/
theorem quotient?_isSome_iff {a : Int} (positive : 0 < d) :
    (quotient? a d).isSome = true ↔ (a.natAbs : ℚ) / d < Binary64.overflowBound := by
  rw [← not_le, ← Binary64.ofRatio_infinite_iff (a < 0) positive]
  unfold quotient?
  cases Binary64.ofRatio (decide (a < 0)) a.natAbs d <;> simp

end TraceScope
