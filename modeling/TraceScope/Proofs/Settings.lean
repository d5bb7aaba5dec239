import Mathlib.Algebra.Order.Field.Power
import Mathlib.Algebra.Order.Ring.WithTop
import Mathlib.Data.Rat.Cast.Order
import TraceScope.Config
import TraceScope.Proofs.Specification

/-!
# What settings stand for

A limit is a number, whichever way it was given, and a length exceeds it if it is the greater
number. Whatever a configuration is made from, its limit is positive or undefined, and none of its
thresholds is negative.
-/

namespace TraceScope

/-! ### Limits as numbers -/

namespace Binary64

/-- The number that a floating-point number is; undefined numbers are none. -/
def number : Binary64 → Option (WithBot (WithTop ℚ))
  | nan _ => none
  | infinite negative => some (if negative then ⊥ else ⊤)
  | finite negative m e =>
    let size : ℚ := m * 2 ^ e
    some ((if negative then -size else size : ℚ) : WithTop ℚ)

theorem ratio_number (m : Nat) (e : Int) :
    0 < (ratio m e).2 ∧ ((ratio m e).1 : ℚ) / (ratio m e).2 = m * 2 ^ e := by
  unfold ratio
  by_cases whole : 0 ≤ e
  · obtain ⟨k, rfl⟩ := Int.eq_ofNat_of_zero_le whole
    rw [if_pos whole]
    refine ⟨Nat.one_pos, ?_⟩
    simp
  · obtain ⟨k, rfl⟩ : ∃ k : Nat, e = -k := ⟨(-e).toNat, by omega⟩
    rw [if_neg whole]
    refine ⟨Nat.pow_pos Nat.two_pos, ?_⟩
    simp [zpow_neg, div_eq_mul_inv]

theorem compareInt?_eq_lt {x : Binary64} {k : Int} :
    x.compareInt? k = some .lt ↔ ∃ q, x.number = some q ∧ q < (((k : ℚ) : WithTop ℚ)) := by
  cases x with
  | nan payload => simp [compareInt?, number]
  | infinite negative =>
    cases negative with
    | true => simp [compareInt?, number]
    | false => simp [compareInt?, number]
  | finite negative m e =>
    obtain ⟨positive, size⟩ := ratio_number m e
    have bottom : (0 : ℚ) < (ratio m e).2 := by exact_mod_cast positive
    have less : ∀ n : Int, (n < k * (ratio m e).2) ↔ (n : ℚ) / (ratio m e).2 < k := by
      intro n
      rw [div_lt_iff₀ bottom]
      exact_mod_cast Iff.rfl
    simp only [compareInt?, number, Option.some.injEq, compare_lt_iff_lt, less, exists_eq_left',
      WithBot.coe_lt_coe, WithTop.coe_lt_coe, ← size]
    cases negative with
    | true => simp [neg_div]
    | false => simp

end Binary64

namespace LengthLimit

def number : LengthLimit → Option (WithBot (WithTop ℚ))
  | chars n => some ((n : ℚ) : WithTop ℚ)
  | flag => some ((1 : ℚ) : WithTop ℚ)
  | real x => x.number

/-- A length is not greater than a limit. -/
def Admits (limit : LengthLimit) (length : Nat) : Prop :=
  match limit with
  | chars n => length ≤ n
  | flag => length ≤ 1
  | real x => ∀ q, x.number = some q → ((length : ℚ) : WithTop ℚ) ≤ q

/-- Both limits are numbers, and the first is not the greater one. -/
def AtMost (a b : LengthLimit) : Prop :=
  ∃ p q, a.number = some p ∧ b.number = some q ∧ p ≤ q

variable {a b limit : LengthLimit} {n : Nat}

theorem chars_atMost {m n : Int} (le : m ≤ n) : (chars m).AtMost (chars n) := by
  refine ⟨_, _, rfl, rfl, ?_⟩
  exact_mod_cast le

theorem exceededBy_iff :
    limit.exceededBy n = true ↔ ∃ q, limit.number = some q ∧ q < ((n : ℚ) : WithTop ℚ) := by
  cases limit with
  | chars k =>
    simp only [exceededBy, number, decide_eq_true_eq, Option.some.injEq, exists_eq_left',
      WithBot.coe_lt_coe, WithTop.coe_lt_coe]
    exact_mod_cast Iff.rfl
  | flag =>
    simp only [exceededBy, number, decide_eq_true_eq, Option.some.injEq, exists_eq_left',
      WithBot.coe_lt_coe, WithTop.coe_lt_coe, Nat.one_lt_cast]
  | real x =>
    have compared := Binary64.compareInt?_eq_lt (x := x) (k := n)
    simpa [exceededBy, number] using compared

theorem admits_of_not_exceededBy (short : limit.exceededBy n = false) : limit.Admits n := by
  have below : ∀ q, limit.number = some q → ((n : ℚ) : WithTop ℚ) ≤ q := by
    intro q known
    refine le_of_not_gt fun less => ?_
    rw [exceededBy_iff.mpr ⟨q, known, less⟩] at short
    cases short
  cases limit with
  | chars k => exact_mod_cast WithTop.coe_le_coe.mp (WithBot.coe_le_coe.mp (below _ rfl))
  | flag => exact_mod_cast WithTop.coe_le_coe.mp (WithBot.coe_le_coe.mp (below _ rfl))
  | real x => exact below

theorem exceededBy_of_atMost (h : a.AtMost b) (long : b.exceededBy n = true) :
    a.exceededBy n = true := by
  obtain ⟨p, q, first, second, le⟩ := h
  obtain ⟨r, known, less⟩ := exceededBy_iff.mp long
  obtain rfl : q = r := Option.some.inj (second.symm.trans known)
  exact exceededBy_iff.mpr ⟨p, first, lt_of_le_of_lt le less⟩

end LengthLimit

/-! ### Thresholds are not negative -/

theorem Value.toInt_nonneg {v : Value} {n : Int} (least : v.lessThan 0 = .ok false)
    (whole : v.toInt = .ok n) : 0 ≤ n := by
  cases v with
  | bool b =>
    obtain rfl := Except.ok.inj whole
    cases b <;> decide
  | int k =>
    obtain rfl := Except.ok.inj whole
    have order := Except.ok.inj least
    simpa [compare_lt_iff_lt] using order
  | double x =>
    cases x with
    | finite negative m e =>
      have order := Except.ok.inj least
      obtain rfl := Except.ok.inj whole
      simp only [Binary64.compareInt?, Binary64.truncate?, Option.getD_some] at order ⊢
      cases negative with
      | false => exact Int.natCast_nonneg _
      | true =>
        have none : (Binary64.ratio m e).1 = 0 := by
          simpa [compare_lt_iff_lt] using order
        simp [none]
    | _ => cases whole
  | decimal x =>
    obtain ⟨negative, c, e⟩ := x
    have order := Except.ok.inj least
    change (if Decimal.isHuge ⟨negative, c, e⟩ then .error Fault.outOfMemory
      else .ok (Decimal.truncate ⟨negative, c, e⟩)) = Except.ok n at whole
    split at whole
    · cases whole
    · obtain rfl := Except.ok.inj whole
      unfold Decimal.truncate
      cases negative with
      | false => exact Int.natCast_nonneg _
      | true =>
        have none : c = 0 := by
          simpa [compare_lt_iff_lt] using order
        simp [none]
  | _ => cases least

namespace Thresholds

/-- What is read from a setting of any shape, or from pairs of types and thresholds. -/
inductive Made : Thresholds → Prop
  | setting {v : Value} {t : Thresholds} (read : ofValue v = .ok t) : Made t
  | pairs {pairs : List (Value × Value)} {t : Thresholds} (read : ofPairs pairs = .ok t) : Made t

def NonNegative (t : Thresholds) : Prop := ∀ type n, t.table.get? type = some n → 0 ≤ n

variable {t u : Thresholds}

theorem put_nonNegative {type millis : Value} (h : t.NonNegative)
    (done : t.put type millis = .ok u) : u.NonNegative := by
  unfold put at done
  obtain ⟨less, compared, done⟩ := bind_ok_iff.mp done
  cases less with
  | true => cases done
  | false =>
    obtain ⟨n, whole, done⟩ := bind_ok_iff.mp done
    cases type with
    | text name =>
      obtain rfl := Except.ok.inj done
      intro type k found
      rw [Table.get?_insert] at found
      split at found
      · obtain rfl := Option.some.inj found
        exact Value.toInt_nonneg compared whole
      · exact h type k found
    | _ => cases done

theorem empty_nonNegative : NonNegative {} := by
  intro type n found
  cases found

theorem putEntry_nonNegative {letters : List Letter} (h : t.NonNegative)
    (done : t.putEntry letters = .ok u) : u.NonNegative := by
  unfold putEntry at done
  dsimp only at done
  split at done
  · obtain rfl := Except.ok.inj done
    exact h
  · split at done
    · cases done
    · split at done
      · cases done
      · exact put_nonNegative h done

theorem ofText_nonNegative {setting : Text} (read : ofText setting = .ok t) : t.NonNegative :=
  foldlM_keeps (fun _ _ _ _ => putEntry_nonNegative) empty_nonNegative read

theorem ofPairs_nonNegative {pairs : List (Value × Value)} (read : ofPairs pairs = .ok t) :
    t.NonNegative :=
  foldlM_keeps (fun _ _ _ _ => put_nonNegative) empty_nonNegative read

theorem Made.nonNegative (made : t.Made) : t.NonNegative := by
  cases made with
  | pairs read => exact ofPairs_nonNegative read
  | @setting v _ read =>
    cases v with
    | null =>
      obtain rfl := Except.ok.inj read
      exact empty_nonNegative
    | text setting => exact ofText_nonNegative read
    | object members => exact ofPairs_nonNegative read
    | _ => cases read

theorem NonNegative.millis (h : t.NonNegative) (v : Value) : 0 ≤ t.millis v := by
  have others : 0 ≤ t.forOthers := by
    unfold forOthers
    cases known : t.table.get? defaultType with
    | none => decide
    | some n => exact h _ _ known
  cases v with
  | text name =>
    simp only [Thresholds.millis, forName]
    split
    · exact others
    · cases known : t.table.get? (normalize name) with
      | none => exact others
      | some n => exact h _ _ known
  | _ => exact others

end Thresholds

namespace Config

/-- What is made from a limit and a setting, or from a limit and thresholds that are there. -/
inductive Made : Config → Prop
  | values {stack : Stack} {limit setting : Value} {c : Config}
      (accepted : ofValues stack limit setting = .ok c) : Made c
  | thresholds {stack : Stack} {limit : Value} {t : Thresholds} {c : Config} (read : t.Made)
      (accepted : ofThresholds stack limit t = .ok c) : Made c

variable {c : Config}

theorem Made.parts (made : c.Made) :
    c.thresholds.Made ∧ ∃ v, LengthLimit.ofValue v = .ok c.limit := by
  cases made with
  | @values stack limit setting _ accepted =>
    obtain ⟨l, limited, accepted⟩ := bind_ok_iff.mp accepted
    dsimp only at accepted
    split at accepted
    · obtain ⟨t, read, accepted⟩ := bind_ok_iff.mp accepted
      obtain rfl := pure_ok_iff.mp accepted
      exact ⟨@Thresholds.Made.setting (.text Thresholds.standard) t read, limit, limited⟩
    · obtain ⟨t, read, accepted⟩ := bind_ok_iff.mp accepted
      obtain rfl := pure_ok_iff.mp accepted
      exact ⟨.setting read, limit, limited⟩
  | @thresholds stack limit t _ read accepted =>
    obtain ⟨l, limited, accepted⟩ := bind_ok_iff.mp accepted
    obtain rfl := pure_ok_iff.mp accepted
    exact ⟨read, limit, limited⟩

theorem Made.millis (made : c.Made) (v : Value) : 0 ≤ c.thresholds.millis v :=
  made.parts.1.nonNegative.millis v

theorem Made.limit (made : c.Made) : c.limit.exceededBy 0 = false := by
  obtain ⟨v, accepted⟩ := made.parts.2
  obtain ⟨low, compared, accepted⟩ := bind_ok_iff.mp accepted
  cases low with
  | true => cases accepted
  | false =>
    cases v with
    | int n =>
      obtain ⟨above, _⟩ := Bool.or_eq_false_iff.mp (Except.ok.inj compared)
      rw [← Except.ok.inj accepted]
      simpa [LengthLimit.exceededBy, compare_lt_iff_lt] using above
    | bool b =>
      rw [← Except.ok.inj accepted]
      rfl
    | double x =>
      obtain ⟨above, _⟩ := Bool.or_eq_false_iff.mp (Except.ok.inj compared)
      rw [← Except.ok.inj accepted]
      exact above
    | _ => cases accepted

end Config

end TraceScope
