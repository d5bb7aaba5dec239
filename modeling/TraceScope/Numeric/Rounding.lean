/-!
# Rounding of quotients

Quotients of natural numbers rounded to the nearest whole number, and the powers of two and ten
that a quotient lies between.
-/

namespace TraceScope

/-- The whole number nearest to `n / d`; a half goes to the even neighbour. -/
def roundHalfEven (n d : Nat) : Nat :=
  let q := n / d
  let twice := 2 * (n % d)
  if twice < d then q
  else if d < twice then q + 1
  else if q % 2 = 0 then q
  else q + 1

theorem le_roundHalfEven (n d : Nat) : n / d ≤ roundHalfEven n d := by
  unfold roundHalfEven; grind

theorem roundHalfEven_le (n d : Nat) : roundHalfEven n d ≤ n / d + 1 := by
  unfold roundHalfEven; grind

/-- Whether `n / d` is at least `base ^ k`. -/
def reachesPower (base n d : Nat) (k : Int) : Bool :=
  if 0 ≤ k then d * base.pow k.toNat ≤ n else d ≤ n * base.pow (-k).toNat

/-- The largest `k` with `2 ^ k ≤ n / d`, for positive `n` and `d`. -/
def floorLog2 (n d : Nat) : Int :=
  let k : Int := (n.log2 : Int) - d.log2
  if reachesPower 2 n d k then k else k - 1

/-- The largest `k` with `10 ^ k ≤ n / d`, for positive `n` and `d`: the binary logarithm leaves
at most one step to either side. -/
def floorLog10 (n d : Nat) : Int :=
  let k : Int := floorLog2 n d * 30103 / 100000
  if reachesPower 10 n d (k + 1) then k + 1
  else if reachesPower 10 n d k then k
  else k - 1

end TraceScope
