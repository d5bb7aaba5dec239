/-!
# Exact decimals

A decimal keeps the digits it was written with, zeros at the end included.
-/

namespace TraceScope

/-- `coefficient * 10 ^ exponent`, negated if `negative`. -/
structure Decimal where
  negative : Bool
  coefficient : Nat
  exponent : Int
  deriving DecidableEq, Repr, Inhabited

namespace Decimal

def adjusted (x : Decimal) : Int :=
  x.exponent + ((Nat.toDigits 10 x.coefficient).length - 1 : Nat)

def maxAdjusted : Int := 999999999999999999

def minExponent : Int := -1999999999999999997

def inRange (x : Decimal) : Bool :=
  decide (minExponent ≤ x.exponent) &&
    (if x.coefficient = 0 then decide (x.exponent ≤ maxAdjusted)
     else decide (x.adjusted ≤ maxAdjusted))

/-- The number of zeros that no memory holds. -/
def zeroLimit : Int := Nat.pow 10 9

/-- Decimals with too many zeros before the point to be held as integers. -/
def isHuge (x : Decimal) : Bool := x.coefficient != 0 && decide (zeroLimit ≤ x.exponent)

/-- The decimal without its fraction. Powers beyond the digits are not raised. -/
def truncate (x : Decimal) : Int :=
  let n :=
    if x.coefficient = 0 then 0
    else if 0 ≤ x.exponent then x.coefficient * Nat.pow 10 x.exponent.toNat
    else if x.adjusted < 0 then 0
    else x.coefficient / Nat.pow 10 (-x.exponent).toNat
  if x.negative then -(n : Int) else n

/-- The text of a decimal: positional with the digits as written, or scientific when the last
digit lies left of the point or more than five zeros would follow it. -/
def text (x : Decimal) : String :=
  let ds := Nat.toDigits 10 x.coefficient
  let point : Int := ds.length + x.exponent
  let body :=
    if x.exponent ≤ 0 ∧ -6 ≤ x.adjusted then
      if x.exponent = 0 then ds
      else if 0 < point then ds.take point.toNat ++ '.' :: ds.drop point.toNat
      else '0' :: '.' :: (List.replicate (-point).toNat '0' ++ ds)
    else
      let fraction := match ds.tail with
        | [] => []
        | rest => '.' :: rest
      ds.take 1 ++ fraction ++
        'E' :: (if x.adjusted < 0 then '-' else '+') :: Nat.toDigits 10 x.adjusted.natAbs
  String.ofList (if x.negative then '-' :: body else body)

end Decimal

end TraceScope
