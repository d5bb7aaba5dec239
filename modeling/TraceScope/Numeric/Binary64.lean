import TraceScope.Numeric.Rounding

/-!
# Binary floating point by value

A floating-point number of 64 bits is held as the number it stands for. Every operation is exact
integer arithmetic followed by one rounding to the nearest representable number.
-/

namespace TraceScope

/-- `finite s m e` is `m * 2 ^ e`, negated if `s`. Rounding yields `m < 2 ^ 53` and, unless `e` is
the least exponent, `2 ^ 52 ≤ m`. Undefined numbers are told apart by their payload. -/
inductive Binary64
  | nan (payload : Nat)
  | infinite (negative : Bool)
  | finite (negative : Bool) (mantissa : Nat) (exponent : Int)
  deriving DecidableEq, Repr, Inhabited

namespace Binary64

def minExponent : Int := -1074

def maxExponent : Int := 971

/-- The mantissa of `n / d` in units of `2 ^ e`, rounded to nearest even. -/
def mantissaAt (n d : Nat) (e : Int) : Nat :=
  if 0 ≤ e then roundHalfEven n (d * Nat.pow 2 e.toNat)
  else roundHalfEven (n * Nat.pow 2 (-e).toNat) d

/-- The exponent that leaves 53 bits for the mantissa of `n / d`, or the least exponent. -/
def exponentOf (n d : Nat) : Int := max (floorLog2 n d - 52) minExponent

/-- The number nearest to `n / d`. -/
def ofRatio (negative : Bool) (n d : Nat) : Binary64 :=
  if n = 0 then .finite negative 0 minExponent
  else
    let e := exponentOf n d
    let m := mantissaAt n d e
    -- A mantissa of all ones may round up to the next power of two.
    let (m, e) := if m = Nat.pow 2 53 then (Nat.pow 2 52, e + 1) else (m, e)
    if maxExponent < e then .infinite negative else .finite negative m e

def ofInt (n : Int) : Binary64 := ofRatio (n < 0) n.natAbs 1

/-- The number nearest to `c * 10 ^ e`. Exponents far out of range are not raised to a power. -/
def ofDecimal (negative : Bool) (c : Nat) (e : Int) : Binary64 :=
  let digits : Int := (Nat.toDigits 10 c).length
  if c = 0 then ofRatio negative 0 1
  else if 310 < digits + e then .infinite negative
  else if digits + e < -330 then ofRatio negative 0 1
  else if 0 ≤ e then ofRatio negative (c * Nat.pow 10 e.toNat) 1
  else ofRatio negative c (Nat.pow 10 (-e).toNat)

def ratio (m : Nat) (e : Int) : Nat × Nat :=
  if 0 ≤ e then (m * Nat.pow 2 e.toNat, 1) else (m, Nat.pow 2 (-e).toNat)

/-- The whole number nearest to the absolute value; 0 for infinities and undefined numbers. -/
def nearest : Binary64 → Nat
  | .finite _ m e => let (n, d) := ratio m e; roundHalfEven n d
  | _ => 0

def divNat (x : Binary64) (k : Nat) : Binary64 :=
  match x with
  | .finite s m e => let (n, d) := ratio m e; ofRatio s n (d * k)
  | x => x

def isZero : Binary64 → Bool
  | .finite _ m _ => m = 0
  | _ => false

/-- The number without its fraction; nothing for infinities and undefined numbers. -/
def truncate? : Binary64 → Option Int
  | .finite s m e =>
    let (n, d) := ratio m e
    some (if s then -((n / d : Nat) : Int) else (n / d : Nat))
  | _ => none

/-- How the number compares with an integer; undefined numbers do not. -/
def compareInt? (x : Binary64) (k : Int) : Option Ordering :=
  match x with
  | .nan _ => none
  | .infinite s => some (if s then .lt else .gt)
  | .finite s m e =>
    let (n, d) := ratio m e
    let signed : Int := if s then -(n : Int) else n
    some (compare signed (k * d))

end Binary64

def quotient? (a : Int) (b : Nat) : Option Binary64 :=
  match Binary64.ofRatio (a < 0) a.natAbs b with
  | .infinite _ => none
  | x => some x

end TraceScope
