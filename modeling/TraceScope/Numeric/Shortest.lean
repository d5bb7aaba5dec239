import TraceScope.Numeric.Binary64

/-!
# Shortest decimal texts

A floating-point number is written with the fewest decimal digits that read back as the same
number, and of those digits the nearest.
-/

namespace TraceScope.Binary64

/-- What decides whether a decimal reads back as `m * 2 ^ e`: all three numbers are counted in
quarters of a unit in the last place, `unit` to a one. -/
structure Interval where
  low : Nat
  value : Nat
  high : Nat
  unit : Nat
  closed : Bool

/-- The reals that round to `m * 2 ^ e`. The ends belong to it when the mantissa is even. Below a
power of two the numbers lie twice as dense. -/
def interval (m : Nat) (e : Int) : Interval :=
  let scale := Nat.pow 2 (e - 2).toNat
  let below := if m = Nat.pow 2 52 ∧ minExponent < e then 1 else 2
  { low := (4 * m - below) * scale
    value := 4 * m * scale
    high := (4 * m + 2) * scale
    unit := Nat.pow 2 (2 - e).toNat
    closed := m % 2 = 0 }

/-- The nearest multiple of `10 ^ q` that reads back, if one does. -/
def Interval.hit? (i : Interval) (q : Int) : Option Nat :=
  let step := i.unit * Nat.pow 10 q.toNat
  let scale := Nat.pow 10 (-q).toNat
  let value := i.value * scale
  let inside := fun c =>
    if i.closed then i.low * scale ≤ c * step ∧ c * step ≤ i.high * scale
    else i.low * scale < c * step ∧ c * step < i.high * scale
  let below := value / step
  let lower := value - below * step
  let upper := (below + 1) * step - value
  match decide (inside below), decide (inside (below + 1)) with
  | true, true =>
    some (if lower < upper then below
      else if upper < lower then below + 1
      else if below % 2 = 0 then below else below + 1)
  | true, false => some below
  | false, true => some (below + 1)
  | false, false => none

/-- Moves zeros at the end of `c` into the exponent; `fuel` bounds their number. -/
def stripZeros : Nat → Nat → Int → Nat × Int
  | 0, c, q => (c, q)
  | fuel + 1, c, q => if c % 10 = 0 ∧ c ≠ 0 then stripZeros fuel (c / 10) (q + 1) else (c, q)

/-- The shortest `c` and `q` such that `c * 10 ^ q` reads back as `m * 2 ^ e`, for a positive
mantissa. Seventeen digits always do. -/
def shortest (m : Nat) (e : Int) : Nat × Int :=
  let i := interval m e
  let (n, d) := ratio m e
  let top := floorLog10 n d
  let grid := fun (k : Nat) => (i.hit? (top - k)).map fun c => (c, top - (k : Int))
  match (List.range 17).findSome? grid with
  | some (c, q) => stripZeros 18 c q
  | none => (0, 0)

/-- The text of a positive number of digits `c` and exponent `q`: positional from `1e-4` to below
`1e16`, always with a fraction, and scientific with at least two exponent digits elsewhere. -/
def digitsText (c : Nat) (q : Int) : List Char :=
  let ds := Nat.toDigits 10 c
  let point : Int := ds.length + q
  if -4 < point ∧ point ≤ 16 then
    if point ≤ 0 then '0' :: '.' :: (List.replicate (-point).toNat '0' ++ ds)
    else if (ds.length : Int) ≤ point then
      ds ++ List.replicate (point - ds.length).toNat '0' ++ ['.', '0']
    else ds.take point.toNat ++ '.' :: ds.drop point.toNat
  else
    let exponent := point - 1
    let fraction := match ds.tail with
      | [] => []
      | rest => '.' :: rest
    let es := Nat.toDigits 10 exponent.natAbs
    let padded := if es.length < 2 then '0' :: es else es
    ds.take 1 ++ fraction ++ 'e' :: (if exponent < 0 then '-' else '+') :: padded

def text : Binary64 → String
  | .nan _ => "nan"
  | .infinite false => "inf"
  | .infinite true => "-inf"
  | .finite s m e =>
    let body := if m = 0 then ['0', '.', '0'] else let (c, q) := shortest m e; digitsText c q
    String.ofList (if s then '-' :: body else body)

end TraceScope.Binary64
