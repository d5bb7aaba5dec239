import TraceScope.Threshold

/-!
# Configuration

How long a recorded statement may be, and when an access counts as slow.
-/

namespace TraceScope

/-- The greatest length of a recorded statement. Texts can be compared with any positive number,
but cut at whole ones only. -/
inductive LengthLimit
  | chars (n : Int)
  | flag
  | real (x : Binary64)
  deriving DecidableEq, Repr

namespace LengthLimit

def ofValue (v : Value) : Except Fault LengthLimit := do
  if ← v.atMost 0 then throw .lengthNotPositive
  match v with
  | .int n => return .chars n
  | .bool _ => return .flag
  | .double x => return .real x
  | v => throw (.notNumeric v.kind)

def toValue : LengthLimit → Value
  | chars n => .int n
  | flag => .bool true
  | real x => .double x

def exceededBy (limit : LengthLimit) (length : Nat) : Bool :=
  match limit with
  | chars n => decide (n < length)
  | flag => decide (1 < length)
  | real x => x.compareInt? length == some .lt

/-- The number of items to keep; a limit that is not whole cannot be cut at. -/
def cut : LengthLimit → Except Fault Nat
  | chars n => .ok n.toNat
  | flag => .ok 1
  | real _ => .error .fractionalCut

end LengthLimit

/-- What an analysis can be told, and what it is left of the stack. -/
structure Config where
  limit : LengthLimit
  thresholds : Thresholds
  stack : Stack := {}

namespace Config

def standardLimit : Value := .int 2000

/-- A configuration from a limit and a setting of thresholds. Without a setting the standard one
holds. -/
def ofValues (stack : Stack) (limit setting : Value) : Except Fault Config := do
  let limit ← LengthLimit.ofValue limit
  let thresholds ← match setting with
    | .null => Thresholds.ofText Thresholds.standard
    | v => Thresholds.ofValue v
  return { limit, thresholds, stack }

def ofThresholds (stack : Stack) (limit : Value) (thresholds : Thresholds) :
    Except Fault Config := do
  return { limit := ← LengthLimit.ofValue limit, thresholds, stack }

end Config

end TraceScope
