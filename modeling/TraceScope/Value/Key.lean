import TraceScope.Fault

/-!
# Values as keys

Two values are the same key when they are equal as values: numbers of different types that stand
for the same number are one key, and so is a truth value and the number it counts as. An undefined
number is the same key as itself only.
-/

namespace TraceScope

/-- What a value is as a key. A fraction is in lowest terms with a denominator above one. -/
inductive Key
  | null
  | int (n : Int)
  | fraction (numerator : Int) (denominator : Nat)
  | infinite (negative : Bool)
  | undefined (payload : Nat)
  | text (t : Text)
  deriving DecidableEq, Repr

namespace Key

def ofRatio (negative : Bool) (n d : Nat) : Key :=
  let g := Nat.gcd n d
  let numerator : Int := if negative then -((n / g : Nat) : Int) else (n / g : Nat)
  if d / g = 1 then int numerator else fraction numerator (d / g)

end Key

/-- The key that a value is; lists and objects are none. -/
def Value.key : Value → Except Fault Key
  | null => .ok .null
  | bool b => .ok (.int (if b then 1 else 0))
  | int n => .ok (.int n)
  | double (.nan payload) => .ok (.undefined payload)
  | double (.infinite s) => .ok (.infinite s)
  | double (.finite s m e) => let (n, d) := Binary64.ratio m e; .ok (.ofRatio s n d)
  | decimal x =>
    .ok (.ofRatio x.negative (x.coefficient * Nat.pow 10 x.exponent.toNat)
      (Nat.pow 10 (-x.exponent).toNat))
  | text t => .ok (.text t)
  | v => .error (.unhashable v.kind)

end TraceScope
