import TraceScope.Numeric.Binary64
import TraceScope.Numeric.Decimal
import TraceScope.Text

/-!
# Undecoded values

What a document holds before it is read into a type of its own: the values of the data format,
with the members of an object in the order in which they were written.
-/

namespace TraceScope

/-- A value of any shape. Numbers are whole, binary or exact decimals, as their reader chose. -/
inductive Value
  | null
  | bool (b : Bool)
  | int (n : Int)
  | double (x : Binary64)
  | decimal (x : Decimal)
  | text (t : Text)
  | list (items : List Value)
  | object (members : List (Text × Value))
  deriving Inhabited

namespace Value

def kind : Value → String
  | null => "NoneType"
  | bool _ => "bool"
  | int _ => "int"
  | double _ => "float"
  | decimal _ => "decimal.Decimal"
  | text _ => "str"
  | list _ => "list"
  | object _ => "dict"

def isNull : Value → Bool
  | null => true
  | _ => false

/-- A value counts as true unless it is null, false, zero or empty. -/
def truthy : Value → Bool
  | null => false
  | bool b => b
  | int n => n != 0
  | double x => !x.isZero
  | decimal x => x.coefficient != 0
  | text t => !t.isEmpty
  | list items => !items.isEmpty
  | object members => !members.isEmpty

@[simp] theorem truthy_null : truthy null = false := rfl
@[simp] theorem truthy_int (n : Int) : truthy (int n) = (n != 0) := rfl
@[simp] theorem truthy_text (t : Text) : truthy (text t) = !t.isEmpty := rfl

def isNested : Value → Bool
  | list _ | object _ => true
  | _ => false

/-- Whether a value and everything in it take at most so many levels. -/
def fits : Nat → Value → Bool
  | 0, _ => false
  | limit + 1, list items => items.all (fits limit)
  | limit + 1, object members => members.all fun m => fits limit m.2
  | _ + 1, _ => true

def ofText? : Option Text → Value
  | some t => text t
  | none => null

def ofInt? : Option Int → Value
  | some n => int n
  | none => null

def memberOf (name : Text) (members : List (Text × Value)) : Option Value :=
  (members.find? fun m => m.1 = name).map (·.2)

end Value

end TraceScope
