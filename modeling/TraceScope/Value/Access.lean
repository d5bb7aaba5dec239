import TraceScope.Fault
import TraceScope.Stack

/-!
# Reading undecoded values

Questions put to a value of any shape, each with the fault that answers a value of the wrong one.
-/

namespace TraceScope.Value

def member (v : Value) (name : Text) : Except Fault Value :=
  match v with
  | object members =>
    match memberOf name members with
    | some w => .ok w
    | none => .error (.missing name)
  | v => .error (.notKeyed v.kind)

def member? (v : Value) (name : Text) : Except Fault (Option Value) :=
  match v with
  | object members => .ok (memberOf name members)
  | v => .error (.unsupported v.kind .get)

def memberD (v : Value) (name : Text) (default : Value) : Except Fault Value :=
  (v.member? name).map (·.getD default)

/-- The values one after the other: the items of a list, the letters of a text, the names of an
object. -/
def elements : Value → Except Fault (List Value)
  | list items => .ok items
  | text t => .ok (t.letters.map fun l => text ⟨[l]⟩)
  | object members => .ok (members.map fun m => text m.1)
  | v => .error (.notIterable v.kind)

mutual

def isWritable : Value → Bool
  | int n => Integer.isWritable n
  | list items => areWritable items
  | object members => haveWritable members
  | _ => true

def areWritable : List Value → Bool
  | [] => true
  | v :: rest => isWritable v && areWritable rest

def haveWritable : List (Text × Value) → Bool
  | [] => true
  | (_, v) :: rest => isWritable v && haveWritable rest

end

/-- What keeps a value from being told: it takes more of the stack than there is, or an integer in it
has too many digits. -/
def tellingFault? (stack : Stack) (t : Telling) (v : Value) : Option Fault :=
  if !stack.canTell t v then some .tooDeepToTell
  else if v.isWritable then none
  else some .longInteger

def told (stack : Stack) (t : Telling) (v : Value) : Except Fault Text :=
  match v.tellingFault? stack t with
  | none => .ok v.display
  | some f => .error f

@[simp] theorem tellingFault?_text (stack : Stack) (t : Telling) (x : Text) :
    tellingFault? stack t (text x) = none := by
  simp [tellingFault?, Stack.canTell, isNested, isWritable]

@[simp] theorem told_text (stack : Stack) (t : Telling) (x : Text) :
    told stack t (text x) = .ok x := by simp [told]

def numeralFault (t : Text) : Integer.Misread → Fault
  | .notNumeral => .badNumeral t
  | .tooLong digits => .longNumeral digits

/-- The integer that a value stands for: numbers lose their fraction, texts are read. -/
def toInt : Value → Except Fault Int
  | int n => .ok n
  | bool b => .ok (if b then 1 else 0)
  | double (.nan _) => .error .undefinedInteger
  | double (.infinite _) => .error .infiniteInteger
  | double x => .ok (x.truncate?.getD 0)
  | decimal x => if x.isHuge then .error .outOfMemory else .ok x.truncate
  | text t => (Integer.read t).mapError (numeralFault t)
  | v => .error (.notNumeric v.kind)

@[simp] theorem toInt_int (n : Int) : toInt (int n) = .ok n := rfl

/-- A number compares with an integer by value; other values do not compare. -/
def compareInt? (v : Value) (k : Int) : Option (Option Ordering) :=
  match v with
  | bool b => some (some (compare (if b then 1 else 0) k))
  | int n => some (some (compare n k))
  | double x => some (x.compareInt? k)
  | decimal x =>
    let scale := Nat.pow 10 (-x.exponent).toNat
    let n : Nat := x.coefficient * Nat.pow 10 x.exponent.toNat
    some (some (compare (if x.negative then -(n : Int) else n) (k * scale)))
  | _ => none

def lessThan (v : Value) (k : Int) : Except Fault Bool :=
  match v.compareInt? k with
  | some order => .ok (order == some .lt)
  | none => .error (.notOrdered "<" v.kind "int")

def atMost (v : Value) (k : Int) : Except Fault Bool :=
  match v.compareInt? k with
  | some order => .ok (order == some .lt || order == some .eq)
  | none => .error (.notOrdered "<=" v.kind "int")

def greaterThan (v : Value) (k : Int) : Except Fault Bool :=
  match v.compareInt? k with
  | some order => .ok (order == some .gt)
  | none => .error (.notOrdered ">" v.kind "int")

end TraceScope.Value
