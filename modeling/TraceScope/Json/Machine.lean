import TraceScope.Json.Token
import TraceScope.Table

/-!
# Reading JSON lexeme by lexeme

A machine takes the lexemes of a text one by one and keeps what it has read of the lists and
objects that are still open. A dialect says which blanks and words there are, what numerals and
strings stand for, how many lists and objects may be open at a time, what may be left unread at the
end, and which values are collected as soon as they are complete: they are kept even if the text
turns out to be malformed later.
-/

namespace TraceScope.Json

/-- A list or an object that is still open, with its members so far, newest first, and the name
that the next member goes by. -/
inductive Opened
  | list (items : List Value)
  | object (members : List (Text × Value)) (name : Text)

def Opened.isList : Opened → Bool
  | list _ => true
  | object .. => false

inductive Expectation
  | value
  | firstItem
  | firstName
  | name
  | colon
  | more
  | nothing
  deriving DecidableEq, Repr

structure Machine where
  opened : List Opened := []
  expects : Expectation := .value
  result : Value := .null
  collected : List Value := []

structure Dialect where
  isBlank : Char → Bool
  words : List (String × Value)
  strictNumerals : Bool
  numeral : Numeral → Except Fault Value
  unescape : List Letter → Except Fault Text
  maxDepth : Option Nat := none
  mayRemain : List Letter → Bool := fun _ => false
  collects : List Opened → Bool := fun _ => false

/-- Why a text was not read to its end. `left` is the number of letters from the lexeme that is out
of place. -/
inductive Misread
  | malformed (left : Nat)
  | failed (f : Fault)

inductive Refusal
  | outOfPlace
  | failed (f : Fault)

def standardWords : List (String × Value) :=
  [("null", .null), ("true", .bool true), ("false", .bool false)]

namespace Machine

def accept (d : Dialect) (v : Value) (m : Machine) : Machine :=
  let collected := if d.collects m.opened then v :: m.collected else m.collected
  match m.opened with
  | [] => { m with expects := .nothing, result := v, collected }
  | .list items :: rest =>
    { m with opened := .list (v :: items) :: rest, expects := .more, collected }
  | .object members name :: rest =>
    { m with opened := .object ((name, v) :: members) name :: rest, expects := .more, collected }

def hasRoom (d : Dialect) (m : Machine) : Bool :=
  match d.maxDepth with
  | some limit => decide (m.opened.length < limit)
  | none => true

def enter (d : Dialect) (o : Opened) (expects : Expectation) (m : Machine) :
    Except Refusal Machine :=
  if m.hasRoom d then .ok { m with opened := o :: m.opened, expects }
  else .error (.failed (.tooDeep o.isList))

def closeList (d : Dialect) (m : Machine) : Except Refusal Machine :=
  match m.opened with
  | .list items :: rest => .ok ({ m with opened := rest }.accept d (.list items.reverse))
  | _ => .error .outOfPlace

/-- Closes the innermost object. A member that was written twice has its last value in its first
place. -/
def closeObject (d : Dialect) (m : Machine) : Except Refusal Machine :=
  match m.opened with
  | .object members _ :: rest =>
    .ok ({ m with opened := rest }.accept d (.object (Table.ofList members.reverse).entries))
  | _ => .error .outOfPlace

def setName (name : Text) (m : Machine) : Except Refusal Machine :=
  match m.opened with
  | .object members _ :: rest =>
    .ok { m with opened := .object members name :: rest, expects := .colon }
  | _ => .error .outOfPlace

def goOn (m : Machine) : Except Refusal Machine :=
  match m.opened with
  | .list _ :: _ => .ok { m with expects := .value }
  | .object .. :: _ => .ok { m with expects := .name }
  | [] => .error .outOfPlace

def startValue (d : Dialect) (m : Machine) : Token → Except Refusal Machine
  | .openList => m.enter d (.list []) .firstItem
  | .openObject => m.enter d (.object [] "") .firstName
  | .word v => .ok (m.accept d v)
  | .numeral n => ((d.numeral n).mapError .failed).map (m.accept d ·)
  | .string raw => ((d.unescape raw).mapError .failed).map fun t => m.accept d (.text t)
  | _ => .error .outOfPlace

/-- Takes a lexeme where the name of a member can stand. -/
def startName (d : Dialect) (m : Machine) : Token → Except Refusal Machine
  | .string raw => do m.setName (← (d.unescape raw).mapError .failed)
  | _ => .error .outOfPlace

def step (d : Dialect) (m : Machine) (t : Token) : Except Refusal Machine :=
  match m.expects, t with
  | .value, t => m.startValue d t
  | .firstItem, .closeList => m.closeList d
  | .firstItem, t => m.startValue d t
  | .firstName, .closeObject => m.closeObject d
  | .firstName, t => m.startName d t
  | .name, t => m.startName d t
  | .colon, .colon => .ok { m with expects := .value }
  | .more, .comma => m.goOn
  | .more, .closeList => m.closeList d
  | .more, .closeObject => m.closeObject d
  | _, _ => .error .outOfPlace

def misread (left : Nat) : Refusal → Misread
  | .outOfPlace => .malformed left
  | .failed f => .failed f

/-- Reads a text to its end, or up to the first lexeme that is not taken. The letters of a lexeme
that was taken are skipped one by one. -/
def run (d : Dialect) (m : Machine) : Nat → List Letter → Machine × Option Misread
  | _, [] => (m, if m.expects = .nothing then none else some (.malformed 0))
  | skip + 1, _ :: ls => run d m skip ls
  | 0, l :: ls =>
    if l.isIn d.isBlank then run d m 0 ls
    else if m.expects = .nothing && d.mayRemain (l :: ls) then (m, none)
    else match token? d.words d.strictNumerals (l :: ls) with
      | none => (m, some (.malformed (ls.length + 1)))
      | some (t, width) =>
        match m.step d t with
        | .ok m' => run d m' (width - 1) ls
        | .error refusal => (m, some (misread (ls.length + 1) refusal))

end Machine

end TraceScope.Json
