import TraceScope.Numeric.Integer
import TraceScope.Numeric.Shortest
import TraceScope.Stack
import TraceScope.Step
import TraceScope.Text.Quoted

/-!
# Writing JSON

Values are written in ASCII, each member and item on a line of its own, indented by two blanks a
level. Writing goes from left to right: what was written before a value that cannot be written
stays written.
-/

namespace TraceScope.Json

def escapeUnit (n : Nat) : List Char := '\\' :: 'u' :: Text.hexDigits 4 n

/-- A character between quotes. Characters beyond the first 65536 take two escapes. -/
def escapeChar (c : Char) : List Char :=
  let n := c.toNat
  if c = Text.quotationMark ∨ c = '\\' then ['\\', c]
  else if c = '\n' then ['\\', 'n']
  else if c = '\r' then ['\\', 'r']
  else if c = '\t' then ['\\', 't']
  else if n = 12 then ['\\', 'f']
  else if n = 8 then ['\\', 'b']
  else if 32 ≤ n ∧ n ≤ 126 then [c]
  else if n < 0x10000 then escapeUnit n
  else escapeUnit (0xd800 + (n - 0x10000) / 0x400) ++ escapeUnit (0xdc00 + (n - 0x10000) % 0x400)

def escapeLetter : Letter → List Char
  | .char c => escapeChar c
  | .half n => escapeUnit (Letter.half n).code

def stringLiteral (t : Text) : String :=
  String.ofList (Text.quotationMark :: t.letters.flatMap escapeLetter ++ [Text.quotationMark])

def doubleLiteral : Binary64 → String
  | .nan _ => "NaN"
  | .infinite negative => if negative then "-Infinity" else "Infinity"
  | x => x.text

def lineAt (level : Nat) : String := String.ofList ('\n' :: List.replicate (2 * level) ' ')

def put (s : String) : Step String := .update (· ++ s)

def scalar? : Value → Option (Except Fault String)
  | .null => some (.ok "null")
  | .bool b => some (.ok (if b then "true" else "false"))
  | .int n => some (if Integer.isWritable n then .ok (Integer.text n) else .error .longInteger)
  | .double x => some (.ok (doubleLiteral x))
  | .text t => some (.ok (stringLiteral t))
  | _ => none

def enter (stack : Stack) (level : Nat) (v : Value) (step : Step String) : Step String :=
  if stack.writes level v then step else .fail .tooDeepToWrite

mutual

def writeAt (stack : Stack) (level : Nat) (v : Value) : Step String :=
  match v with
  | .list [] => enter stack level v (put "[]")
  | .list (item :: rest) => enter stack level v <|
    (writeItems stack (level + 1) ("[" ++ lineAt (level + 1)) (item :: rest)).andThen <|
      (put (lineAt level)).andThen (put "]")
  | .object [] => enter stack level v (put "\x7b\x7d")
  | .object (m :: rest) => enter stack level v <|
    (writeMembers stack (level + 1) ("\x7b" ++ lineAt (level + 1)) (m :: rest)).andThen <|
      (put (lineAt level)).andThen (put "\x7d")
  | .decimal _ => .fail (.notWritable "Decimal")
  | v =>
    match scalar? v with
    | some (.ok s) => put s
    | some (.error f) => .fail f
    | none => .skip

/-- Writes items. What comes before an item is not written if the item is a scalar that cannot be
written. -/
def writeItems (stack : Stack) (level : Nat) (before : String) : List Value → Step String
  | [] => .skip
  | v :: rest =>
    let item := match scalar? v with
      | some (.ok s) => put (before ++ s)
      | some (.error f) => .fail f
      | none => (put before).andThen (writeAt stack level v)
    item.andThen (writeItems stack level ("," ++ lineAt level) rest)

/-- Writes members. What comes before a value is written in any case. -/
def writeMembers (stack : Stack) (level : Nat) (before : String) :
    List (Text × Value) → Step String
  | [] => .skip
  | (name, v) :: rest =>
    (put (before ++ stringLiteral name ++ ": ")).andThen <|
      (writeAt stack level v).andThen (writeMembers stack level ("," ++ lineAt level) rest)

end

def write (stack : Stack) (v : Value) : Step String := writeAt stack 0 v

end TraceScope.Json
