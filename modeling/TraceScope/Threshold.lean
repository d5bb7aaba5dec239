import TraceScope.Table
import TraceScope.Text.Case
import TraceScope.Text.Split
import TraceScope.Value.Access

/-!
# Latency thresholds

A database access is slow when it takes longer than the threshold for its type of database. Types
are told apart without regard to case and surrounding blanks.
-/

namespace TraceScope

structure Thresholds where
  table : Table Text Int := {}

namespace Thresholds

/-- The type whose threshold serves for types without one of their own. -/
def defaultType : Text := "default"

/-- The threshold where the table has none to offer. -/
def fallback : Int := 10000

def normalize (type : Text) : Text := type.trim.lower

/-- Sets a threshold, which must be a number that is not negative. The type may be any value, but
only texts name types. -/
def put (t : Thresholds) (type millis : Value) : Except Fault Thresholds := do
  if ← millis.lessThan 0 then throw (.negativeThreshold type.display)
  let whole ← millis.toInt
  match type with
  | .text name => return ⟨t.table.insert (normalize name) whole⟩
  | v => throw (.unsupported v.kind .strip)

def ofPairs (pairs : List (Value × Value)) : Except Fault Thresholds :=
  pairs.foldlM (fun t p => t.put p.1 p.2) {}

/-- Reads one entry of a setting, a type and a threshold parted by a colon, and sets it. Blank
entries set nothing. -/
def putEntry (t : Thresholds) (letters : List Letter) : Except Fault Thresholds :=
  let entry := Text.trim ⟨letters⟩
  if entry.isEmpty then .ok t
  else match splitAtFirst (':' : Letter) entry.letters with
    | none => .error (.thresholdWithoutColon entry)
    | some (type, millis) =>
      match Integer.read (Text.trim ⟨millis⟩) with
      | .error _ => .error (.thresholdNotNumeric entry)
      | .ok n => t.put (.text ⟨type⟩) (.int n)

def ofText (setting : Text) : Except Fault Thresholds :=
  (splitAtEach (',' : Letter) setting.letters).foldlM putEntry {}

/-- Reads a setting of any shape: a text, an object from types to thresholds, or nothing. -/
def ofValue : Value → Except Fault Thresholds
  | .null => .ok {}
  | .text t => ofText t
  | .object members => ofPairs (members.map fun m => (.text m.1, m.2))
  | v => .error (.unsupported v.kind .items)

def standard : Text := "default:200,mongodb:100"

def forOthers (t : Thresholds) : Int := (t.table.get? defaultType).getD fallback

def forName (t : Thresholds) (type : Text) : Int :=
  if type.isEmpty then t.forOthers
  else (t.table.get? (normalize type)).getD t.forOthers

/-- The threshold for a type given by any value; an empty one is no type. -/
def forType (t : Thresholds) (type : Value) : Except Fault Int :=
  match type with
  | .text name => .ok (t.forName name)
  | v => if v.truthy then .error (.unsupported v.kind .strip) else .ok t.forOthers

@[simp] theorem forType_text (t : Thresholds) (name : Text) :
    t.forType (.text name) = .ok (t.forName name) := rfl

def toValue (t : Thresholds) : Value := .object (t.table.entries.map fun e => (e.1, .int e.2))

end Thresholds

end TraceScope
