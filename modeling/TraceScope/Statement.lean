import TraceScope.Config
import TraceScope.Segment

/-!
# Slow statements

The tags of a database call tell its statement and the type of its database, in any order and any
number. The last statement counts, cut to the configured length; the call is slow if it exceeds
the threshold of any of the types.
-/

namespace TraceScope

/-- A database call that took longer than its threshold. -/
structure SlowStatement where
  id : Text
  serviceId : Value
  statement : Value
  latency : Int
  timeBucket : Int
  traceId : Option Text

namespace Statement

def statementKey : Text := "db.statement"

def typeKey : Text := "db.type"

def length : Value → Except Fault Nat
  | .text t => .ok t.length
  | .list items => .ok items.length
  | .object members => .ok members.length
  | v => .error (.noLength v.kind)

def keep (limit : LengthLimit) : Value → Except Fault Value
  | .text t => do return .text ⟨t.letters.take (← limit.cut)⟩
  | .list items => do return .list (items.take (← limit.cut))
  | _ => .error .uncuttable

/-- A statement cut to the limit. Empty values of any shape stay as they are. -/
def truncate (limit : LengthLimit) (statement : Value) : Except Fault Value := do
  if statement.truthy then
    if limit.exceededBy (← length statement) then keep limit statement else return statement
  else return statement

/-- What the tags have told so far. -/
structure Finding where
  slow : Bool := false
  statement : Value := .null

/-- Takes one tag into account. `exceeds` tells whether the call took longer than a threshold. -/
def look (config : Config) (exceeds : Int → Except Fault Bool) (f : Finding) (t : Tag) :
    Except Fault Finding := do
  match t.key with
  | .text key =>
    if key = statementKey then
      return { f with statement := ← truncate config.limit t.value }
    else if key = typeKey then
      if ← exceeds (← config.thresholds.forType t.value) then return { f with slow := true }
      else return f
    else return f
  | _ => return f

def evaluateWith (config : Config) (exceeds : Int → Except Fault Bool) (tags : List Tag) :
    Except Fault Finding :=
  tags.foldlM (look config exceeds) {}

def evaluate (config : Config) (tags : List Tag) (latency : Int) : Except Fault Finding :=
  evaluateWith config (fun threshold => .ok (decide (threshold < latency))) tags

end Statement

end TraceScope
