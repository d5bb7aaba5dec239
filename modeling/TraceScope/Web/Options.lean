import TraceScope.Config

/-!
# Options of a request

A request may set the greatest length of statements and the thresholds. What it leaves out or
leaves empty has its standard value.
-/

namespace TraceScope

/-- A value that counts as not given: null or an empty text. -/
def Value.isBlank : Value → Bool
  | .null => true
  | .text t => t.isEmpty
  | _ => false

/-- The value, or null if it is false, zero or empty. -/
def Value.orNull (v : Value) : Value := if v.truthy then v else .null

def Config.ofOptions (stack : Stack) (options : Value) : Except Fault Config := do
  let length ← options.memberD "max_slow_sql_length" .null
  let thresholds ← options.memberD "slow_db_threshold" .null
  let limit ← if length.isBlank then .ok Config.standardLimit else length.toInt.map .int
  Config.ofValues stack limit thresholds.orNull

end TraceScope
