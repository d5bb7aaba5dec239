import TraceScope.Analyzer

/-!
# Reports

A report groups the published records by scope, sums up the calls between each pair of services,
and lists the slow statements, slowest first. Scopes and calls stand in the order of their first
record; of calls with equal total latency, and statements with equal latency, the earlier comes
first.
-/

namespace TraceScope

/-- All calls between two services as seen from one end. -/
structure CallSummary where
  caller : Value
  callee : Value
  detectPoint : DetectPoint
  count : Nat := 0
  totalLatency : Int := 0
  errorCount : Nat := 0

namespace CallSummary

/-- What distinguishes the rows: the names of both services and the end. -/
abbrev Id := Key × Key × DetectPoint

def idOf (e : Edge) : Except Fault Id := do
  let caller ← e.source.serviceName.key
  let callee ← e.dest.serviceName.key
  return (caller, callee, e.detectPoint)

/-- A row without calls. -/
def start (e : Edge) : CallSummary :=
  { caller := e.source.serviceName, callee := e.dest.serviceName, detectPoint := e.detectPoint }

def add (e : Edge) (row : CallSummary) : CallSummary :=
  { row with
    count := row.count + 1
    totalLatency := row.totalLatency + e.latency
    errorCount := if e.status then row.errorCount else row.errorCount + 1 }

def addTo (rows : Table Id CallSummary) (e : Edge) : Except Fault (Table Id CallSummary) := do
  return rows.alter (← idOf e) fun row => add e (row.getD (start e))

def ofCalls (calls : List Edge) : Except Fault (List CallSummary) := do
  return (← calls.foldlM addTo {}).entries.map (·.2)

def average (row : CallSummary) : Except Fault Binary64 :=
  match quotient? row.totalLatency row.count with
  | some x => .ok x
  | none => .error .quotientTooLarge

def toValue (row : CallSummary) (average : Binary64) : Value :=
  .object [("caller", row.caller), ("callee", row.callee),
    ("detect_point", .text row.detectPoint.name), ("count", .int row.count),
    ("total_latency_ms", .int row.totalLatency), ("avg_latency_ms", .double average),
    ("error_count", .int row.errorCount)]

end CallSummary

def Record.call? : Record → Option Edge
  | .leg .serviceRelation e _ => some e
  | _ => none

theorem Record.call?_eq_some {r : Record} {e : Edge} :
    r.call? = some e ↔ ∃ b, r = .leg .serviceRelation e b := by
  constructor
  · intro call
    unfold call? at call
    split at call
    · obtain rfl := Option.some.inj call
      exact ⟨_, rfl⟩
    · cases call
  · rintro ⟨b, rfl⟩
    rfl

def Record.slowStatement? : Record → Option SlowStatement
  | .slow s => some s
  | _ => none

/-- Whether the stack suffices to put a record into a report. -/
def Record.isReportable (stack : Stack) (r : Record) : Bool :=
  r.members.all fun m => stack.canReport m.2

/-- What an analysis found. -/
structure Report where
  segmentCount : Nat
  records : List Record
  calls : List (CallSummary × Binary64)

namespace Report

def ofRecords (stack : Stack) (segmentCount : Nat) (records : List Record) :
    Except Fault Report := do
  unless records.all (Record.isReportable stack) do throw .tooDeepToReport
  let rows ← CallSummary.ofCalls (records.filterMap Record.call?)
  let averages ← rows.mapM CallSummary.average
  let calls := (rows.zip averages).mergeSort fun a b =>
    decide (b.1.totalLatency ≤ a.1.totalLatency)
  return { segmentCount, records, calls }

def ofAnalyzer (a : Analyzer) : Except Fault Report :=
  ofRecords a.config.stack a.segmentCount a.records

def scopes (r : Report) : List Scope := (r.records.map Record.scope).eraseDups

def group (r : Report) (s : Scope) : List Record := r.records.filter (·.scope = s)

/-- The slow statements, slowest first. -/
def slowStatements (r : Report) : List SlowStatement :=
  (r.records.filterMap Record.slowStatement?).mergeSort fun a b => decide (b.latency ≤ a.latency)

def counts (r : Report) : List (Scope × Nat) := r.scopes.map fun s => (s, (r.group s).length)

def summary (r : Report) : Value :=
  .object [("total_segments", .int r.segmentCount), ("total_records", .int r.records.length),
    ("records_by_scope", .object (r.counts.map fun c => (c.1.name, .int c.2))),
    ("total_slow_statements", .int r.slowStatements.length)]

def toValue (r : Report) : Value :=
  .object [("summary", r.summary),
    ("records", .object (r.scopes.map fun s =>
      (s.name, .list ((r.group s).map fun record => .object record.members)))),
    ("service_calls", .list (r.calls.map fun c => c.1.toValue c.2)),
    ("slow_statements", .list (r.slowStatements.map fun s => .object s.members))]

end Report

end TraceScope
