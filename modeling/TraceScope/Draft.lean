import TraceScope.Record
import TraceScope.Segment.Document
import TraceScope.Step

/-!
# Drafts of call legs

A draft is a call leg that is filled in column by column, by anyone and with anything. A facet of
it can be published once the required columns are filled.
-/

namespace TraceScope

/-- A value for each column, null where there is none. -/
structure Draft where
  cell : Column → Value

namespace Draft

def blank : Draft where
  cell
    | .componentId | .latency | .responseCode => .int 0
    | .status => .bool true
    | _ => .null

def ofEdge (e : Edge) (bucket : Option Value) : Draft := ⟨e.cell bucket⟩

def put (d : Draft) (c : Column) (v : Value) : Draft :=
  ⟨fun c' => if c' = c then v else d.cell c'⟩

/-- Whether a column takes a value: those with a few names take one of them, or null. -/
def check (stack : Stack) (c : Column) (v : Value) : Except Fault Unit :=
  match c, v with
  | _, .null => .ok ()
  | .detectPoint, v => (v.choice stack DetectPoint.ofName? "DetectPoint").map fun _ => ()
  | .requestType, v => (v.choice stack RequestType.ofName? "RequestType").map fun _ => ()
  | _, _ => .ok ()

/-- Fills in columns by name, up to the first value that its column does not take. Names that are
no columns are passed over. -/
def fill (stack : Stack) : List (Text × Value) → Step Draft :=
  Step.each fun m =>
    match Column.ofName? m.1 with
    | none => .skip
    | some c => .ofExcept (check stack c m.2) fun _ => .update (·.put c m.2)

def missing (d : Draft) : List Column := Column.required.filter fun c => (d.cell c).isNull

/-- The fields of a facet. The relation of endpoints exists only if both have names. -/
def publish (d : Draft) (f : Facet) : Except Fault (Option (List (Text × Value))) :=
  if d.missing.isEmpty then
    if f = .endpointRelation &&
        !((d.cell .sourceEndpointName).truthy && (d.cell .destEndpointName).truthy) then .ok none
    else .ok (some (f.fields.map fun field => (field.1, d.cell field.2)))
  else .error (.incomplete d.missing)

def members (d : Draft) : List (Text × Value) := Column.all.map fun c => (c.name, d.cell c)

theorem missing_ofEdge {e : Edge} {b : Value} :
    (ofEdge e (some b)).missing = [] ↔
      e.source.serviceId.isNull = false ∧ e.source.instanceId.isNull = false ∧
        e.dest.serviceId.isNull = false ∧ e.dest.instanceId.isNull = false ∧
        b.isNull = false := by
  simp [missing, Column.required, ofEdge, Edge.cell, Value.isNull]
  grind

end Draft

end TraceScope
