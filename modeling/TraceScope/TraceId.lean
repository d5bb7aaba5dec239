import TraceScope.Value.Access

/-!
# Trace identifiers

A segment is filed under the first trace identifier that is told of it: its parts joined by points.
-/

namespace TraceScope.TraceId

/-- The parts joined by points, unless one of them cannot be told. -/
def join (stack : Stack) (parts : List Value) : Except Fault Text :=
  (parts.mapM (Value.told stack .traceIdPart)).map (Text.intercalate ".")

/-- Keeps the identifier already known, or takes the one that is told now. -/
def accept (stack : Stack) (known : Option Text) (parts : List Value) :
    Except Fault (Option Text) :=
  match known with
  | some id => .ok (some id)
  | none => (join stack parts).map some

/-- Accepts parts of any shape. They are looked at only if they are needed. -/
def acceptValue (stack : Stack) (known : Option Text) (parts : Value) :
    Except Fault (Option Text) :=
  match known with
  | some id => .ok (some id)
  | none => parts.elements.bind (accept stack none)

end TraceScope.TraceId
