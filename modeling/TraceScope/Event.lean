import TraceScope.Segment

/-!
# Events of a segment

A segment tells its trace identifiers and then its calls. Work in between is no event.
-/

namespace TraceScope

inductive Point
  | entry
  | exit
  | traceIds
  deriving DecidableEq, Repr

def Point.name : Point → String
  | entry => "Entry"
  | exit => "Exit"
  | traceIds => "TraceIds"

inductive Event
  | entry (span : Span)
  | exit (span : Span)
  | traceId (parts : List Value)

def Event.point : Event → Point
  | entry _ => .entry
  | exit _ => .exit
  | traceId _ => .traceIds

def Span.event? (s : Span) : Option Event :=
  match s.kind with
  | .entry => some (.entry s)
  | .exit => some (.exit s)
  | .inner => none

def Segment.events (s : Segment) : List Event :=
  s.traceIds.map .traceId ++ s.spans.filterMap Span.event?

end TraceScope
