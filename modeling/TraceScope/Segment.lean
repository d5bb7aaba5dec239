import TraceScope.Calendar

/-!
# Segments

A segment is the part of a trace that one service instance contributes: its spans in the order in
which they were recorded, and the identifiers of the traces it belongs to.
-/

namespace TraceScope

/-- What a span stands for: a call that came in, a call that went out, or work in between. -/
inductive SpanKind
  | entry
  | exit
  | inner
  deriving DecidableEq, Repr

inductive SpanLayer
  | unknown
  | database
  | rpcFramework
  | http
  | messageQueue
  | cache
  deriving DecidableEq, Repr

namespace SpanKind

def name : SpanKind → String
  | entry => "Entry"
  | exit => "Exit"
  | inner => "Local"

def ofName? (t : Text) : Option SpanKind := [entry, exit, inner].find? fun k => (k.name : Text) = t

end SpanKind

namespace SpanLayer

def name : SpanLayer → String
  | unknown => "Unknown"
  | database => "Database"
  | rpcFramework => "RPCFramework"
  | http => "Http"
  | messageQueue => "MQ"
  | cache => "Cache"

def ofName? (t : Text) : Option SpanLayer :=
  [unknown, database, rpcFramework, http, messageQueue, cache].find? fun l => (l.name : Text) = t

end SpanLayer

structure Tag where
  key : Value
  value : Value

structure Reference where
  parentEndpointId : Int
  parentInstanceId : Int
  networkAddressId : Int
  parentSpanId : Int
  parentSegmentId : Text
  deriving DecidableEq, Repr

/-- One operation in a segment. Times are in milliseconds since 1970. -/
structure Span where
  id : Int
  parentId : Int
  kind : SpanKind
  layer : SpanLayer
  startTime : Int
  endTime : Int
  isError : Bool
  operationId : Int
  peerId : Int
  componentId : Int
  tags : List Tag
  references : List Reference

def Span.latency (s : Span) : Int := s.endTime - s.startTime

structure Segment where
  id : Text
  serviceId : Int
  instanceId : Int
  traceIds : List (List Value)
  spans : List Span

/-- What is known about a segment as a whole while its spans are analysed. Whoever tells of a
segment may use any values as identifiers and as a minute. -/
structure SegmentInfo where
  segmentId : Text
  serviceId : Value
  instanceId : Value
  startTime : Int := 0
  endTime : Int := 0
  minuteBucket : Option Value := some (.int 0)
  isError : Bool := false

/-- The segment as a whole: it reaches from the first start to the last end of its spans, and is
filed under the minute in which its first span starts. -/
def Segment.info (s : Segment) : Except Fault SegmentInfo :=
  match s.spans with
  | [] =>
    .ok { segmentId := s.id, serviceId := .int s.serviceId, instanceId := .int s.instanceId }
  | first :: rest => do
    let bucket ← minuteBucket first.startTime
    return {
      segmentId := s.id
      serviceId := .int s.serviceId
      instanceId := .int s.instanceId
      startTime := rest.foldl (fun t x => min t x.startTime) first.startTime
      endTime := rest.foldl (fun t x => max t x.endTime) first.endTime
      minuteBucket := some (.int bucket)
      isError := s.spans.any (·.isError) }

end TraceScope
