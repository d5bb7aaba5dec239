import TraceScope.Inventory.Document
import TraceScope.Segment

/-!
# Segment documents

A segment document is an object whose members are read in a fixed order. A member that is missing,
of the wrong type or out of its domain makes the segment malformed.
-/

namespace TraceScope

def Value.choice {α : Type} (stack : Stack) (ofName? : Text → Option α) (choice : String)
    (v : Value) : Except Fault α :=
  match v with
  | .text t => match ofName? t with
    | some a => .ok a
    | none => .error (.notOneOf v choice)
  | v => .error ((v.tellingFault? stack .choice).getD (.notOneOf v choice))

def Value.listD {α : Type} (read : Value → Except Fault α) (v : Value) (name : Text) :
    Except Fault (List α) := do
  (← (← v.memberD name (.list [])).elements).mapM read

def Tag.ofValue (v : Value) : Except Fault Tag := do
  let key ← v.member "key"
  let value ← v.memberD "value" (.text "")
  return { key, value }

def Reference.ofValue (stack : Stack) (v : Value) : Except Fault Reference := do
  let parentEndpointId ← v.intD "parentEndpointId" noId
  let parentInstanceId ← v.intD "parentServiceInstanceId" noId
  let networkAddressId ← v.intD "networkAddressId" noId
  let parentSpanId ← v.intD "parentSpanId" (-1)
  let parentSegmentId ← (← v.memberD "parentTraceSegmentId" (.text "")).told stack
    .parentSegmentId
  return { parentEndpointId, parentInstanceId, networkAddressId, parentSpanId, parentSegmentId }

def Span.readKind (stack : Stack) (v : Value) : Except Fault (SpanKind × SpanLayer) := do
  let kind ← (← v.member "spanType").choice stack SpanKind.ofName? "SpanType"
  let layer ← (← v.memberD "spanLayer" (.text SpanLayer.unknown.name)).choice stack
    SpanLayer.ofName? "SpanLayer"
  return (kind, layer)

/-- The fault of a span whose kind or layer is unknown names the span, unless something keeps its
identifier from being told. -/
def Span.kindFault (stack : Stack) (v : Value) (f : Fault) : Fault :=
  match f with
  | .notOneOf .. | .longInteger =>
    let id := (v.memberD "spanId" .null).toOption.getD .null
    (id.tellingFault? stack .spanId).getD (.malformedSpan id f)
  | f => f

def Span.ofValue (stack : Stack) (v : Value) : Except Fault Span := do
  let (kind, layer) ← (Span.readKind stack v).mapError (Span.kindFault stack v)
  let id ← (← v.member "spanId").toInt
  let parentId ← v.intD "parentSpanId" (-1)
  let startTime ← v.intD "startTime" 0
  let endTime ← v.intD "endTime" 0
  let isError := (← v.memberD "isError" (.bool false)).truthy
  let operationId ← v.intD "operationNameId" noId
  let peerId ← v.intD "peerId" noId
  let componentId ← v.intD "componentId" noId
  let tags ← v.listD Tag.ofValue "tags"
  let references ← v.listD (Reference.ofValue stack) "refs"
  return { id, parentId, kind, layer, startTime, endTime, isError, operationId, peerId, componentId,
           tags, references }

def Segment.readTraceId (v : Value) : Except Fault (List Value) := do
  (← v.memberD "idParts" (.list [])).elements

def Segment.readMembers (stack : Stack) (v : Value) : Except Fault Segment := do
  let id ← (← v.member "traceSegmentId").told stack .segmentId
  let serviceId ← (← v.member "serviceId").toInt
  let instanceId ← (← v.member "serviceInstanceId").toInt
  let traceIds ← v.listD Segment.readTraceId "globalTraceIds"
  let spans ← v.listD (Span.ofValue stack) "spans"
  return { id, serviceId, instanceId, traceIds, spans }

/-- The fault of a segment: what is wrong with a value makes the segment malformed, unless a span
was named already. Other faults stay as they are. -/
def Segment.fault (f : Fault) : Fault :=
  if f.isValueFault then .malformedSegment f else f

def Segment.ofValue (stack : Stack) (v : Value) : Except Fault Segment :=
  (Segment.readMembers stack v).mapError Segment.fault

end TraceScope
