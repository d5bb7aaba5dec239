import TraceScope.Draft
import TraceScope.Event
import TraceScope.Sink
import TraceScope.TraceId

/-!
# Segment listener

A listener is told the events of one segment and publishes records at the end. Entry and exit spans
become call legs as they come in; a leg gets its minute, and an outgoing leg its endpoint on the
near side, only when it is published, since both may be known only after the last event.
-/

namespace TraceScope

structure Leg where
  edge : Edge
  bucket : Option Value := none

namespace Leg

def file (bucket : Option Value) (leg : Leg) : Leg := { leg with bucket }

def missing (leg : Leg) : List Column := (Draft.ofEdge leg.edge leg.bucket).missing

def records (facets : Edge → List Facet) (leg : Leg) : List Record :=
  (facets leg.edge).map fun f => .leg f leg.edge (leg.bucket.getD .null)

end Leg

structure Listener where
  entryLegs : List Leg := []
  exitLegs : List Leg := []
  slowStatements : List SlowStatement := []
  entrySpan : Option Span := none
  minuteBucket : Option Value := none
  traceId : Option Text := none

namespace Listener

/-- The first entry or exit event fixes the minute. -/
def fixMinute (info : SegmentInfo) (l : Listener) : Listener :=
  { l with minuteBucket := l.minuteBucket.or info.minuteBucket }

def addEntryLeg (e : Edge) (l : Listener) : Listener :=
  { l with entryLegs := l.entryLegs ++ [{ edge := e }] }

def addExitLeg (e : Edge) (l : Listener) : Listener :=
  { l with exitLegs := l.exitLegs ++ [{ edge := e }] }

def addEntryLegs (inv : Inventory) (info : SegmentInfo) (span : Span) : Step Listener :=
  match span.references with
  | [] => .ofExcept (Edge.ofUser inv info span) fun e => .update (addEntryLeg e)
  | refs => .each (fun ref =>
      .ofExcept (Edge.ofReference inv info span ref) fun e => .update (addEntryLeg e)) refs

/-- An entry span: the legs found before a fault are kept, but the span is remembered only without
one. -/
def onEntry (inv : Inventory) (info : SegmentInfo) (span : Span) : Step Listener :=
  (Step.update (fixMinute info)).andThen <|
    (addEntryLegs inv info span).andThen <|
      .update fun l => { l with entrySpan := some span }

def statementId (info : SegmentInfo) (span : Span) : Except Fault Text :=
  if Integer.isWritable span.id then .ok (info.segmentId ++ "-" ++ Integer.text span.id)
  else .error .longInteger

def slowStatement? (config : Config) (info : SegmentInfo) (span : Span) (e : Edge)
    (traceId : Option Text) : Except Fault (Option SlowStatement) := do
  let finding ← Statement.evaluate config span.tags e.latency
  if finding.slow then
    let id ← statementId info span
    let timeBucket ← TraceScope.minuteBucket span.startTime
    return some { id, serviceId := e.dest.serviceId, statement := finding.statement,
                  latency := e.latency, timeBucket, traceId }
  else return none

def addSlowStatement (config : Config) (info : SegmentInfo) (span : Span) (e : Edge) :
    Step Listener := fun l =>
  if e.requestType = .database then
    match slowStatement? config info span e l.traceId with
    | .ok none => (l, none)
    | .ok (some s) => ({ l with slowStatements := l.slowStatements ++ [s] }, none)
    | .error f => (l, some f)
  else (l, none)

/-- An exit span. A call without a peer is passed over. -/
def onExit (inv : Inventory) (config : Config) (info : SegmentInfo) (span : Span) :
    Step Listener :=
  (Step.update (fixMinute info)).andThen <|
    if span.peerId = noId then .skip
    else .ofExcept (Edge.ofExit inv info span) fun e =>
      (Step.update (addExitLeg e)).andThen (addSlowStatement config info span e)

def onTraceId (config : Config) (parts : List Value) : Step Listener := fun l =>
  match TraceId.accept config.stack l.traceId parts with
  | .ok id => ({ l with traceId := id }, none)
  | .error f => (l, some f)

def receive (inv : Inventory) (config : Config) (info : SegmentInfo) : Event → Step Listener
  | .entry span => onEntry inv info span
  | .exit span => onExit inv config info span
  | .traceId parts => onTraceId config parts

/-! ### Publication -/

variable {ρ : Type}

/-- Offers the facets of a filed leg, unless a required column is not filled. -/
def publishLeg (offer : Record → Step ρ) (facets : Edge → List Facet) (leg : Leg) : Step ρ :=
  match leg.missing with
  | [] => .each offer (leg.records facets)
  | columns => .fail (.incomplete columns)

/-- Prepares and publishes legs in order. After a fault the legs that follow stay as they were. -/
def publishLegs (prepare : Leg → Except Fault Leg) (publish : Leg → Step ρ) :
    List Leg → Step (List Leg × ρ)
  | [] => fun s => (([], s.2), none)
  | leg :: rest => fun s =>
    match prepare leg with
    | .error f => ((leg :: rest, s.2), some f)
    | .ok filed =>
      match publish filed s.2 with
      | (r, some f) => ((filed :: rest, r), some f)
      | (r, none) =>
        let ((legs, r'), f) := publishLegs prepare publish rest (rest, r)
        ((filed :: legs, r'), f)

/-- The endpoint on the near side of outgoing calls: that of the remembered entry span, or the
user's. -/
def sourceEndpoint (l : Listener) : Int :=
  match l.entrySpan with
  | some span => span.operationId
  | none => userId

/-- An outgoing leg with its endpoint on the near side, filed under a minute. -/
def fileExit (inv : Inventory) (endpoint : Int) (bucket : Option Value) (leg : Leg) :
    Except Fault Leg := do
  let name ← inv.endpointName endpoint
  return { edge := leg.edge.withSourceEndpoint endpoint name, bucket }

def publishEntries (offer : Record → Step ρ) : Step (Listener × ρ) := fun (l, r) =>
  let ((legs, r'), f) := publishLegs (fun leg => .ok (leg.file l.minuteBucket))
    (publishLeg offer Edge.entryFacets) l.entryLegs (l.entryLegs, r)
  (({ l with entryLegs := legs }, r'), f)

def publishExits (inv : Inventory) (offer : Record → Step ρ) : Step (Listener × ρ) := fun (l, r) =>
  let ((legs, r'), f) := publishLegs (fileExit inv l.sourceEndpoint l.minuteBucket)
    (publishLeg offer Edge.exitFacets) l.exitLegs (l.exitLegs, r)
  (({ l with exitLegs := legs }, r'), f)

def publishSlow (offer : Record → Step ρ) : Step (Listener × ρ) := fun (l, r) =>
  let (r', f) := Step.each (fun s => offer (.slow s)) l.slowStatements r
  ((l, r'), f)

/-- Publishes everything that was gathered: incoming legs, outgoing legs, slow statements. -/
def build (inv : Inventory) (offer : Record → Step ρ) : Step (Listener × ρ) :=
  (publishEntries offer).andThen <| (publishExits inv offer).andThen (publishSlow offer)

end Listener

end TraceScope
