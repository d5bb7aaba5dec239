import TraceScope.Edge.Column
import TraceScope.Inventory.Query
import TraceScope.Segment

/-!
# Call legs

A call leg joins a caller to a callee, as seen from one of its two ends. Both ends are resolved to
names when the leg is made.
-/

namespace TraceScope

inductive DetectPoint
  | server
  | client
  deriving DecidableEq, Repr

inductive RequestType
  | http
  | database
  | rpc
  deriving DecidableEq, Repr

namespace DetectPoint

def name : DetectPoint → String
  | server => "SERVER"
  | client => "CLIENT"

def ofName? (t : Text) : Option DetectPoint := [server, client].find? fun p => (p.name : Text) = t

end DetectPoint

namespace RequestType

def name : RequestType → String
  | http => "HTTP"
  | database => "DATABASE"
  | rpc => "RPC"

def ofName? (t : Text) : Option RequestType :=
  [http, database, rpc].find? fun r => (r.name : Text) = t

def ofLayer : SpanLayer → RequestType
  | .http => http
  | .database => database
  | _ => rpc

theorem ofLayer_eq_database {l : SpanLayer} : ofLayer l = database ↔ l = .database := by
  cases l <;> simp [ofLayer]

end RequestType

/-- One end of a call: an endpoint of an instance of a service. -/
structure Party where
  serviceId : Value
  serviceName : Value
  instanceId : Value
  instanceName : Value
  endpointId : Int
  endpointName : Value

structure Edge where
  source : Party
  dest : Party
  detectPoint : DetectPoint
  componentId : Int
  requestType : RequestType
  latency : Int
  status : Bool
  responseCode : Int := 0

def Inventory.endpointName (inv : Inventory) (id : Int) : Except Fault Value :=
  (inv.endpoint id).map (·.name)

def Inventory.endpointName? (inv : Inventory) (id : Int) : Except Fault Value :=
  if id = noId then .ok .null else inv.endpointName id

def Inventory.party (inv : Inventory) (serviceId instanceId : Value) (endpointId : Int)
    (endpointName : Int → Except Fault Value) : Except Fault Party := do
  let service ← inv.searchService serviceId
  let inst ← inv.searchInstance instanceId
  let name ← endpointName endpointId
  return { serviceId, serviceName := service.name, instanceId, instanceName := inst.name,
           endpointId, endpointName := name }

namespace Edge

def ofSpan (span : Span) (detectPoint : DetectPoint) (source dest : Party) : Edge :=
  { source, dest, detectPoint
    componentId := span.componentId
    requestType := .ofLayer span.layer
    latency := span.latency
    status := !span.isError }

def entryParty (inv : Inventory) (info : SegmentInfo) (span : Span) : Except Fault Party :=
  inv.party info.serviceId info.instanceId span.operationId inv.endpointName

/-- The service and the instance that a reference names as the caller. The caller of a message
consumer is the queue at the network address; otherwise it is the parent instance. -/
def caller (inv : Inventory) (layer : SpanLayer) (ref : Reference) : Except Fault (Int × Int) := do
  if layer = .messageQueue then
    let service ← inv.serviceAt ref.networkAddressId
    let inst ← inv.serviceInstanceAt service ref.networkAddressId
    return (service, inst)
  else
    return ((← inv.serviceInstance ref.parentInstanceId).serviceId, ref.parentInstanceId)

/-- The leg of an incoming call from the caller of a reference, whose endpoint may be unknown. -/
def ofReference (inv : Inventory) (info : SegmentInfo) (span : Span) (ref : Reference) :
    Except Fault Edge := do
  let (service, inst) ← caller inv span.layer ref
  let source ← inv.party (.int service) (.int inst) ref.parentEndpointId inv.endpointName?
  let dest ← entryParty inv info span
  return ofSpan span .server source dest

def ofUser (inv : Inventory) (info : SegmentInfo) (span : Span) : Except Fault Edge := do
  let source ← inv.party (.int userId) (.int userId) userId inv.endpointName
  let dest ← entryParty inv info span
  return ofSpan span .server source dest

/-- The leg of an outgoing call to the peer. Its endpoint on the near side is not yet known, and is
the user's for now. Calls to a service with a mapping go to the service it maps to. -/
def ofExit (inv : Inventory) (info : SegmentInfo) (span : Span) : Except Fault Edge := do
  let peer ← inv.serviceAt span.peerId
  let mapped ← inv.mapping peer
  let peerInstance ← inv.serviceInstanceAt peer span.peerId
  let service := if mapped = noId then peer else mapped
  let source ← inv.party info.serviceId info.instanceId userId inv.endpointName
  let dest ← inv.party (.int service) (.int peerInstance) span.operationId inv.endpointName
  return ofSpan span .client source dest

def withSourceEndpoint (e : Edge) (id : Int) (name : Value) : Edge :=
  { e with source := { e.source with endpointId := id, endpointName := name } }

def endpointsKnown (e : Edge) : Bool := e.source.endpointName.truthy && e.dest.endpointName.truthy

def cell (e : Edge) (bucket : Option Value) : Column → Value
  | .sourceEndpointId => .int e.source.endpointId
  | .sourceEndpointName => e.source.endpointName
  | .sourceInstanceId => e.source.instanceId
  | .sourceInstanceName => e.source.instanceName
  | .sourceServiceId => e.source.serviceId
  | .sourceServiceName => e.source.serviceName
  | .destEndpointId => .int e.dest.endpointId
  | .destEndpointName => e.dest.endpointName
  | .destInstanceId => e.dest.instanceId
  | .destInstanceName => e.dest.instanceName
  | .destServiceId => e.dest.serviceId
  | .destServiceName => e.dest.serviceName
  | .detectPoint => .text e.detectPoint.name
  | .componentId => .int e.componentId
  | .requestType => .text e.requestType.name
  | .latency => .int e.latency
  | .status => .bool e.status
  | .responseCode => .int e.responseCode
  | .timeBucket => bucket.getD .null

end Edge

end TraceScope
