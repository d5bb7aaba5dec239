import TraceScope.Edge
import TraceScope.Statement

/-!
# Records

A record is what the analysis publishes: one facet of a call leg in its minute, or a slow statement.
The scope of a record tells where it is aggregated.
-/

namespace TraceScope

inductive Facet
  | all
  | service
  | serviceInstance
  | endpoint
  | serviceRelation
  | serviceInstanceRelation
  | endpointRelation
  | databaseAccess
  deriving DecidableEq, Repr

/-- Where a record is aggregated. -/
inductive Scope
  | facet (f : Facet)
  | slowStatement
  deriving DecidableEq, Repr

namespace Facet

def name : Facet → String
  | all => "All"
  | service => "Service"
  | serviceInstance => "ServiceInstance"
  | endpoint => "Endpoint"
  | serviceRelation => "ServiceRelation"
  | serviceInstanceRelation => "ServiceInstanceRelation"
  | endpointRelation => "EndpointRelation"
  | databaseAccess => "DatabaseAccess"

def outcome : List (String × Column) :=
  [("latency", .latency), ("status", .status), ("response_code", .responseCode),
   ("type", .requestType)]

def fields : Facet → List (String × Column)
  | all =>
    [("name", .destServiceName), ("service_instance_name", .destInstanceName),
     ("endpoint_name", .destEndpointName)] ++ outcome ++ [("time_bucket", .timeBucket)]
  | service =>
    [("id", .destServiceId), ("name", .destServiceName),
     ("service_instance_name", .destInstanceName), ("endpoint_name", .destEndpointName)] ++
      outcome ++ [("time_bucket", .timeBucket)]
  | serviceInstance =>
    [("id", .destInstanceId), ("name", .destInstanceName), ("service_id", .destServiceId),
     ("service_name", .destServiceName), ("endpoint_name", .destEndpointName)] ++
      outcome ++ [("time_bucket", .timeBucket)]
  | endpoint =>
    [("id", .destEndpointId), ("name", .destEndpointName), ("service_id", .destServiceId),
     ("service_name", .destServiceName), ("service_instance_id", .destInstanceId),
     ("service_instance_name", .destInstanceName)] ++ outcome ++ [("time_bucket", .timeBucket)]
  | serviceRelation =>
    [("source_service_id", .sourceServiceId), ("source_service_name", .sourceServiceName),
     ("source_service_instance_name", .sourceInstanceName), ("dest_service_id", .destServiceId),
     ("dest_service_name", .destServiceName), ("dest_service_instance_name", .destInstanceName),
     ("endpoint", .destEndpointName), ("component_id", .componentId)] ++
      outcome ++ [("detect_point", .detectPoint), ("time_bucket", .timeBucket)]
  | serviceInstanceRelation =>
    [("source_service_instance_id", .sourceInstanceId), ("source_service_id", .sourceServiceId),
     ("source_service_name", .sourceServiceName),
     ("source_service_instance_name", .sourceInstanceName),
     ("dest_service_instance_id", .destInstanceId), ("dest_service_id", .destServiceId),
     ("dest_service_name", .destServiceName), ("dest_service_instance_name", .destInstanceName),
     ("endpoint", .destEndpointName), ("component_id", .componentId)] ++
      outcome ++ [("detect_point", .detectPoint), ("time_bucket", .timeBucket)]
  | endpointRelation =>
    [("endpoint_id", .sourceEndpointId), ("endpoint", .sourceEndpointName),
     ("service_id", .sourceServiceId), ("service_name", .sourceServiceName),
     ("service_instance_id", .sourceInstanceId), ("service_instance_name", .sourceInstanceName),
     ("child_endpoint_id", .destEndpointId), ("child_endpoint", .destEndpointName),
     ("child_service_id", .destServiceId), ("child_service_name", .destServiceName),
     ("child_service_instance_id", .destInstanceId),
     ("child_service_instance_name", .destInstanceName), ("component_id", .componentId),
     ("rpc_latency", .latency), ("status", .status), ("response_code", .responseCode),
     ("type", .requestType), ("detect_point", .detectPoint), ("time_bucket", .timeBucket)]
  | databaseAccess =>
    [("database_service_id", .destServiceId), ("name", .destServiceName),
     ("database_type_id", .componentId), ("latency", .latency), ("status", .status),
     ("time_bucket", .timeBucket)]

def every : List Facet :=
  [all, service, serviceInstance, endpoint, serviceRelation, serviceInstanceRelation,
   endpointRelation, databaseAccess]

end Facet

namespace Scope

def name : Scope → String
  | facet f => f.name
  | slowStatement => "DatabaseSlowStatement"

def every : List Scope := Facet.every.map facet ++ [slowStatement]

def ofName? (t : Text) : Option Scope := every.find? fun s => (s.name : Text) = t

end Scope

def SlowStatement.members (s : SlowStatement) : List (Text × Value) :=
  [("id", .text s.id), ("database_service_id", s.serviceId), ("statement", s.statement),
   ("latency", .int s.latency), ("time_bucket", .int s.timeBucket),
   ("trace_id", .ofText? s.traceId)]

inductive Record
  | leg (facet : Facet) (edge : Edge) (bucket : Value)
  | slow (statement : SlowStatement)

namespace Record

def scope : Record → Scope
  | leg facet _ _ => .facet facet
  | slow _ => .slowStatement

def members : Record → List (Text × Value)
  | leg facet edge bucket => facet.fields.map fun f => (f.1, edge.cell (some bucket) f.2)
  | slow statement => statement.members

@[simp] theorem scope_leg (f : Facet) (e : Edge) (b : Value) : (leg f e b).scope = .facet f := rfl
@[simp] theorem scope_slow (s : SlowStatement) : (slow s).scope = .slowStatement := rfl

end Record

/-- The facets of an incoming call: those of the callee and the relations between both ends, the
last one only if both endpoints are known. -/
def Edge.entryFacets (e : Edge) : List Facet :=
  [.all, .service, .serviceInstance, .endpoint, .serviceRelation, .serviceInstanceRelation] ++
    if e.endpointsKnown then [.endpointRelation] else []

/-- The facets of an outgoing call: the relations between both ends, and the access to a
database. -/
def Edge.exitFacets (e : Edge) : List Facet :=
  [.serviceRelation, .serviceInstanceRelation] ++
    if e.requestType = .database then [.databaseAccess] else []

end TraceScope
