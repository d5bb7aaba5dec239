import TraceScope.Text

/-!
# Columns of a call leg

Everything that is known about one leg of a call: who called, who was called, and how the call
went. Published records are selections of these columns.
-/

namespace TraceScope

inductive Column
  | sourceEndpointId
  | sourceEndpointName
  | sourceInstanceId
  | sourceInstanceName
  | sourceServiceId
  | sourceServiceName
  | destEndpointId
  | destEndpointName
  | destInstanceId
  | destInstanceName
  | destServiceId
  | destServiceName
  | detectPoint
  | componentId
  | requestType
  | latency
  | status
  | responseCode
  | timeBucket
  deriving DecidableEq, Repr

namespace Column

def name : Column → String
  | sourceEndpointId => "source_endpoint_id"
  | sourceEndpointName => "source_endpoint_name"
  | sourceInstanceId => "source_service_instance_id"
  | sourceInstanceName => "source_service_instance_name"
  | sourceServiceId => "source_service_id"
  | sourceServiceName => "source_service_name"
  | destEndpointId => "dest_endpoint_id"
  | destEndpointName => "dest_endpoint_name"
  | destInstanceId => "dest_service_instance_id"
  | destInstanceName => "dest_service_instance_name"
  | destServiceId => "dest_service_id"
  | destServiceName => "dest_service_name"
  | detectPoint => "detect_point"
  | componentId => "component_id"
  | requestType => "type"
  | latency => "latency"
  | status => "status"
  | responseCode => "response_code"
  | timeBucket => "time_bucket"

def all : List Column :=
  [sourceEndpointId, sourceEndpointName, sourceInstanceId, sourceInstanceName, sourceServiceId,
   sourceServiceName, destEndpointId, destEndpointName, destInstanceId, destInstanceName,
   destServiceId, destServiceName, detectPoint, componentId, requestType, latency, status,
   responseCode, timeBucket]

/-- The columns without which nothing can be published. -/
def required : List Column :=
  [sourceEndpointId, sourceInstanceId, sourceServiceId, destEndpointId, destInstanceId,
   destServiceId, detectPoint, timeBucket]

def ofName? (t : Text) : Option Column := all.find? fun c => (c.name : Text) = t

end Column

end TraceScope
