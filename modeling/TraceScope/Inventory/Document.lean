import TraceScope.Inventory

/-!
# Inventory documents

An inventory document lists services, instances and endpoints. Its entries are registered in the
order of the document, services first.
-/

namespace TraceScope

def Value.intD (v : Value) (name : Text) (default : Int) : Except Fault Int := do
  (← v.memberD name (.int default)).toInt

def Service.ofValue (v : Value) : Except Fault Service := do
  let id ← (← v.member "id").toInt
  let name ← v.member "name"
  let mappingId ← v.intD "mappingServiceId" noId
  let addressId ← v.intD "addressId" noId
  return { id, name, mappingId, addressId }

def Instance.ofValue (v : Value) : Except Fault Instance := do
  let id ← (← v.member "id").toInt
  let name ← v.member "name"
  let serviceId ← (← v.member "serviceId").toInt
  let addressId ← v.intD "addressId" noId
  return { id, name, serviceId, addressId }

def Endpoint.ofValue (v : Value) : Except Fault Endpoint := do
  let id ← (← v.member "id").toInt
  let name ← v.member "name"
  let serviceId ← v.intD "serviceId" noId
  return { id, name, serviceId }

namespace Inventory

/-- Reads the entries of one list of a document, none if it is left out. -/
def entriesOf {α : Type} (read : Value → Except Fault α) (doc : Value) (name : Text) :
    Except Fault (List α) := do
  (← (← doc.memberD name (.list [])).elements).mapM read

def ofEntries (doc : Value) : Except Fault Inventory := do
  let services ← entriesOf Service.ofValue doc "services"
  let instances ← entriesOf Instance.ofValue doc "serviceInstances"
  let endpoints ← entriesOf Endpoint.ofValue doc "endpoints"
  let withServices := services.foldl addService initial
  let withInstances := instances.foldl addInstance withServices
  return endpoints.foldl addEndpoint withInstances

/-- Reads an inventory document. Entries that lack a value, or hold one of the wrong type or out
of its domain, make the document malformed. -/
def ofValue (doc : Value) : Except Fault Inventory :=
  match doc with
  | .object _ =>
    (ofEntries doc).mapError fun f => if f.isValueFault then .malformedEntry f else f
  | _ => .error .inventoryNotObject

end Inventory

end TraceScope
