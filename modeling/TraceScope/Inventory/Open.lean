import TraceScope.Inventory.Query
import TraceScope.Step

/-!
# Open inventories

An open inventory takes entries under identifiers and addresses of any shape, and keeps them as
they came. Identifiers that are equal by value are one key; lists and objects are none.
-/

namespace TraceScope

structure OpenService where
  id : Value
  name : Value
  mappingId : Value := .int noId
  addressId : Value := .int noId

structure OpenInstance where
  id : Value
  name : Value
  serviceId : Value
  addressId : Value := .int noId

structure OpenEndpoint where
  id : Value
  name : Value
  serviceId : Value := .int noId

def Service.toOpen (s : Service) : OpenService :=
  { id := .int s.id, name := s.name, mappingId := .int s.mappingId, addressId := .int s.addressId }

def Instance.toOpen (i : Instance) : OpenInstance :=
  { id := .int i.id, name := i.name, serviceId := .int i.serviceId, addressId := .int i.addressId }

def Endpoint.toOpen (e : Endpoint) : OpenEndpoint :=
  { id := .int e.id, name := e.name, serviceId := .int e.serviceId }

structure OpenInventory where
  services : Table Key OpenService := {}
  serviceIds : Table Key Value := {}
  instances : Table Key OpenInstance := {}
  instanceIds : Table (Key × Key) Value := {}
  endpoints : Table Key OpenEndpoint := {}

namespace OpenInventory

def relabel {κ μ ν ξ : Type} (key : κ → μ) (value : ν → ξ) (t : Table κ ν) : Table μ ξ :=
  ⟨t.entries.map fun e => (key e.1, value e.2)⟩

def ofInventory (inv : Inventory) : OpenInventory where
  services := relabel .int Service.toOpen inv.services
  serviceIds := relabel .int .int inv.serviceIds
  instances := relabel .int Instance.toOpen inv.instances
  instanceIds := relabel (fun k => (.int k.1, .int k.2)) .int inv.instanceIds
  endpoints := relabel .int Endpoint.toOpen inv.endpoints

/-- Whether an address is one: any value but those that count as the number of no address. -/
def isAddress (v : Value) : Bool :=
  match v.key with
  | .ok k => k ≠ .int noId
  | .error _ => true

/-- Registers a service, in place of an earlier one of the same identifier. It is registered even
if its address is no key. -/
def addService (s : OpenService) : Step OpenInventory :=
  .ofExcept s.id.key fun id =>
    (Step.update fun inv => { inv with services := inv.services.insert id s }).andThen <|
      if isAddress s.addressId then
        .ofExcept s.addressId.key fun address =>
          .update fun inv => { inv with serviceIds := inv.serviceIds.insert address s.id }
      else .skip

/-- Registers an instance, in place of an earlier one of the same identifier. It is registered even
if its service or its address is no key. -/
def addInstance (i : OpenInstance) : Step OpenInventory :=
  .ofExcept i.id.key fun id =>
    (Step.update fun inv => { inv with instances := inv.instances.insert id i }).andThen <|
      if isAddress i.addressId then
        .ofExcept i.serviceId.key fun service =>
          .ofExcept i.addressId.key fun address =>
            .update fun inv =>
              { inv with instanceIds := inv.instanceIds.insert (service, address) i.id }
      else .skip

def addEndpoint (e : OpenEndpoint) : Step OpenInventory :=
  .ofExcept e.id.key fun id =>
    .update fun inv => { inv with endpoints := inv.endpoints.insert id e }

def search {ν : Type} (table : Table Key ν) (lookup : Lookup) (key : Value) : Except Fault ν := do
  Inventory.found lookup (table.get? (← key.key))

def service (inv : OpenInventory) (id : Value) : Except Fault OpenService :=
  search inv.services (.service id) id

def serviceAt (inv : OpenInventory) (address : Value) : Except Fault Value :=
  search inv.serviceIds (.serviceAt address) address

def serviceInstance (inv : OpenInventory) (id : Value) : Except Fault OpenInstance :=
  search inv.instances (.serviceInstance id) id

def serviceInstanceAt (inv : OpenInventory) (service address : Value) : Except Fault Value := do
  let s ← service.key
  let a ← address.key
  Inventory.found (.serviceInstanceAt service address) (inv.instanceIds.get? (s, a))

def endpoint (inv : OpenInventory) (id : Value) : Except Fault OpenEndpoint :=
  search inv.endpoints (.endpoint id) id

end OpenInventory

end TraceScope
