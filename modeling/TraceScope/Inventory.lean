import TraceScope.Table
import TraceScope.Value.Access
import TraceScope.Value.Key

/-!
# Inventory

The inventory resolves the numbers in a segment to names. Services and instances are also found by
the network address under which they were registered. Identifier 1 is always the user outside.
-/

namespace TraceScope

/-- The number that stands for the absence of an identifier or address. -/
def noId : Int := 0

def userId : Int := 1

def userName : Value := .text "User"

/-- A service. Calls to a service with a mapping count as calls to the service it maps to. -/
structure Service where
  id : Int
  name : Value
  mappingId : Int := noId
  addressId : Int := noId

structure Instance where
  id : Int
  name : Value
  serviceId : Int
  addressId : Int := noId

structure Endpoint where
  id : Int
  name : Value
  serviceId : Int := noId

structure Inventory where
  services : Table Int Service := {}
  serviceIds : Table Int Int := {}
  instances : Table Int Instance := {}
  instanceIds : Table (Int × Int) Int := {}
  endpoints : Table Int Endpoint := {}

namespace Inventory

/-- Registers a service, in place of an earlier one of the same number. -/
def addService (inv : Inventory) (s : Service) : Inventory :=
  { inv with
    services := inv.services.insert s.id s
    serviceIds := if s.addressId = noId then inv.serviceIds
      else inv.serviceIds.insert s.addressId s.id }

def addInstance (inv : Inventory) (i : Instance) : Inventory :=
  { inv with
    instances := inv.instances.insert i.id i
    instanceIds := if i.addressId = noId then inv.instanceIds
      else inv.instanceIds.insert (i.serviceId, i.addressId) i.id }

def addEndpoint (inv : Inventory) (e : Endpoint) : Inventory :=
  { inv with endpoints := inv.endpoints.insert e.id e }

def initial : Inventory :=
  (((({} : Inventory).addService { id := userId, name := userName }).addInstance
    { id := userId, name := userName, serviceId := userId }).addEndpoint
    { id := userId, name := userName, serviceId := userId })

/-- The fault of a search without result. A key too long to be written cannot be reported. -/
def unresolved (lookup : Lookup) : Fault :=
  let written := fun v : Value => match v with
    | .int n => Integer.isWritable n
    | _ => true
  if lookup.keyParts.all written then .unresolved lookup else .longInteger

def found {α : Type} (lookup : Lookup) : Option α → Except Fault α
  | some a => .ok a
  | none => .error (unresolved lookup)

def service (inv : Inventory) (id : Int) : Except Fault Service :=
  found (.service (.int id)) (inv.services.get? id)

def serviceAt (inv : Inventory) (address : Int) : Except Fault Int :=
  found (.serviceAt (.int address)) (inv.serviceIds.get? address)

/-- The number that calls to a service are mapped to, or no number. -/
def mapping (inv : Inventory) (id : Int) : Except Fault Int := (inv.service id).map (·.mappingId)

def serviceInstance (inv : Inventory) (id : Int) : Except Fault Instance :=
  found (.serviceInstance (.int id)) (inv.instances.get? id)

def serviceInstanceAt (inv : Inventory) (service address : Int) : Except Fault Int :=
  found (.serviceInstanceAt (.int service) (.int address)) (inv.instanceIds.get? (service, address))

def endpoint (inv : Inventory) (id : Int) : Except Fault Endpoint :=
  found (.endpoint (.int id)) (inv.endpoints.get? id)

/-! ### Effect of a registration -/

@[simp] theorem services_addService (inv : Inventory) (s : Service) :
    (inv.addService s).services = inv.services.insert s.id s := rfl

@[simp] theorem instances_addInstance (inv : Inventory) (i : Instance) :
    (inv.addInstance i).instances = inv.instances.insert i.id i := rfl

@[simp] theorem endpoints_addEndpoint (inv : Inventory) (e : Endpoint) :
    (inv.addEndpoint e).endpoints = inv.endpoints.insert e.id e := rfl

theorem found_eq_ok {α : Type} {l : Lookup} {o : Option α} {a : α} :
    found l o = .ok a ↔ o = some a := by
  cases o <;> simp [found]

end Inventory

end TraceScope
