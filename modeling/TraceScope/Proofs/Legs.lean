import TraceScope.Edge
import TraceScope.Proofs.Composition
import TraceScope.Proofs.Registration

/-!
# How call legs are made

A leg is made if every search for its two ends finds something, and then holds what was found.
-/

namespace TraceScope

namespace Inventory

variable {inv : Inventory}

/-! ### Names -/

/-- The name of a service, null if there is no such service. -/
def serviceName (inv : Inventory) (id : Int) : Value :=
  ((inv.services.get? id).map (·.name)).getD .null

def instanceName (inv : Inventory) (id : Int) : Value :=
  ((inv.instances.get? id).map (·.name)).getD .null

def operationName (inv : Inventory) (id : Int) : Value :=
  ((inv.endpoints.get? id).map (·.name)).getD .null

def operationName? (inv : Inventory) (id : Int) : Value :=
  if id = noId then .null else inv.operationName id

theorem endpointName_ok_iff {id : Int} {name : Value} :
    inv.endpointName id = .ok name ↔ inv.HasEndpoint id ∧ name = inv.operationName id := by
  unfold endpointName endpoint operationName HasEndpoint
  cases known : inv.endpoints.get? id with
  | none => simp [found, Except.map]
  | some e => simp [found, Except.map, eq_comm]

theorem endpointName?_ok_iff {id : Int} {name : Value} :
    inv.endpointName? id = .ok name ↔
      (id = noId ∨ inv.HasEndpoint id) ∧ name = inv.operationName? id := by
  unfold endpointName? operationName?
  by_cases absent : id = noId
  · simp [absent, eq_comm]
  · simp [absent, endpointName_ok_iff]

/-! ### Ends -/

/-- The end of a call with these numbers, and an endpoint of this name. -/
def named (inv : Inventory) (serviceId instanceId endpointId : Int) (endpointName : Value) :
    Party :=
  { serviceId := .int serviceId, serviceName := inv.serviceName serviceId
    instanceId := .int instanceId, instanceName := inv.instanceName instanceId
    endpointId, endpointName }

theorem searchTable_present {ν : Type} {t : Table Int ν} {l : Lookup} {key : Value} {v : ν}
    (found : searchTable t l key = .ok v) : key.isNull = false := by
  cases key with
  | null => cases found
  | _ => rfl

/-- An end has a service and an instance, whichever values were searched for. -/
theorem party_present {serviceId instanceId : Value} {endpointId : Int}
    {nameOf : Int → Except Fault Value} {p : Party}
    (resolved : inv.party serviceId instanceId endpointId nameOf = .ok p) :
    p.serviceId.isNull = false ∧ p.instanceId.isNull = false ∧
      ∃ name, nameOf endpointId = .ok name := by
  obtain ⟨s, service, resolved⟩ := bind_ok_iff.mp resolved
  obtain ⟨i, inst, resolved⟩ := bind_ok_iff.mp resolved
  obtain ⟨name, endpoint, resolved⟩ := bind_ok_iff.mp resolved
  obtain rfl := pure_ok_iff.mp resolved
  exact ⟨searchTable_present service, searchTable_present inst, name, endpoint⟩

theorem party_ok_iff {serviceId instanceId endpointId : Int} {nameOf : Int → Except Fault Value}
    {p : Party} :
    inv.party (.int serviceId) (.int instanceId) endpointId nameOf = .ok p ↔
      inv.HasService serviceId ∧ inv.HasInstance instanceId ∧
        ∃ name, nameOf endpointId = .ok name ∧
          p = inv.named serviceId instanceId endpointId name := by
  constructor
  · intro resolved
    obtain ⟨s, service, resolved⟩ := bind_ok_iff.mp resolved
    obtain ⟨i, inst, resolved⟩ := bind_ok_iff.mp resolved
    obtain ⟨name, endpoint, resolved⟩ := bind_ok_iff.mp resolved
    obtain rfl := pure_ok_iff.mp resolved
    have service : inv.services.get? serviceId = some s := found_eq_ok.mp service
    have inst : inv.instances.get? instanceId = some i := found_eq_ok.mp inst
    refine ⟨⟨s, service⟩, ⟨i, inst⟩, name, endpoint, ?_⟩
    simp only [named, serviceName, instanceName, service, inst, Option.map_some, Option.getD_some]
  · rintro ⟨⟨s, service⟩, ⟨i, inst⟩, name, endpoint, rfl⟩
    have found : inv.searchService (.int serviceId) = .ok s := found_eq_ok.mpr service
    have found' : inv.searchInstance (.int instanceId) = .ok i := found_eq_ok.mpr inst
    unfold party
    rw [found, found', endpoint]
    simp only [named, serviceName, instanceName, service, inst, Option.map_some, Option.getD_some]
    rfl

end Inventory

/-! ### Legs -/

namespace Edge

variable {inv : Inventory} {info : SegmentInfo} {span : Span} {ref : Reference} {e : Edge}

/-- The caller of a message is found by its address, any other by its instance. -/
theorem caller_ok_iff {layer : SpanLayer} {service inst : Int} :
    caller inv layer ref = .ok (service, inst) ↔
      if layer = .messageQueue then
        inv.serviceIds.get? ref.networkAddressId = some service ∧
          inv.instanceIds.get? (service, ref.networkAddressId) = some inst
      else
        (∃ parent, inv.instances.get? ref.parentInstanceId = some parent ∧
          parent.serviceId = service) ∧ ref.parentInstanceId = inst := by
  unfold caller
  by_cases queue : layer = .messageQueue
  · simp only [queue, if_true, bind_ok_iff, pure_ok_iff, Inventory.serviceAt,
      Inventory.serviceInstanceAt, Inventory.found_eq_ok, Prod.mk.injEq]
    constructor
    · rintro ⟨s, address, i, located, rfl, rfl⟩
      exact ⟨address, located⟩
    · rintro ⟨address, located⟩
      exact ⟨service, address, inst, located, rfl, rfl⟩
  · simp only [queue, if_false, bind_ok_iff, pure_ok_iff, Inventory.serviceInstance,
      Inventory.found_eq_ok, Prod.mk.injEq]
    constructor
    · rintro ⟨parent, present, rfl, rfl⟩
      exact ⟨⟨parent, present, rfl⟩, rfl⟩
    · rintro ⟨⟨parent, present, rfl⟩, rfl⟩
      exact ⟨parent, present, rfl, rfl⟩

theorem ofReference_ok_iff :
    ofReference inv info span ref = .ok e ↔
      ∃ service inst, caller inv span.layer ref = .ok (service, inst) ∧
        ∃ source, inv.party (.int service) (.int inst) ref.parentEndpointId inv.endpointName? =
            .ok source ∧
          ∃ dest, entryParty inv info span = .ok dest ∧ ofSpan span .server source dest = e := by
  simp only [ofReference, bind_ok_iff, pure_ok_iff, Prod.exists]

theorem ofUser_ok_iff :
    ofUser inv info span = .ok e ↔
      ∃ source, inv.party (.int userId) (.int userId) userId inv.endpointName = .ok source ∧
        ∃ dest, entryParty inv info span = .ok dest ∧ ofSpan span .server source dest = e := by
  simp only [ofUser, bind_ok_iff, pure_ok_iff]

theorem ofExit_ok_iff :
    ofExit inv info span = .ok e ↔
      ∃ peer, inv.serviceIds.get? span.peerId = some peer ∧
        ∃ s, inv.services.get? peer = some s ∧
          ∃ inst, inv.instanceIds.get? (peer, span.peerId) = some inst ∧
            ∃ source, inv.party info.serviceId info.instanceId userId inv.endpointName =
                .ok source ∧
              ∃ dest, inv.party (.int (if s.mappingId = noId then peer else s.mappingId))
                  (.int inst) span.operationId inv.endpointName = .ok dest ∧
                ofSpan span .client source dest = e := by
  simp only [ofExit, Inventory.serviceAt, Inventory.mapping, Inventory.service,
    Inventory.serviceInstanceAt, bind_ok_iff, map_ok_iff, pure_ok_iff, Inventory.found_eq_ok]
  constructor
  · rintro ⟨peer, address, mapped, ⟨s, service, rfl⟩, made⟩
    exact ⟨peer, address, s, service, made⟩
  · rintro ⟨peer, address, s, service, made⟩
    exact ⟨peer, address, s.mappingId, ⟨s, service, rfl⟩, made⟩

/-! ### Complete legs -/

/-- Both ends of a leg have a service and an instance. -/
def Complete (e : Edge) : Prop :=
  e.source.serviceId.isNull = false ∧ e.source.instanceId.isNull = false ∧
    e.dest.serviceId.isNull = false ∧ e.dest.instanceId.isNull = false

theorem ofReference_complete (made : ofReference inv info span ref = .ok e) :
    e.Complete ∧ inv.HasEndpoint span.operationId := by
  obtain ⟨_, _, _, source, near, dest, own, rfl⟩ := ofReference_ok_iff.mp made
  obtain ⟨s₁, s₂, _⟩ := Inventory.party_present near
  obtain ⟨d₁, d₂, name, endpoint⟩ := Inventory.party_present own
  exact ⟨⟨s₁, s₂, d₁, d₂⟩, (Inventory.endpointName_ok_iff.mp endpoint).1⟩

theorem ofUser_complete (made : ofUser inv info span = .ok e) :
    e.Complete ∧ inv.HasEndpoint span.operationId := by
  obtain ⟨source, near, dest, own, rfl⟩ := ofUser_ok_iff.mp made
  obtain ⟨s₁, s₂, _⟩ := Inventory.party_present near
  obtain ⟨d₁, d₂, name, endpoint⟩ := Inventory.party_present own
  exact ⟨⟨s₁, s₂, d₁, d₂⟩, (Inventory.endpointName_ok_iff.mp endpoint).1⟩

theorem ofExit_complete (made : ofExit inv info span = .ok e) :
    e.Complete ∧ inv.HasEndpoint userId := by
  obtain ⟨peer, _, s, _, inst, _, source, near, dest, far, rfl⟩ := ofExit_ok_iff.mp made
  obtain ⟨s₁, s₂, name, endpoint⟩ := Inventory.party_present near
  obtain ⟨d₁, d₂, _⟩ := Inventory.party_present far
  exact ⟨⟨s₁, s₂, d₁, d₂⟩, (Inventory.endpointName_ok_iff.mp endpoint).1⟩

end Edge

end TraceScope
