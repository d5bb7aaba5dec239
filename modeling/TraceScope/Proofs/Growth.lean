import TraceScope.Proofs.Offers

/-!
# Growing inventories

An inventory grows as long as whatever is found in it stays found and stays the same. A segment that
is processed with an inventory is processed with every larger one, and publishes the same records:
no search falls back on something else when it finds nothing, and none looks at more than one entry.
-/

namespace TraceScope

namespace Table

variable {κ ν : Type} [DecidableEq κ] {t u : Table κ ν}

def Within (t u : Table κ ν) : Prop := ∀ k v, t.get? k = some v → u.get? k = some v

theorem within_refl (t : Table κ ν) : t.Within t := fun _ _ found => found

theorem within_insert {k : κ} {v : ν} (new : t.get? k = none) (h : t.Within u) :
    t.Within (u.insert k v) := by
  intro k' w found
  have other : k ≠ k' := by
    intro same
    rw [same, found] at new
    cases new
  rw [get?_insert, if_neg other]
  exact h k' w found

end Table

namespace Inventory

/-! ### Searches that succeed again -/

/-- Every search that succeeds in one inventory succeeds in the other, with the same answer. -/
structure IncludedIn (inv larger : Inventory) : Prop where
  service : ∀ id s, inv.service id = .ok s → larger.service id = .ok s
  inst : ∀ id i, inv.serviceInstance id = .ok i → larger.serviceInstance id = .ok i
  endpoint : ∀ id e, inv.endpoint id = .ok e → larger.endpoint id = .ok e
  serviceAt : ∀ address id, inv.serviceAt address = .ok id → larger.serviceAt address = .ok id
  instanceAt : ∀ service address id, inv.serviceInstanceAt service address = .ok id →
    larger.serviceInstanceAt service address = .ok id

variable {inv larger : Inventory}

theorem includedIn_iff :
    inv.IncludedIn larger ↔
      inv.services.Within larger.services ∧ inv.instances.Within larger.instances ∧
        inv.endpoints.Within larger.endpoints ∧ inv.serviceIds.Within larger.serviceIds ∧
          inv.instanceIds.Within larger.instanceIds := by
  constructor
  · rintro ⟨service, inst, endpoint, serviceAt, instanceAt⟩
    simp only [Inventory.service, serviceInstance, Inventory.endpoint, Inventory.serviceAt,
      serviceInstanceAt, found_eq_ok] at service inst endpoint serviceAt instanceAt
    exact ⟨service, inst, endpoint, serviceAt, fun key id => instanceAt key.1 key.2 id⟩
  · rintro ⟨services, instances, endpoints, serviceIds, instanceIds⟩
    constructor
    all_goals
      simp only [Inventory.service, serviceInstance, Inventory.endpoint, Inventory.serviceAt,
        serviceInstanceAt, found_eq_ok]
    · exact services
    · exact instances
    · exact endpoints
    · exact serviceIds
    · exact fun service address id => instanceIds (service, address) id

theorem searchTable_within {ν : Type} {t u : Table Int ν} {l : Lookup} {key : Value} {v : ν}
    (h : t.Within u) (done : searchTable t l key = .ok v) : searchTable u l key = .ok v := by
  obtain ⟨id, known, done⟩ := bind_ok_iff.mp done
  obtain ⟨k, rfl, present⟩ := Option.bind_eq_some_iff.mp (found_eq_ok.mp done)
  refine bind_ok_iff.mpr ⟨some k, known, found_eq_ok.mpr ?_⟩
  exact h k v present

theorem endpointName_included (h : inv.IncludedIn larger) {id : Int} {name : Value}
    (done : inv.endpointName id = .ok name) : larger.endpointName id = .ok name := by
  obtain ⟨e, present, rfl⟩ := map_ok_iff.mp done
  exact map_ok_iff.mpr ⟨e, h.endpoint id e present, rfl⟩

theorem endpointName?_included (h : inv.IncludedIn larger) {id : Int} {name : Value}
    (done : inv.endpointName? id = .ok name) : larger.endpointName? id = .ok name := by
  unfold endpointName? at done ⊢
  by_cases absent : id = noId
  · rw [if_pos absent] at done ⊢
    exact done
  · rw [if_neg absent] at done ⊢
    exact endpointName_included h done

theorem party_included (h : inv.IncludedIn larger) {serviceId instanceId : Value}
    {endpointId : Int} {nameOf nameOf' : Int → Except Fault Value} {p : Party}
    (named : ∀ name, nameOf endpointId = .ok name → nameOf' endpointId = .ok name)
    (done : inv.party serviceId instanceId endpointId nameOf = .ok p) :
    larger.party serviceId instanceId endpointId nameOf' = .ok p := by
  obtain ⟨services, instances, _⟩ := includedIn_iff.mp h
  obtain ⟨s, service, done⟩ := bind_ok_iff.mp done
  obtain ⟨i, inst, done⟩ := bind_ok_iff.mp done
  obtain ⟨name, endpoint, done⟩ := bind_ok_iff.mp done
  refine bind_ok_iff.mpr ⟨s, searchTable_within services service, ?_⟩
  refine bind_ok_iff.mpr ⟨i, searchTable_within instances inst, ?_⟩
  exact bind_ok_iff.mpr ⟨name, named name endpoint, done⟩

theorem operationName_included (h : inv.IncludedIn larger) {id : Int}
    (present : inv.HasEndpoint id) : larger.operationName id = inv.operationName id := by
  have named : inv.endpointName id = .ok (inv.operationName id) :=
    endpointName_ok_iff.mpr ⟨present, rfl⟩
  exact (endpointName_ok_iff.mp (endpointName_included h named)).2.symm

end Inventory

/-! ### Legs that are made again -/

namespace Edge

variable {inv larger : Inventory} {info : SegmentInfo} {span : Span} {e : Edge}

theorem entryParty_included (h : inv.IncludedIn larger) {p : Party}
    (done : entryParty inv info span = .ok p) : entryParty larger info span = .ok p :=
  Inventory.party_included h (fun _ => Inventory.endpointName_included h) done

theorem caller_included (h : inv.IncludedIn larger) {layer : SpanLayer} {ref : Reference}
    {service inst : Int} (done : caller inv layer ref = .ok (service, inst)) :
    caller larger layer ref = .ok (service, inst) := by
  obtain ⟨_, instances, _, serviceIds, instanceIds⟩ := Inventory.includedIn_iff.mp h
  have found := caller_ok_iff.mp done
  refine caller_ok_iff.mpr ?_
  by_cases queue : layer = .messageQueue
  · rw [if_pos queue] at found ⊢
    obtain ⟨address, located⟩ := found
    exact ⟨serviceIds _ _ address, instanceIds _ _ located⟩
  · rw [if_neg queue] at found ⊢
    obtain ⟨⟨parent, present, owned⟩, same⟩ := found
    exact ⟨⟨parent, instances _ _ present, owned⟩, same⟩

theorem ofReference_included (h : inv.IncludedIn larger) {ref : Reference}
    (made : ofReference inv info span ref = .ok e) :
    ofReference larger info span ref = .ok e := by
  obtain ⟨service, inst, called, source, near, dest, own, same⟩ := ofReference_ok_iff.mp made
  have near' := Inventory.party_included h (fun _ => Inventory.endpointName?_included h) near
  exact ofReference_ok_iff.mpr ⟨service, inst, caller_included h called, source, near', dest,
    entryParty_included h own, same⟩

theorem ofUser_included (h : inv.IncludedIn larger) (made : ofUser inv info span = .ok e) :
    ofUser larger info span = .ok e := by
  obtain ⟨source, near, dest, own, same⟩ := ofUser_ok_iff.mp made
  have near' := Inventory.party_included h (fun _ => Inventory.endpointName_included h) near
  exact ofUser_ok_iff.mpr ⟨source, near', dest, entryParty_included h own, same⟩

theorem ofExit_included (h : inv.IncludedIn larger) (made : ofExit inv info span = .ok e) :
    ofExit larger info span = .ok e := by
  obtain ⟨services, _, _, serviceIds, instanceIds⟩ := Inventory.includedIn_iff.mp h
  obtain ⟨peer, address, s, service, inst, located, source, near, dest, far, same⟩ :=
    ofExit_ok_iff.mp made
  have near' := Inventory.party_included h (fun _ => Inventory.endpointName_included h) near
  have far' := Inventory.party_included h (fun _ => Inventory.endpointName_included h) far
  exact ofExit_ok_iff.mpr ⟨peer, serviceIds _ _ address, s, services _ _ service, inst,
    instanceIds _ _ located, source, near', dest, far', same⟩

end Edge

/-! ### Segments that are heard again -/

namespace Listener

variable {inv larger : Inventory} {config : Config} {info : SegmentInfo} {l : Listener}

theorem addEntryLegs_included (h : inv.IncludedIn larger) (span : Span) :
    Step.Refines (addEntryLegs inv info span) (addEntryLegs larger info span) := by
  unfold addEntryLegs
  split
  · apply Step.refines_ofExcept
    · exact fun _ => Edge.ofUser_included h
    · exact fun _ => Step.refines_refl _
  · apply Step.refines_each
    intro ref
    apply Step.refines_ofExcept
    · exact fun _ => Edge.ofReference_included h
    · exact fun _ => Step.refines_refl _

theorem onEntry_included (h : inv.IncludedIn larger) (span : Span) :
    Step.Refines (onEntry inv info span) (onEntry larger info span) := by
  unfold onEntry
  apply Step.refines_andThen (Step.refines_refl _)
  exact Step.refines_andThen (addEntryLegs_included h span) (Step.refines_refl _)

theorem onExit_included (h : inv.IncludedIn larger) (span : Span) :
    Step.Refines (onExit inv config info span) (onExit larger config info span) := by
  unfold onExit
  apply Step.refines_andThen (Step.refines_refl _)
  split
  · exact Step.refines_refl _
  · apply Step.refines_ofExcept
    · exact fun _ => Edge.ofExit_included h
    · exact fun _ => Step.refines_refl _

theorem receive_included (h : inv.IncludedIn larger) (e : Event) :
    Step.Refines (receive inv config info e) (receive larger config info e) := by
  cases e with
  | entry span => exact onEntry_included h span
  | exit span => exact onExit_included h span
  | traceId parts => exact Step.refines_refl _

theorem records_included (h : inv.IncludedIn larger) (sound : Sound inv l) :
    l.records larger = l.records inv := by
  -- At the end only the endpoint is looked up that outgoing calls start from.
  have filed : ∀ leg ∈ l.exitLegs, (filedExit larger l leg).records Edge.exitFacets =
      (filedExit inv l leg).records Edge.exitFacets := by
    intro leg member
    have known := sourceEndpoint_known sound (List.ne_nil_of_mem member)
    unfold filedExit
    rw [Inventory.operationName_included h known]
  have exits : l.exitRecords larger = l.exitRecords inv := by
    unfold exitRecords
    rw [List.flatMap_def, List.map_congr_left filed, ← List.flatMap_def]
  unfold records
  rw [exits]

end Listener

theorem Segment.emission_included {inv larger : Inventory} {config : Config} {segment : Segment}
    {rs : List Record} (h : inv.IncludedIn larger)
    (reached : segment.emission inv config = .ok rs) :
    segment.emission larger config = .ok rs := by
  obtain ⟨info, l, told, gathered, rfl⟩ := Segment.emission_ok_iff.mp reached
  have again : Listener.gather larger config info segment.events = (l, none) :=
    Step.refines_each (Listener.receive_included h) segment.events {} l gathered
  have sound : Listener.Sound inv (Listener.gather inv config info segment.events).1 :=
    Listener.gather_sound (info_dated told) segment.events
  rw [gathered] at sound
  exact emission_ok_iff.mpr ⟨info, l, told, again, (Listener.records_included h sound).symm⟩

/-! ### Registrations of something new -/

/-- Neither the number of an entry nor the address that leads to it is in use. -/
def Registration.IsNew (inv : Inventory) : Registration → Prop
  | .service s => inv.services.get? s.id = none ∧
    (s.addressId = noId ∨ inv.serviceIds.get? s.addressId = none)
  | .inst i => inv.instances.get? i.id = none ∧
    (i.addressId = noId ∨ inv.instanceIds.get? (i.serviceId, i.addressId) = none)
  | .endpoint e => inv.endpoints.get? e.id = none

namespace Inventory

variable {inv larger : Inventory}

theorem register_included {r : Registration} (new : r.IsNew inv) (h : inv.IncludedIn larger) :
    inv.IncludedIn (larger.register r) := by
  obtain ⟨services, instances, endpoints, serviceIds, instanceIds⟩ := includedIn_iff.mp h
  rw [includedIn_iff]
  cases r with
  | service s =>
    obtain ⟨id, address⟩ := new
    refine ⟨Table.within_insert id services, instances, endpoints, ?_, instanceIds⟩
    simp only [register, addService]
    split
    · exact serviceIds
    · exact Table.within_insert (address.resolve_left ‹_›) serviceIds
  | inst i =>
    obtain ⟨id, address⟩ := new
    refine ⟨services, Table.within_insert id instances, endpoints, serviceIds, ?_⟩
    simp only [register, addInstance]
    split
    · exact instanceIds
    · exact Table.within_insert (address.resolve_left ‹_›) instanceIds
  | endpoint e =>
    exact ⟨services, instances, Table.within_insert new endpoints, serviceIds, instanceIds⟩

theorem registrations_included {entries : List Registration}
    (new : ∀ r ∈ entries, r.IsNew inv) : inv.IncludedIn (entries.foldl register inv) := by
  have start : inv.IncludedIn inv :=
    includedIn_iff.mpr ⟨Table.within_refl _, Table.within_refl _, Table.within_refl _,
      Table.within_refl _, Table.within_refl _⟩
  -- The new entries may replace one another, but none that was there before.
  exact List.foldlRecOn entries register start fun _ h r member =>
    register_included (new r member) h

end Inventory

namespace Analyzer

/-- With an inventory in which everything is found that is found in another one, a segment that
succeeded before succeeds again and publishes the same records. Registrations of new numbers and
addresses lead to such an inventory. -/
theorem output_included (inv larger : Inventory) (config : Config) (segment : Segment) :
    (inv.IncludedIn larger → (alone inv config segment).2 = none →
      (alone larger config segment).2 = none ∧
        output larger config segment = output inv config segment) ∧
      ∀ entries : List Registration, (∀ r ∈ entries, r.IsNew inv) →
        inv.IncludedIn (entries.foldl Inventory.register inv) := by
  refine ⟨?_, fun entries new => Inventory.registrations_included new⟩
  intro h done
  have reached : segment.emission inv config = .ok (output inv config segment) :=
    emission_of_succeeds (Option.isNone_iff_eq_none.mpr done)
  obtain ⟨_, output, outcome⟩ := alone_ok (Segment.emission_included h reached)
  exact ⟨outcome, output⟩

def newcomers : List Registration :=
  [.service { id := 7, name := .text "cart", mappingId := 2, addressId := 4 },
    .inst { id := 8, name := .text "cart-1", serviceId := 7, addressId := 4 },
    .endpoint { id := 5, name := .text "/cart" }]

theorem output_newcomers :
    (∀ r ∈ newcomers, r.IsNew impatient.inventory) ∧
      let larger := newcomers.foldl Inventory.register impatient.inventory
      (alone impatient.inventory impatient.config slowQuery).2 = none ∧
        (alone larger impatient.config slowQuery).2 = none ∧
          (output larger impatient.config slowQuery).length = 11 := by
  have new : ∀ r ∈ newcomers, r.IsNew impatient.inventory := by
    simp only [newcomers, List.forall_mem_cons]
    exact ⟨⟨rfl, Or.inr rfl⟩, ⟨rfl, Or.inr rfl⟩, rfl, List.forall_mem_nil _⟩
  have included := (output_included impatient.inventory impatient.inventory impatient.config
    slowQuery).2 newcomers new
  obtain ⟨again, same⟩ := (output_included impatient.inventory _ impatient.config slowQuery).1
    included slowQuery_succeeds
  refine ⟨new, slowQuery_succeeds, again, ?_⟩
  rw [same]
  decide +kernel

end Analyzer

end TraceScope
