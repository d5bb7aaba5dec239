import TraceScope.Proofs.Specification

/-!
# What has to be registered

The entries that a segment refers to, and the legs that can be made if they are registered. Where
one is not, and the numbers can be written, it is a search that fails.
-/

namespace TraceScope

/-! ### What has to be registered -/

/-- The caller that a reference names is registered: for a message, the service at the network
address and its instance there; otherwise the parent instance and its service. The parent endpoint
may have no number. -/
def Reference.Resolvable (inv : Inventory) (layer : SpanLayer) (ref : Reference) : Prop :=
  (if layer = .messageQueue then
    ∃ service, inv.serviceIds.get? ref.networkAddressId = some service ∧
      ∃ inst, inv.instanceIds.get? (service, ref.networkAddressId) = some inst
  else ∃ parent, inv.instances.get? ref.parentInstanceId = some parent ∧
    inv.HasService parent.serviceId) ∧
  (ref.parentEndpointId = noId ∨ inv.HasEndpoint ref.parentEndpointId)

/-- The peer of an outgoing call leads to a service and its instance there, and the service that it
is mapped to is registered, if it is mapped. -/
def Span.PeerResolvable (inv : Inventory) (span : Span) : Prop :=
  ∃ peer, inv.serviceIds.get? span.peerId = some peer ∧
    (∃ inst, inv.instanceIds.get? (peer, span.peerId) = some inst) ∧
    ∀ s, inv.services.get? peer = some s → s.mappingId = noId ∨ inv.HasService s.mappingId

/-- Everything that a segment refers to is registered. -/
structure Segment.Resolvable (inv : Inventory) (s : Segment) : Prop where
  own : incoming s.spans ≠ [] ∨ outgoing s.spans ≠ [] →
    inv.HasService s.serviceId ∧ inv.HasInstance s.instanceId
  operations : ∀ span ∈ incoming s.spans ++ outgoing s.spans, inv.HasEndpoint span.operationId
  callers : ∀ span ∈ incoming s.spans, ∀ ref ∈ span.references, ref.Resolvable inv span.layer
  peers : ∀ span ∈ outgoing s.spans, span.PeerResolvable inv

/-- The stack suffices to tell the parts of the first trace identifier. -/
def Segment.Tellable (stack : Stack) (s : Segment) : Prop :=
  ∀ parts, s.traceIds.head? = some parts → ∀ v ∈ parts, stack.canTell .traceIdPart v = true

/-! ### What a segment may hold -/

/-- A number occurs in a value. -/
inductive Value.Mentions (n : Int) : Value → Prop
  | int : Mentions n (.int n)
  | item {items : List Value} {v : Value} (member : v ∈ items) (within : Mentions n v) :
      Mentions n (.list items)
  | field {members : List (Text × Value)} {m : Text × Value} (member : m ∈ members)
      (within : Mentions n m.2) : Mentions n (.object members)

def Reference.integers (ref : Reference) : List Int :=
  [ref.parentEndpointId, ref.parentInstanceId, ref.networkAddressId, ref.parentSpanId]

def Span.integers (span : Span) : List Int :=
  [span.id, span.parentId, span.startTime, span.endTime, span.operationId, span.peerId,
    span.componentId] ++ span.references.flatMap Reference.integers

/-- The first start and the starts of outgoing calls have minutes, tags hold texts, and no number is
too long to be written. -/
structure Segment.Ordinary (s : Segment) : Prop where
  first : ∀ span, s.spans.head? = some span → ∃ b, minuteBucket span.startTime = .ok b
  exits : ∀ span ∈ s.spans, span.kind = .exit → ∃ b, minuteBucket span.startTime = .ok b
  texts : ∀ span ∈ s.spans, ∀ t ∈ span.tags, ∃ text, t.value = .text text
  service : Integer.isWritable s.serviceId = true
  inst : Integer.isWritable s.instanceId = true
  integers : ∀ span ∈ s.spans, ∀ n ∈ span.integers, Integer.isWritable n = true
  parts : ∀ parts ∈ s.traceIds, ∀ v ∈ parts, ∀ n, v.Mentions n → Integer.isWritable n = true

/-! ### Legs that resolve -/

namespace Inventory

variable {inv : Inventory}

theorem endpointName_resolves {id : Int} :
    (∃ name, inv.endpointName id = .ok name) ↔ inv.HasEndpoint id := by
  simp only [endpointName_ok_iff, exists_and_left, exists_eq, and_true]

theorem endpointName?_resolves {id : Int} :
    (∃ name, inv.endpointName? id = .ok name) ↔ id = noId ∨ inv.HasEndpoint id := by
  simp only [endpointName?_ok_iff, exists_and_left, exists_eq, and_true]

theorem party_resolves {serviceId instanceId endpointId : Int} {nameOf : Int → Except Fault Value} :
    (∃ p, inv.party (.int serviceId) (.int instanceId) endpointId nameOf = .ok p) ↔
      inv.HasService serviceId ∧ inv.HasInstance instanceId ∧
        ∃ name, nameOf endpointId = .ok name := by
  constructor
  · rintro ⟨p, resolved⟩
    obtain ⟨service, inst, name, endpoint, _⟩ := party_ok_iff.mp resolved
    exact ⟨service, inst, name, endpoint⟩
  · rintro ⟨service, inst, name, endpoint⟩
    exact ⟨_, party_ok_iff.mpr ⟨service, inst, name, endpoint, rfl⟩⟩

end Inventory

namespace Edge

variable {inv : Inventory} {info : SegmentInfo} {segment : Segment} {span : Span}

theorem entryParty_resolves (names : info.Names segment) :
    (∃ p, entryParty inv info span = .ok p) ↔ segment.Hosts inv span.operationId := by
  simp only [entryParty_ok_iff names, exists_and_left, exists_eq, and_true]

theorem caller_resolves (indexed : inv.Indexed) {layer : SpanLayer} {ref : Reference} :
    (∃ s i, caller inv layer ref = .ok (s, i) ∧ inv.HasService s ∧ inv.HasInstance i) ↔
      if layer = .messageQueue then
        ∃ service, inv.serviceIds.get? ref.networkAddressId = some service ∧
          ∃ inst, inv.instanceIds.get? (service, ref.networkAddressId) = some inst
      else ∃ parent, inv.instances.get? ref.parentInstanceId = some parent ∧
        inv.HasService parent.serviceId := by
  simp only [caller_ok_iff]
  by_cases queue : layer = .messageQueue
  · simp only [if_pos queue]
    constructor
    · rintro ⟨s, i, ⟨address, located⟩, _, _⟩
      exact ⟨s, address, i, located⟩
    · rintro ⟨s, address, i, located⟩
      exact ⟨s, i, ⟨address, located⟩, indexed.addressed _ _ address, indexed.located _ _ located⟩
  · simp only [if_neg queue]
    constructor
    · rintro ⟨_, _, ⟨⟨parent, present, rfl⟩, rfl⟩, service, _⟩
      exact ⟨parent, present, service⟩
    · rintro ⟨parent, present, service⟩
      exact ⟨_, _, ⟨⟨parent, present, rfl⟩, rfl⟩, service, parent, present⟩

theorem ofReference_resolves (indexed : inv.Indexed) (names : info.Names segment)
    {ref : Reference} :
    (∃ e, ofReference inv info span ref = .ok e) ↔
      ref.Resolvable inv span.layer ∧ segment.Hosts inv span.operationId := by
  unfold Reference.Resolvable
  rw [← caller_resolves indexed, ← entryParty_resolves names, ← Inventory.endpointName?_resolves]
  constructor
  · rintro ⟨e, made⟩
    obtain ⟨s, i, called, source, near, dest, own, _⟩ := ofReference_ok_iff.mp made
    obtain ⟨service, inst, named⟩ := Inventory.party_resolves.mp ⟨source, near⟩
    exact ⟨⟨⟨s, i, called, service, inst⟩, named⟩, dest, own⟩
  · rintro ⟨⟨⟨s, i, called, service, inst⟩, named⟩, dest, own⟩
    obtain ⟨source, near⟩ := Inventory.party_resolves.mpr ⟨service, inst, named⟩
    exact ⟨_, ofReference_ok_iff.mpr ⟨s, i, called, source, near, dest, own, rfl⟩⟩

theorem ofUser_resolves (indexed : inv.Indexed) (names : info.Names segment) :
    (∃ e, ofUser inv info span = .ok e) ↔ segment.Hosts inv span.operationId := by
  rw [← entryParty_resolves names]
  constructor
  · rintro ⟨e, made⟩
    obtain ⟨source, _, dest, own, _⟩ := ofUser_ok_iff.mp made
    exact ⟨dest, own⟩
  · rintro ⟨dest, own⟩
    obtain ⟨source, near⟩ := Inventory.party_resolves.mpr ⟨indexed.userService,
      indexed.userInstance, Inventory.endpointName_resolves.mpr indexed.userEndpoint⟩
    exact ⟨_, ofUser_ok_iff.mpr ⟨source, near, dest, own, rfl⟩⟩

theorem ofExit_resolves (indexed : inv.Indexed) (names : info.Names segment) :
    (∃ e, ofExit inv info span = .ok e) ↔
      segment.Hosts inv span.operationId ∧ span.PeerResolvable inv := by
  constructor
  · rintro ⟨e, made⟩
    obtain ⟨peer, address, s, service, inst, located, source, near, dest, far, _⟩ :=
      ofExit_ok_iff.mp made
    rw [names.service, names.inst] at near
    obtain ⟨own, ownInst, _⟩ := Inventory.party_resolves.mp ⟨source, near⟩
    obtain ⟨target, _, endpoint⟩ := Inventory.party_resolves.mp ⟨dest, far⟩
    refine ⟨⟨own, ownInst, Inventory.endpointName_resolves.mp endpoint⟩, peer, address,
      ⟨inst, located⟩, ?_⟩
    intro t present
    rw [service] at present
    cases present
    by_cases unmapped : s.mappingId = noId
    · exact Or.inl unmapped
    · rw [if_neg unmapped] at target
      exact Or.inr target
  · rintro ⟨⟨own, ownInst, endpoint⟩, peer, address, ⟨inst, located⟩, mapping⟩
    obtain ⟨s, service⟩ := indexed.addressed _ _ address
    have target : inv.HasService (if s.mappingId = noId then peer else s.mappingId) := by
      split
      · exact ⟨s, service⟩
      · exact (mapping s service).resolve_left ‹_›
    obtain ⟨source, near⟩ := Inventory.party_resolves.mpr ⟨own, ownInst,
      Inventory.endpointName_resolves.mpr indexed.userEndpoint⟩
    obtain ⟨dest, far⟩ := Inventory.party_resolves.mpr ⟨target, indexed.located _ _ located,
      Inventory.endpointName_resolves.mpr endpoint⟩
    rw [← names.service, ← names.inst] at near
    exact ⟨_, ofExit_ok_iff.mpr
      ⟨peer, address, s, service, inst, located, source, near, dest, far, rfl⟩⟩

end Edge

/-! ### Searches fail as such -/

namespace Inventory

def Short (n : Int) : Prop := Integer.isWritable n = true

variable {inv : Inventory}

theorem found_fault {α : Type} {l : Lookup} {o : Option α} {f : Fault}
    (keys : ∀ v ∈ l.keyParts, ∃ n, v = .int n ∧ Short n) (failed : found l o = .error f) :
    f.kind = .lookup := by
  cases o with
  | some a => cases failed
  | none =>
    obtain rfl := Except.error.inj failed
    have same : unresolved l = .unresolved l := by
      refine if_pos (List.all_eq_true.mpr fun v member => ?_)
      obtain ⟨n, rfl, short⟩ := keys v member
      exact short
    rw [same]
    rfl

theorem single_key {l : Lookup} {n : Int} (key : l.keyParts = [.int n]) (short : Short n) :
    ∀ v ∈ l.keyParts, ∃ n, v = .int n ∧ Short n := by
  intro v member
  rw [key] at member
  exact ⟨n, List.mem_singleton.mp member, short⟩

theorem endpointName_fault {id : Int} {f : Fault} (short : Short id)
    (failed : inv.endpointName id = .error f) : f.kind = .lookup :=
  found_fault (single_key rfl short) (map_error_iff.mp failed)

theorem endpointName?_fault {id : Int} {f : Fault} (short : Short id)
    (failed : inv.endpointName? id = .error f) : f.kind = .lookup := by
  unfold endpointName? at failed
  split at failed
  · cases failed
  · exact endpointName_fault short failed

theorem party_fault {serviceId instanceId endpointId : Int} {nameOf : Int → Except Fault Value}
    {f : Fault} (service : Short serviceId) (inst : Short instanceId)
    (named : ∀ f, nameOf endpointId = .error f → f.kind = .lookup)
    (failed : inv.party (.int serviceId) (.int instanceId) endpointId nameOf = .error f) :
    f.kind = .lookup := by
  refine bind_fault failed (fun g => found_fault (single_key rfl service)) fun s g _ failed => ?_
  refine bind_fault failed (fun g => found_fault (single_key rfl inst)) fun i g _ failed => ?_
  exact bind_fault failed named fun name g _ failed => nomatch failed

end Inventory

namespace Edge

open Inventory (Short)

variable {inv : Inventory} {info : SegmentInfo} {segment : Segment} {span : Span} {f : Fault}

/-- The numbers that the searches for a span start from can be written. -/
structure Searchable (segment : Segment) (span : Span) : Prop where
  service : Short segment.serviceId
  inst : Short segment.instanceId
  operation : Short span.operationId
  peer : Short span.peerId
  references : ∀ ref ∈ span.references, ∀ n ∈ ref.integers, Short n

theorem short_userId : Short userId := by
  exact Integer.isWritable_of_lt (by decide)

theorem entryParty_fault (names : info.Names segment) (start : Searchable segment span)
    (failed : entryParty inv info span = .error f) : f.kind = .lookup := by
  unfold entryParty at failed
  rw [names.service, names.inst] at failed
  exact Inventory.party_fault start.service start.inst
    (fun g => Inventory.endpointName_fault start.operation) failed

theorem caller_fault {layer : SpanLayer} {ref : Reference} (leads : inv.LeadsTo Short)
    (numbers : ∀ n ∈ ref.integers, Short n) (failed : caller inv layer ref = .error f) :
    f.kind = .lookup := by
  have parent : Short ref.parentInstanceId := numbers _ (by simp [Reference.integers])
  have address : Short ref.networkAddressId := numbers _ (by simp [Reference.integers])
  unfold caller at failed
  split at failed
  · refine bind_fault failed (fun g => Inventory.found_fault (Inventory.single_key rfl address))
      fun s g found failed => ?_
    have service : Short s := leads.addressed _ _ (Inventory.found_eq_ok.mp found)
    refine bind_fault failed (fun g => Inventory.found_fault ?_) fun i g _ failed => nomatch failed
    intro v member
    rcases List.mem_cons.mp member with rfl | member
    · exact ⟨s, rfl, service⟩
    · exact ⟨_, List.mem_singleton.mp member, address⟩
  · exact bind_fault failed
      (fun g => Inventory.found_fault (Inventory.single_key rfl parent))
      fun i g _ failed => nomatch failed

theorem caller_short {layer : SpanLayer} {ref : Reference} {s i : Int}
    (leads : inv.LeadsTo Short) (numbers : ∀ n ∈ ref.integers, Short n)
    (called : caller inv layer ref = .ok (s, i)) : Short s ∧ Short i := by
  unfold caller at called
  split at called
  · obtain ⟨service, address, called⟩ := bind_ok_iff.mp called
    obtain ⟨inst, located, called⟩ := bind_ok_iff.mp called
    obtain ⟨rfl, rfl⟩ := Prod.mk.inj (pure_ok_iff.mp called)
    exact ⟨leads.addressed _ _ (Inventory.found_eq_ok.mp address),
      leads.located _ _ (Inventory.found_eq_ok.mp located)⟩
  · obtain ⟨parent, found, called⟩ := bind_ok_iff.mp called
    obtain ⟨rfl, rfl⟩ := Prod.mk.inj (pure_ok_iff.mp called)
    exact ⟨leads.owned _ _ (Inventory.found_eq_ok.mp found),
      numbers _ (by simp [Reference.integers])⟩

theorem ofReference_fault {ref : Reference} (names : info.Names segment)
    (start : Searchable segment span) (leads : inv.LeadsTo Short)
    (numbers : ∀ n ∈ ref.integers, Short n) (failed : ofReference inv info span ref = .error f) :
    f.kind = .lookup := by
  have endpoint : Short ref.parentEndpointId := numbers _ (by simp [Reference.integers])
  refine bind_fault failed (fun g => caller_fault leads numbers) fun ids g called failed => ?_
  obtain ⟨service, inst⟩ := caller_short leads numbers called
  refine bind_fault failed (fun g => Inventory.party_fault service inst
    fun g => Inventory.endpointName?_fault endpoint) fun source g _ failed => ?_
  exact bind_fault failed (fun g => entryParty_fault names start)
    fun dest g _ failed => nomatch failed

theorem ofUser_fault (names : info.Names segment) (start : Searchable segment span)
    (failed : ofUser inv info span = .error f) : f.kind = .lookup := by
  refine bind_fault failed (fun g => Inventory.party_fault short_userId short_userId
    fun g => Inventory.endpointName_fault short_userId) fun source g _ failed => ?_
  exact bind_fault failed (fun g => entryParty_fault names start)
    fun dest g _ failed => nomatch failed

theorem ofExit_fault (names : info.Names segment) (start : Searchable segment span)
    (leads : inv.LeadsTo Short) (failed : ofExit inv info span = .error f) :
    f.kind = .lookup := by
  refine bind_fault failed
    (fun g => Inventory.found_fault (Inventory.single_key rfl start.peer))
    fun peer g address failed => ?_
  have peerShort : Short peer := leads.addressed _ _ (Inventory.found_eq_ok.mp address)
  refine bind_fault failed (fun g failed => Inventory.found_fault
    (Inventory.single_key rfl peerShort) (map_error_iff.mp failed))
    fun mapped g mapping failed => ?_
  obtain ⟨s, service, rfl⟩ := map_ok_iff.mp mapping
  have mappedShort : Short s.mappingId := leads.mapped _ _ (Inventory.found_eq_ok.mp service)
  refine bind_fault failed (fun g => Inventory.found_fault ?_) fun inst g located failed => ?_
  · intro v member
    rcases List.mem_cons.mp member with rfl | member
    · exact ⟨peer, rfl, peerShort⟩
    · exact ⟨_, List.mem_singleton.mp member, start.peer⟩
  have instShort : Short inst := leads.located _ _ (Inventory.found_eq_ok.mp located)
  have targetShort : Short (if s.mappingId = noId then peer else s.mappingId) := by
    split
    · exact peerShort
    · exact mappedShort
  rw [names.service, names.inst] at failed
  refine bind_fault failed (fun g => Inventory.party_fault start.service start.inst
    fun g => Inventory.endpointName_fault short_userId) fun source g _ failed => ?_
  refine bind_fault failed (fun g => Inventory.party_fault targetShort instShort
    fun g => Inventory.endpointName_fault start.operation) fun dest g _ failed => nomatch failed

end Edge

end TraceScope
