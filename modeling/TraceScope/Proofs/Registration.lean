import TraceScope.Inventory.Document
import TraceScope.Inventory.Query
import TraceScope.Proofs.Composition

/-!
# Inventories by registration

Every inventory grows by registrations out of the one that knows the user alone. Registrations never
take an identifier away, and an address leads to registered entries only.
-/

namespace TraceScope

inductive Registration
  | service (s : Service)
  | inst (i : Instance)
  | endpoint (e : Endpoint)

def Registration.integers : Registration → List Int
  | service s => [s.id, s.mappingId, s.addressId]
  | inst i => [i.id, i.serviceId, i.addressId]
  | endpoint e => [e.id, e.serviceId]

namespace Inventory

def register (inv : Inventory) : Registration → Inventory
  | .service s => inv.addService s
  | .inst i => inv.addInstance i
  | .endpoint e => inv.addEndpoint e

def ofRegistrations (entries : List Registration) : Inventory := entries.foldl register initial

/-! ### Documents -/

/-- The entries that a document lists. -/
structure Decoded (doc : Value) (ss : List Service) (is : List Instance) (es : List Endpoint) :
    Prop where
  services : entriesOf Service.ofValue doc "services" = .ok ss
  instances : entriesOf Instance.ofValue doc "serviceInstances" = .ok is
  endpoints : entriesOf Endpoint.ofValue doc "endpoints" = .ok es

/-- The inventory of listed entries, services first. -/
def ofLists (ss : List Service) (is : List Instance) (es : List Endpoint) : Inventory :=
  ofRegistrations (ss.map .service ++ is.map .inst ++ es.map .endpoint)

theorem ofEntries_ok_iff {doc : Value} {inv : Inventory} :
    ofEntries doc = .ok inv ↔ ∃ ss is es, Decoded doc ss is es ∧ inv = ofLists ss is es := by
  have folded : ∀ (ss : List Service) (is : List Instance) (es : List Endpoint),
      es.foldl addEndpoint (is.foldl addInstance (ss.foldl addService initial)) =
        ofLists ss is es := by
    intro ss is es
    simp only [ofLists, ofRegistrations, List.foldl_append, List.foldl_map]
    rfl
  unfold ofEntries
  constructor
  · intro read
    obtain ⟨ss, services, read⟩ := bind_ok_iff.mp read
    obtain ⟨is, instances, read⟩ := bind_ok_iff.mp read
    obtain ⟨es, endpoints, read⟩ := bind_ok_iff.mp read
    exact ⟨ss, is, es, ⟨services, instances, endpoints⟩,
      (pure_ok_iff.mp read).symm.trans (folded ss is es)⟩
  · rintro ⟨ss, is, es, ⟨services, instances, endpoints⟩, rfl⟩
    rw [services, instances, endpoints, ← folded]
    rfl

/-- A document is taken if it is an object whose lists can be decoded. -/
theorem ofValue_ok_iff {members : List (Text × Value)} {inv : Inventory} :
    ofValue (.object members) = .ok inv ↔
      ∃ ss is es, Decoded (.object members) ss is es ∧ inv = ofLists ss is es := by
  rw [← ofEntries_ok_iff, ofValue]
  cases ofEntries (.object members) with
  | error f =>
    constructor
    · intro read
      cases read
    · intro read
      cases read
  | ok found => exact Iff.rfl

/-! ### Registered identifiers -/

def HasService (inv : Inventory) (id : Int) : Prop := ∃ s, inv.services.get? id = some s

def HasInstance (inv : Inventory) (id : Int) : Prop := ∃ i, inv.instances.get? id = some i

def HasEndpoint (inv : Inventory) (id : Int) : Prop := ∃ e, inv.endpoints.get? id = some e

theorem get?_insert_of_some {ν : Type} {t : Table Int ν} {k k' : Int} {v w : ν}
    (present : t.get? k' = some w) : ∃ x, (t.insert k v).get? k' = some x := by
  rw [Table.get?_insert]
  split
  · exact ⟨v, rfl⟩
  · exact ⟨w, present⟩

theorem hasService_register {inv : Inventory} {id : Int} (r : Registration)
    (present : inv.HasService id) : (inv.register r).HasService id := by
  cases r with
  | service s =>
    obtain ⟨_, found⟩ := present
    exact get?_insert_of_some found
  | inst i => exact present
  | endpoint e => exact present

theorem hasInstance_register {inv : Inventory} {id : Int} (r : Registration)
    (present : inv.HasInstance id) : (inv.register r).HasInstance id := by
  cases r with
  | service s => exact present
  | inst i =>
    obtain ⟨_, found⟩ := present
    exact get?_insert_of_some found
  | endpoint e => exact present

theorem hasEndpoint_register {inv : Inventory} {id : Int} (r : Registration)
    (present : inv.HasEndpoint id) : (inv.register r).HasEndpoint id := by
  cases r with
  | service s => exact present
  | inst i => exact present
  | endpoint e =>
    obtain ⟨_, found⟩ := present
    exact get?_insert_of_some found

/-! ### Addresses lead to registered entries -/

/-- The user is registered, and so is whatever an address leads to. -/
structure Indexed (inv : Inventory) : Prop where
  userService : inv.HasService userId
  userInstance : inv.HasInstance userId
  userEndpoint : inv.HasEndpoint userId
  addressed : ∀ address id, inv.serviceIds.get? address = some id → inv.HasService id
  located : ∀ key id, inv.instanceIds.get? key = some id → inv.HasInstance id

theorem initial_indexed : Indexed initial where
  userService := ⟨_, rfl⟩
  userInstance := ⟨_, rfl⟩
  userEndpoint := ⟨_, rfl⟩
  addressed _ _ found := by cases found
  located _ _ found := by cases found

theorem register_indexed {inv : Inventory} (r : Registration) (h : Indexed inv) :
    Indexed (inv.register r) where
  userService := hasService_register r h.userService
  userInstance := hasInstance_register r h.userInstance
  userEndpoint := hasEndpoint_register r h.userEndpoint
  addressed := by
    intro address id found
    -- An address leads to the entry just registered or where it led before, and no number is lost.
    cases r with
    | service s =>
      by_cases none : s.addressId = noId
      · have old : inv.serviceIds.get? address = some id := by
          simpa only [register, addService, none, if_true] using found
        exact hasService_register (.service s) (h.addressed address id old)
      · simp only [register, addService, none, if_false, Table.get?_insert] at found
        split at found
        · cases found
          exact ⟨s, by simp [register, Table.get?_insert]⟩
        · exact hasService_register (.service s) (h.addressed address id found)
    | inst i => exact h.addressed address id found
    | endpoint e => exact h.addressed address id found
  located := by
    intro key id found
    cases r with
    | service s => exact h.located key id found
    | inst i =>
      by_cases none : i.addressId = noId
      · have old : inv.instanceIds.get? key = some id := by
          simpa only [register, addInstance, none, if_true] using found
        exact hasInstance_register (.inst i) (h.located key id old)
      · simp only [register, addInstance, none, if_false, Table.get?_insert] at found
        split at found
        · cases found
          exact ⟨i, by simp [register, Table.get?_insert]⟩
        · exact hasInstance_register (.inst i) (h.located key id found)
    | endpoint e => exact h.located key id found

theorem ofRegistrations_keeps {P : Inventory → Prop} {entries : List Registration}
    (start : P initial) (kept : ∀ inv, ∀ r ∈ entries, P inv → P (inv.register r)) :
    P (ofRegistrations entries) :=
  List.foldlRecOn entries register start fun inv h r member => kept inv r member h

theorem ofRegistrations_indexed (entries : List Registration) : Indexed (ofRegistrations entries) :=
  ofRegistrations_keeps initial_indexed fun _ r _ h => register_indexed r h

/-! ### Numbers that searches lead to -/

/-- Every number that a search leads to has a property. -/
structure LeadsTo (P : Int → Prop) (inv : Inventory) : Prop where
  mapped : ∀ id s, inv.services.get? id = some s → P s.mappingId
  owned : ∀ id i, inv.instances.get? id = some i → P i.serviceId
  addressed : ∀ address id, inv.serviceIds.get? address = some id → P id
  located : ∀ key id, inv.instanceIds.get? key = some id → P id

theorem register_leadsTo {P : Int → Prop} {inv : Inventory} {r : Registration}
    (numbers : ∀ n ∈ r.integers, P n) (h : LeadsTo P inv) : LeadsTo P (inv.register r) := by
  obtain ⟨mapped, owned, addressed, located⟩ := h
  cases r with
  | service s =>
    refine ⟨?_, owned, ?_, located⟩
    · intro id t found
      simp only [register, services_addService, Table.get?_insert] at found
      split at found
      · cases found
        exact numbers _ (by simp [Registration.integers])
      · exact mapped id t found
    · intro address id found
      simp only [register, addService] at found
      split at found
      · exact addressed address id found
      · rw [Table.get?_insert] at found
        split at found
        · cases found
          exact numbers _ (by simp [Registration.integers])
        · exact addressed address id found
  | inst i =>
    refine ⟨mapped, ?_, addressed, ?_⟩
    · intro id j found
      simp only [register, instances_addInstance, Table.get?_insert] at found
      split at found
      · cases found
        exact numbers _ (by simp [Registration.integers])
      · exact owned id j found
    · intro key id found
      simp only [register, addInstance] at found
      split at found
      · exact located key id found
      · rw [Table.get?_insert] at found
        split at found
        · cases found
          exact numbers _ (by simp [Registration.integers])
        · exact located key id found
  | endpoint e => exact ⟨mapped, owned, addressed, located⟩

theorem ofRegistrations_leadsTo {P : Int → Prop} {entries : List Registration} (absent : P noId)
    (user : P userId) (numbers : ∀ r ∈ entries, ∀ n ∈ r.integers, P n) :
    LeadsTo P (ofRegistrations entries) := by
  have empty : LeadsTo P ({} : Inventory) := by
    constructor
    all_goals
      intro key value found
      cases found
  have start : LeadsTo P initial := by
    refine register_leadsTo (r := .endpoint _) ?_
      (register_leadsTo (r := .inst _) ?_ (register_leadsTo (r := .service _) ?_ empty))
    all_goals simp [Registration.integers, absent, user]
  exact ofRegistrations_keeps start fun _ r member h => register_leadsTo (numbers r member) h

end Inventory

end TraceScope
