import Mathlib.Data.List.Induction
import TraceScope.Proofs.Registration

/-!
# Lookups and the registrations before them

What a search finds is told by the registrations alone: the last entry with a number counts, and the
last one with an address. An address goes on leading to an entry that has since been registered anew
elsewhere, so the two need not agree.
-/

namespace TraceScope

variable {α β κ ν : Type}

/-! ### The last of a list -/

/-- The last item of a list that has a property. -/
def LastWith (p : α → Prop) (items : List α) (a : α) : Prop :=
  ∃ before after, items = before ++ a :: after ∧ p a ∧ ∀ b ∈ after, ¬ p b

variable {p : α → Prop} [DecidablePred p] {items : List α}

theorem find?_reverse_eq_some {a : α} :
    items.reverse.find? (fun b => p b) = some a ↔ LastWith p items a := by
  rw [List.find?_eq_some_iff_append]
  constructor
  · rintro ⟨holds, after, before, split, none⟩
    refine ⟨before.reverse, after.reverse, ?_, of_decide_eq_true holds, ?_⟩
    · rw [← List.reverse_reverse items, split]
      simp
    · intro b member
      simpa using none b (List.mem_reverse.mp member)
  · rintro ⟨before, after, rfl, holds, none⟩
    refine ⟨decide_eq_true holds, after.reverse, before.reverse, by simp, ?_⟩
    intro b member
    simpa using none b (List.mem_reverse.mp member)

theorem find?_reverse_eq_none :
    items.reverse.find? (fun b => p b) = none ↔ ∀ a ∈ items, ¬ p a := by
  simp

theorem exists_last {a : α} (member : a ∈ items) (holds : p a) : ∃ last, LastWith p items last := by
  cases found : items.reverse.find? (fun b => p b) with
  | some last => exact ⟨last, find?_reverse_eq_some.mp found⟩
  | none => exact absurd holds (find?_reverse_eq_none.mp found a member)

/-- Either an item of the rest is the last one, or the rest has none. -/
theorem LastWith.rest {before after : List α} {a last : α}
    (h : LastWith p (before ++ a :: after) last) (holds : p a) :
    last ∈ after ∧ p last ∨ last = a ∧ ∀ b ∈ after, ¬ p b := by
  rw [← find?_reverse_eq_some, List.reverse_append, List.reverse_cons, List.append_assoc,
    List.find?_append] at h
  cases found : after.reverse.find? (fun b => p b) with
  | some b =>
    rw [found] at h
    obtain rfl : b = last := Option.some.inj h
    refine .inl ⟨List.mem_reverse.mp (List.mem_of_find?_eq_some found), ?_⟩
    simpa using List.find?_some found
  | none =>
    rw [found] at h
    refine .inr ⟨?_, find?_reverse_eq_none.mp found⟩
    simpa [holds, eq_comm] using h

/-! ### Tables of pairs -/

namespace Table

variable [DecidableEq κ]

theorem ofList_concat (pairs : List (κ × ν)) (k : κ) (v : ν) :
    ofList (pairs ++ [(k, v)]) = (ofList pairs).insert k v := by
  simp [ofList]

/-- The last pair of a key counts. -/
theorem get?_ofList (pairs : List (κ × ν)) (k : κ) :
    (ofList pairs).get? k = (pairs.reverse.find? fun e => e.1 = k).map (·.2) := by
  induction pairs using List.reverseRecOn with
  | nil => rfl
  | append_singleton pairs e ih =>
    obtain ⟨k', v⟩ := e
    rw [ofList_concat, get?_insert, ih]
    by_cases same : k' = k
    · simp [same]
    · simp [same]

theorem get?_ofList_map (key : α → κ) (value : α → ν) (items : List α) (k : κ) :
    (ofList (items.map fun a => (key a, value a))).get? k =
      (items.reverse.find? fun a => key a = k).map value := by
  rw [get?_ofList, ← List.map_reverse, List.find?_map, Option.map_map]
  rfl

end Table

/-! ### Logs of registrations -/

def Registration.service? : Registration → Option Service
  | service s => some s
  | _ => none

def Registration.inst? : Registration → Option Instance
  | inst i => some i
  | _ => none

def Registration.endpoint? : Registration → Option Endpoint
  | endpoint e => some e
  | _ => none

namespace Inventory

/-- The registrations of the user, which come before all others. -/
def founding : List Registration :=
  [.service { id := userId, name := userName },
    .inst { id := userId, name := userName, serviceId := userId },
    .endpoint { id := userId, name := userName, serviceId := userId }]

def servicesIn (log : List Registration) : List Service := log.filterMap Registration.service?

def instancesIn (log : List Registration) : List Instance := log.filterMap Registration.inst?

def endpointsIn (log : List Registration) : List Endpoint := log.filterMap Registration.endpoint?

/-- The tables hold what a log says. -/
structure Filed (log : List Registration) (inv : Inventory) : Prop where
  services : inv.services = .ofList ((servicesIn log).map fun s => (s.id, s))
  serviceIds : inv.serviceIds =
    .ofList (((servicesIn log).filter (·.addressId ≠ noId)).map fun s => (s.addressId, s.id))
  instances : inv.instances = .ofList ((instancesIn log).map fun i => (i.id, i))
  instanceIds : inv.instanceIds = .ofList (((instancesIn log).filter (·.addressId ≠ noId)).map
    fun i => ((i.serviceId, i.addressId), i.id))
  endpoints : inv.endpoints = .ofList ((endpointsIn log).map fun e => (e.id, e))

variable {log : List Registration} {inv : Inventory}

theorem empty_filed : Filed [] {} := ⟨rfl, rfl, rfl, rfl, rfl⟩

theorem servicesIn_concat (r : Registration) :
    servicesIn (log ++ [r]) = servicesIn log ++ r.service?.toList := by
  cases r <;> simp [servicesIn, Registration.service?]

theorem instancesIn_concat (r : Registration) :
    instancesIn (log ++ [r]) = instancesIn log ++ r.inst?.toList := by
  cases r <;> simp [instancesIn, Registration.inst?]

theorem endpointsIn_concat (r : Registration) :
    endpointsIn (log ++ [r]) = endpointsIn log ++ r.endpoint?.toList := by
  cases r <;> simp [endpointsIn, Registration.endpoint?]

theorem register_filed (r : Registration) (h : Filed log inv) :
    Filed (log ++ [r]) (inv.register r) := by
  obtain ⟨services, serviceIds, instances, instanceIds, endpoints⟩ := h
  constructor
  · rw [servicesIn_concat]
    cases r <;> simp [register, Registration.service?, Table.ofList_concat, services, addInstance,
      addEndpoint]
  · rw [servicesIn_concat]
    cases r with
    | service s => by_cases none : s.addressId = noId <;>
        simp [register, addService, Registration.service?, Table.ofList_concat, serviceIds, none]
    | inst i => simp [register, addInstance, Registration.service?, serviceIds]
    | endpoint e => simp [register, addEndpoint, Registration.service?, serviceIds]
  · rw [instancesIn_concat]
    cases r <;> simp [register, Registration.inst?, Table.ofList_concat, instances, addService,
      addEndpoint]
  · rw [instancesIn_concat]
    cases r with
    | inst i => by_cases none : i.addressId = noId <;>
        simp [register, addInstance, Registration.inst?, Table.ofList_concat, instanceIds, none]
    | service s => simp [register, addService, Registration.inst?, instanceIds]
    | endpoint e => simp [register, addEndpoint, Registration.inst?, instanceIds]
  · rw [endpointsIn_concat]
    cases r <;> simp [register, Registration.endpoint?, Table.ofList_concat, endpoints, addService,
      addInstance]

theorem registrations_filed (h : Filed log inv) (entries : List Registration) :
    Filed (log ++ entries) (entries.foldl register inv) := by
  induction entries generalizing log inv with
  | nil => simpa using h
  | cons r rest ih => simpa using ih (register_filed r h)

theorem ofRegistrations_filed (entries : List Registration) :
    Filed (founding ++ entries) (ofRegistrations entries) :=
  registrations_filed (registrations_filed empty_filed founding) entries

/-- A service or an instance under its address, which is one. -/
theorem find?_located {key : α → κ} [DecidableEq κ] {address : α → Int} {a : Int} {k : κ}
    (same : ∀ i, key i = k → address i = a) (items : List α) :
    ((items.filter fun i => address i ≠ noId).reverse.find? fun i => key i = k) =
      items.reverse.find? fun i => a ≠ noId ∧ key i = k := by
  rw [← List.filter_reverse, List.find?_filter]
  congr 1
  funext i
  by_cases here : key i = k
  · simp [here, same i here]
  · simp [here]

namespace Filed

theorem service (h : Filed log inv) (id : Int) :
    inv.services.get? id = (servicesIn log).reverse.find? fun s => s.id = id := by
  rw [h.services, Table.get?_ofList_map, Option.map_id']

theorem serviceAt (h : Filed log inv) (address : Int) : inv.serviceIds.get? address =
    ((servicesIn log).reverse.find? fun s => address ≠ noId ∧ s.addressId = address).map
      (·.id) := by
  rw [h.serviceIds, Table.get?_ofList_map, find?_located fun _ same => same]

theorem inst (h : Filed log inv) (id : Int) :
    inv.instances.get? id = (instancesIn log).reverse.find? fun i => i.id = id := by
  rw [h.instances, Table.get?_ofList_map, Option.map_id']

theorem instanceAt (h : Filed log inv) (service address : Int) :
    inv.instanceIds.get? (service, address) = ((instancesIn log).reverse.find? fun i =>
      address ≠ noId ∧ i.serviceId = service ∧ i.addressId = address).map (·.id) := by
  rw [h.instanceIds, Table.get?_ofList_map, find?_located fun _ same => congrArg Prod.snd same]
  simp only [Prod.mk.injEq]

theorem endpoint (h : Filed log inv) (id : Int) :
    inv.endpoints.get? id = (endpointsIn log).reverse.find? fun e => e.id = id := by
  rw [h.endpoints, Table.get?_ofList_map, Option.map_id']

end Filed

/-! ### Searches in a log -/

/-- A search finds what the last item with a property shows, and tells its key if there is none. -/
structure Finds (result : Except Fault β) (lookup : Lookup) (p : α → Prop) (items : List α)
    (view : α → β) : Prop where
  found : ∀ b, result = .ok b ↔ ∃ a, LastWith p items a ∧ view a = b
  missing : result = .error (.unresolved lookup) ↔ ∀ a ∈ items, ¬ p a

theorem found_finds {o : Option β} {lookup : Lookup} {view : α → β}
    (written : ∀ v ∈ lookup.keyParts, ∃ n, v = .int n ∧ Integer.isWritable n = true)
    (last : o = (items.reverse.find? fun a => p a).map view) :
    Finds (found lookup o) lookup p items view := by
  constructor
  · intro b
    rw [found_eq_ok, last, Option.map_eq_some_iff]
    simp only [find?_reverse_eq_some]
  · rw [← find?_reverse_eq_none, last]
    cases items.reverse.find? (fun a => p a) with
    | some a => simp [found]
    | none =>
      have told : unresolved lookup = .unresolved lookup := by
        refine if_pos (List.all_eq_true.mpr fun v member => ?_)
        obtain ⟨n, rfl, short⟩ := written v member
        exact short
      simp [found, told]

theorem mapping_found (inv : Inventory) (id : Int) : inv.mapping id =
    found (.service (.int id)) ((inv.services.get? id).map (·.mappingId)) := by
  unfold mapping service
  cases inv.services.get? id <;> rfl

/-- Searches answer by a log: the last entry with a number counts, and the last one with an address
unless that stands for none. -/
structure Follows (log : List Registration) (inv : Inventory) : Prop where
  service : ∀ id, Integer.isWritable id = true →
    Finds (inv.service id) (.service (.int id)) (·.id = id) (servicesIn log) fun s => s
  mapping : ∀ id, Integer.isWritable id = true →
    Finds (inv.mapping id) (.service (.int id)) (·.id = id) (servicesIn log) (·.mappingId)
  serviceAt : ∀ address, Integer.isWritable address = true →
    Finds (inv.serviceAt address) (.serviceAt (.int address))
      (fun s => address ≠ noId ∧ s.addressId = address) (servicesIn log) (·.id)
  inst : ∀ id, Integer.isWritable id = true →
    Finds (inv.serviceInstance id) (.serviceInstance (.int id)) (·.id = id) (instancesIn log)
      fun i => i
  instanceAt : ∀ service address, Integer.isWritable service = true →
    Integer.isWritable address = true →
    Finds (inv.serviceInstanceAt service address)
      (.serviceInstanceAt (.int service) (.int address))
      (fun i => address ≠ noId ∧ i.serviceId = service ∧ i.addressId = address)
      (instancesIn log) (·.id)
  endpoint : ∀ id, Integer.isWritable id = true →
    Finds (inv.endpoint id) (.endpoint (.int id)) (·.id = id) (endpointsIn log) fun e => e

theorem Filed.follows (h : Filed log inv) : Follows log inv := by
  have one : ∀ n : Int, Integer.isWritable n = true →
      ∀ v ∈ [Value.int n], ∃ m, v = .int m ∧ Integer.isWritable m = true := by
    intro n short v member
    exact ⟨n, List.mem_singleton.mp member, short⟩
  constructor
  · intro id short
    exact found_finds (one id short) (by simp [h.service])
  · intro id short
    rw [mapping_found, h.service]
    exact found_finds (one id short) rfl
  · intro address short
    exact found_finds (one address short) (h.serviceAt address)
  · intro id short
    exact found_finds (one id short) (by simp [h.inst])
  · intro service address short short'
    refine found_finds (fun v member => ?_) (h.instanceAt service address)
    rcases List.mem_cons.mp member with rfl | member
    · exact ⟨service, rfl, short⟩
    · exact one address short' v member
  · intro id short
    exact found_finds (one id short) (by simp [h.endpoint])

/-- Searches answer by the registrations, the user's being first. The user is always there, and so
is what an address leads to. -/
theorem searches_follow_registrations (entries : List Registration) :
    Follows (founding ++ entries) (ofRegistrations entries) ∧
      ((∃ s, (ofRegistrations entries).service userId = .ok s) ∧
        (∃ i, (ofRegistrations entries).serviceInstance userId = .ok i) ∧
        ∃ e, (ofRegistrations entries).endpoint userId = .ok e) ∧
      (∀ address id, (ofRegistrations entries).serviceAt address = .ok id →
        (∃ s, (ofRegistrations entries).service id = .ok s) ∧
        ∃ m, (ofRegistrations entries).mapping id = .ok m) ∧
      ∀ service address id, (ofRegistrations entries).serviceInstanceAt service address = .ok id →
        ∃ i, (ofRegistrations entries).serviceInstance id = .ok i := by
  obtain ⟨⟨s, user⟩, ⟨i, userInstance⟩, ⟨e, userEndpoint⟩, addressed, located⟩ :=
    ofRegistrations_indexed entries
  refine ⟨(ofRegistrations_filed entries).follows, ⟨⟨s, found_eq_ok.mpr user⟩,
    ⟨i, found_eq_ok.mpr userInstance⟩, e, found_eq_ok.mpr userEndpoint⟩, ?_, ?_⟩
  · intro address id there
    obtain ⟨s, present⟩ := addressed address id (found_eq_ok.mp there)
    refine ⟨⟨s, found_eq_ok.mpr present⟩, s.mappingId, ?_⟩
    rw [mapping_found, present]
    rfl
  · intro service address id there
    obtain ⟨i, present⟩ := located _ id (found_eq_ok.mp there)
    exact ⟨i, found_eq_ok.mpr present⟩

/-- A service and its instance move from address 4 to address 9. -/
def movedCart : List Registration :=
  [.service { id := 7, name := .text "cart", addressId := 4 },
    .inst { id := 8, name := .text "cart-1", serviceId := 7, addressId := 4 },
    .service { id := 7, name := .text "cart", addressId := 9 },
    .inst { id := 8, name := .text "cart-1", serviceId := 7, addressId := 9 }]

/-- Service 7 is found after its move, and no service was ever at address 5. -/
theorem movedCart_searches :
    (Finds ((ofRegistrations movedCart).service 7) (.service (.int 7)) (·.id = 7)
        (servicesIn (founding ++ movedCart)) fun s => s) ∧
      (∃ s, (ofRegistrations movedCart).service 7 = .ok s) ∧
      (ofRegistrations movedCart).serviceAt 5 = .error (.unresolved (.serviceAt (.int 5))) := by
  obtain ⟨follows, -, addressed, -⟩ := searches_follow_registrations movedCart
  have short : Integer.isWritable 7 = true := Integer.isWritable_of_lt (by decide)
  have short' : Integer.isWritable 5 = true := Integer.isWritable_of_lt (by decide)
  refine ⟨follows.service 7 short, (addressed 4 7 rfl).1, (follows.serviceAt 5 short').missing.mpr ?_⟩
  decide

/-! ### Entries that moved -/

/-- What an address leads to is registered with that address. -/
structure AddressesAgree (inv : Inventory) : Prop where
  service : ∀ address id, inv.serviceAt address = .ok id →
    ∃ s, inv.service id = .ok s ∧ s.addressId = address
  inst : ∀ service address id, inv.serviceInstanceAt service address = .ok id →
    ∃ i, inv.serviceInstance id = .ok i ∧ i.serviceId = service ∧ i.addressId = address

theorem movedCart_disagrees :
    (ofRegistrations movedCart).serviceAt 4 = .ok 7 ∧
      ((ofRegistrations movedCart).service 7).map (·.addressId) = .ok 9 ∧
      (ofRegistrations movedCart).serviceInstanceAt 7 4 = .ok 8 ∧
      ((ofRegistrations movedCart).serviceInstance 8).map (·.addressId) = .ok 9 ∧
      ¬ AddressesAgree (ofRegistrations movedCart) := by
  refine ⟨rfl, rfl, rfl, rfl, fun agree => ?_⟩
  obtain ⟨s, now, here⟩ := agree.service 4 7 rfl
  cases now
  exact absurd here (by decide)

/-- An item is the last at a place. What now goes by its key is at that place as well exactly if
the key has not been given anew. -/
def Settled (here same : α → Prop) (items : List α) (now : α) : Prop :=
  ∃ before a after, items = before ++ a :: after ∧ here a ∧ same a ∧ (∀ b ∈ after, ¬ here b) ∧
    (here now ↔ ∀ b ∈ after, ¬ same b)

/-- Another address keeps what it leads to. -/
theorem serviceAt_register {inv : Inventory} {r : Registration} {address : Int}
    (elsewhere : ∀ s, r = .service s → s.addressId ≠ address) :
    (inv.register r).serviceAt address = inv.serviceAt address := by
  cases r with
  | service s =>
    have other : s.addressId ≠ address := elsewhere s rfl
    unfold serviceAt register addService
    by_cases none : s.addressId = noId
    · simp [none]
    · simp [none, Table.get?_insert, other]
  | inst i => rfl
  | endpoint e => rfl

theorem serviceInstanceAt_register {inv : Inventory} {r : Registration} {service address : Int}
    (elsewhere : ∀ i, r = .inst i → ¬ (i.serviceId = service ∧ i.addressId = address)) :
    (inv.register r).serviceInstanceAt service address = inv.serviceInstanceAt service address := by
  cases r with
  | inst i =>
    have other : ¬ (i.serviceId = service ∧ i.addressId = address) := elsewhere i rfl
    unfold serviceInstanceAt register addInstance
    by_cases none : i.addressId = noId
    · simp [none]
    · simp [none, Table.get?_insert, other]
  | service s => rfl
  | endpoint e => rfl

/-- What a place shows is settled, if its key is found. -/
theorem settled_of_found {here : α → Prop} [DecidablePred here] {key : α → Int} {items : List α}
    {now : α} {place : Prop} [Decidable place] {id : Int}
    (there : (items.reverse.find? fun a => place ∧ here a).map key = some id)
    (known : (items.reverse.find? fun a => key a = id) = some now) :
    Settled here (key · = id) items now := by
  obtain ⟨a, last, rfl⟩ := Option.map_eq_some_iff.mp there
  obtain ⟨before, after, rfl, ⟨meant, placed⟩, left⟩ := find?_reverse_eq_some.mp last
  have left : ∀ b ∈ after, ¬ here b := fun b member same => left b member ⟨meant, same⟩
  refine ⟨before, a, after, rfl, placed, rfl, left, ?_⟩
  rcases (find?_reverse_eq_some.mp known).rest rfl with ⟨member, again⟩ | ⟨rfl, never⟩
  · exact iff_of_false (left now member) fun never => never now member again
  · exact iff_of_true placed never

/-- An address leads to the last entry registered there. That entry has left it exactly if its number
has been registered anew, and the address leads to it until another is registered there. -/
theorem addresses_settled (entries : List Registration) :
    (∀ address id, (ofRegistrations entries).serviceAt address = .ok id →
      ∃ now, (ofRegistrations entries).service id = .ok now ∧
        Settled (·.addressId = address) (·.id = id) (servicesIn (founding ++ entries)) now) ∧
      (∀ service address id, (ofRegistrations entries).serviceInstanceAt service address = .ok id →
        ∃ now, (ofRegistrations entries).serviceInstance id = .ok now ∧
          Settled (fun i => i.serviceId = service ∧ i.addressId = address) (·.id = id)
            (instancesIn (founding ++ entries)) now) ∧
      (∀ r address, (∀ s, r = .service s → s.addressId ≠ address) →
        (ofRegistrations (entries ++ [r])).serviceAt address =
          (ofRegistrations entries).serviceAt address) ∧
      ∀ r service address,
        (∀ i, r = .inst i → ¬ (i.serviceId = service ∧ i.addressId = address)) →
        (ofRegistrations (entries ++ [r])).serviceInstanceAt service address =
          (ofRegistrations entries).serviceInstanceAt service address := by
  have filed := ofRegistrations_filed entries
  have indexed := ofRegistrations_indexed entries
  refine ⟨?_, ?_, ?_, ?_⟩
  · intro address id there
    rw [serviceAt, found_eq_ok] at there
    obtain ⟨now, present⟩ := indexed.addressed address id there
    rw [filed.serviceAt] at there
    exact ⟨now, found_eq_ok.mpr present,
      settled_of_found there ((filed.service id).symm.trans present)⟩
  · intro service address id there
    rw [serviceInstanceAt, found_eq_ok] at there
    obtain ⟨now, present⟩ := indexed.located _ id there
    rw [filed.instanceAt] at there
    exact ⟨now, found_eq_ok.mpr present,
      settled_of_found there ((filed.inst id).symm.trans present)⟩
  · intro r address elsewhere
    simp only [ofRegistrations, List.foldl_append, List.foldl_cons, List.foldl_nil]
    exact serviceAt_register elsewhere
  · intro r service address elsewhere
    simp only [ofRegistrations, List.foldl_append, List.foldl_cons, List.foldl_nil]
    exact serviceInstanceAt_register elsewhere

theorem movedCart_settled :
    (∃ now, (ofRegistrations movedCart).service 7 = .ok now ∧
        Settled (·.addressId = 4) (·.id = 7) (servicesIn (founding ++ movedCart)) now) ∧
      (∃ now, (ofRegistrations movedCart).serviceInstance 8 = .ok now ∧
        Settled (fun i => i.serviceId = 7 ∧ i.addressId = 4) (·.id = 8)
          (instancesIn (founding ++ movedCart)) now) ∧
      (ofRegistrations (movedCart ++ [.service { id := 7, name := .text "cart" }])).serviceAt 9 =
        (ofRegistrations movedCart).serviceAt 9 := by
  obtain ⟨services, instances, kept, -⟩ := addresses_settled movedCart
  refine ⟨services 4 7 rfl, instances 7 4 8 rfl, kept _ 9 ?_⟩
  rintro _ ⟨⟩
  decide

end Inventory

end TraceScope
