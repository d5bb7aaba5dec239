import TraceScope.Inventory.Open
import TraceScope.Proofs.Registration

/-!
# What open inventories answer

While all identifiers and addresses are whole numbers, an open inventory answers every search as an
inventory does, by a key of any shape.
-/

namespace TraceScope

def Key.toInt? : Key → Option Int
  | .int n => some n
  | _ => none

namespace Inventory

theorem idOf_eq (v : Value) : idOf v = v.key.map Key.toInt? := by
  unfold idOf
  cases v.key with
  | error f => rfl
  | ok k => cases k <;> rfl

theorem found_map {α β : Type} (l : Lookup) (f : α → β) (o : Option α) :
    found l (o.map f) = (found l o).map f := by
  cases o <;> rfl

end Inventory

namespace OpenInventory

def register : Registration → Step OpenInventory
  | .service s => addService s.toOpen
  | .inst i => addInstance i.toOpen
  | .endpoint e => addEndpoint e.toOpen

/-! ### Tables under other keys -/

section Relabelled

variable {κ μ ν ξ : Type} [DecidableEq κ] [DecidableEq μ] {key : κ → μ} {unkey : μ → Option κ}

/-- Keys stand for others, no two for the same one. -/
def Encodes (key : κ → μ) (unkey : μ → Option κ) : Prop := ∀ k m, key k = m ↔ unkey m = some k

theorem encodes_int : Encodes Key.int Key.toInt? := by
  intro k m
  cases m with
  | int n =>
    exact ⟨fun same => congrArg some (Key.int.inj same).symm,
      fun same => congrArg Key.int (Option.some.inj same).symm⟩
  | _ => exact ⟨nofun, nofun⟩

theorem encodes_pair : Encodes (fun k : Int × Int => (Key.int k.1, Key.int k.2))
    (fun m => m.1.toInt?.bind fun s => m.2.toInt?.map fun a => (s, a)) := by
  rintro ⟨k, l⟩ ⟨m, n⟩
  constructor
  · intro same
    obtain ⟨rfl, rfl⟩ := Prod.mk.inj same
    rfl
  · intro same
    obtain ⟨a, first, rest⟩ := Option.bind_eq_some_iff.mp same
    obtain ⟨b, second, pair⟩ := Option.map_eq_some_iff.mp rest
    obtain ⟨rfl, rfl⟩ := Prod.mk.inj pair
    exact Prod.ext ((encodes_int a m).mpr first) ((encodes_int b n).mpr second)

/-- A key finds what the key that stands for it finds. -/
theorem get?_relabel (encodes : Encodes key unkey) (value : ν → ξ) (t : Table κ ν) (m : μ) :
    (relabel key value t).get? m = ((unkey m).bind t.get?).map value := by
  obtain ⟨entries⟩ := t
  induction entries with
  | nil => cases unkey m <;> rfl
  | cons e rest ih =>
    change (if key e.1 = m then some (value e.2) else (relabel key value ⟨rest⟩).get? m) = _
    by_cases same : key e.1 = m
    · rw [if_pos same, (encodes e.1 m).mp same]
      change _ = (if e.1 = e.1 then some e.2 else Table.lookup e.1 rest).map value
      rw [if_pos rfl]
      rfl
    · rw [if_neg same, ih]
      cases known : unkey m with
      | none => rfl
      | some l =>
        have other : e.1 ≠ l := fun here => same ((encodes e.1 m).mpr (here ▸ known))
        change _ = (if e.1 = l then some e.2 else Table.lookup l rest).map value
        rw [if_neg other]
        rfl

theorem relabel_insert (encodes : Encodes key unkey) (value : ν → ξ) (t : Table κ ν) (k : κ)
    (v : ν) : relabel key value (t.insert k v) = (relabel key value t).insert (key k) (value v) := by
  have distinct : ∀ l, key l = key k ↔ l = k := by
    intro l
    rw [encodes l (key k), (encodes k (key k)).mp rfl, Option.some_inj]
    exact eq_comm
  obtain ⟨entries⟩ := t
  have altered : (Table.alterEntries k (fun _ => v) entries).map (fun e => (key e.1, value e.2)) =
      Table.alterEntries (key k) (fun _ => value v)
        (entries.map fun e => (key e.1, value e.2)) := by
    induction entries with
    | nil => rfl
    | cons e rest ih =>
      rw [Table.alterEntries, List.map_cons, Table.alterEntries]
      by_cases same : e.1 = k
      · rw [if_pos same, if_pos ((distinct e.1).mpr same)]
        rfl
      · rw [if_neg same, if_neg (mt (distinct e.1).mp same), List.map_cons, ih]
  exact congrArg Table.mk altered

end Relabelled

/-! ### Registrations -/

theorem isAddress_int (n : Int) : isAddress (.int n) = decide (n ≠ noId) := by
  by_cases absent : n = noId <;> simp [isAddress, Value.key, absent]

theorem addService_ofInventory (inv : Inventory) (s : Service) :
    addService s.toOpen (ofInventory inv) = (ofInventory (inv.addService s), none) := by
  by_cases absent : s.addressId = noId
  · simp [addService, Service.toOpen, Value.key, Step.ofExcept, isAddress_int, absent, Step.update,
      ofInventory, Inventory.addService, relabel_insert encodes_int]
  · simp [addService, Service.toOpen, Value.key, Step.ofExcept, isAddress_int, absent, Step.update,
      Step.andThen, ofInventory, Inventory.addService, relabel_insert encodes_int]

theorem addInstance_ofInventory (inv : Inventory) (i : Instance) :
    addInstance i.toOpen (ofInventory inv) = (ofInventory (inv.addInstance i), none) := by
  by_cases absent : i.addressId = noId
  · simp [addInstance, Instance.toOpen, Value.key, Step.ofExcept, isAddress_int, absent,
      Step.update, ofInventory, Inventory.addInstance, relabel_insert encodes_int]
  · simp [addInstance, Instance.toOpen, Value.key, Step.ofExcept, isAddress_int, absent,
      Step.update, Step.andThen, ofInventory, Inventory.addInstance, relabel_insert encodes_int,
      relabel_insert encodes_pair]

theorem addEndpoint_ofInventory (inv : Inventory) (e : Endpoint) :
    addEndpoint e.toOpen (ofInventory inv) = (ofInventory (inv.addEndpoint e), none) := by
  simp [addEndpoint, Endpoint.toOpen, Value.key, Step.ofExcept, Step.update, ofInventory,
    Inventory.addEndpoint, relabel_insert encodes_int]

theorem register_ofInventory (inv : Inventory) (entry : Registration) :
    register entry (ofInventory inv) = (ofInventory (inv.register entry), none) := by
  cases entry with
  | service s => exact addService_ofInventory inv s
  | inst i => exact addInstance_ofInventory inv i
  | endpoint e => exact addEndpoint_ofInventory inv e

theorem each_register_ofInventory (inv : Inventory) (entries : List Registration) :
    Step.each register entries (ofInventory inv) =
      (ofInventory (entries.foldl Inventory.register inv), none) := by
  induction entries generalizing inv with
  | nil => rfl
  | cons entry rest ih =>
    rw [Step.each_cons, Step.andThen_ok (register_ofInventory inv entry), ih]
    rfl

/-! ### Searches -/

theorem search_relabel {ν ξ : Type} (value : ν → ξ) (t : Table Int ν) (l : Lookup) (v : Value) :
    search (relabel .int value t) l v = (Inventory.searchTable t l v).map value := by
  unfold search Inventory.searchTable
  rw [Inventory.idOf_eq]
  cases v.key with
  | error f => rfl
  | ok k =>
    change Inventory.found l ((relabel Key.int value t).get? k) = _
    rw [get?_relabel encodes_int, Inventory.found_map]
    rfl

theorem serviceInstanceAt_ofInventory (inv : Inventory) (service address : Value) :
    (ofInventory inv).serviceInstanceAt service address =
      (inv.searchInstanceAt service address).map .int := by
  unfold serviceInstanceAt Inventory.searchInstanceAt
  rw [Inventory.idOf_eq, Inventory.idOf_eq]
  cases service.key with
  | error f => rfl
  | ok s =>
    cases address.key with
    | error f => rfl
    | ok a =>
      change Inventory.found _ ((relabel (fun k : Int × Int => (Key.int k.1, Key.int k.2)) Value.int
        inv.instanceIds).get? (s, a)) = _
      rw [get?_relabel encodes_pair, Inventory.found_map]
      cases s with
      | int m => cases a <;> rfl
      | _ => rfl

/-- Entries that are told by whole numbers are all taken, and every search for them comes to what it
comes to in an inventory: what is found is the same, and so is the fault where nothing is. -/
theorem register_answers (inv : Inventory) (entries : List Registration) :
    let known := entries.foldl Inventory.register inv
    ∃ kept, Step.each register entries (ofInventory inv) = (kept, none) ∧
      (∀ id, kept.service id = (known.searchService id).map Service.toOpen) ∧
      (∀ address, kept.serviceAt address = (known.searchServiceAt address).map .int) ∧
      (∀ id, kept.serviceInstance id = (known.searchInstance id).map Instance.toOpen) ∧
      (∀ service address, kept.serviceInstanceAt service address =
        (known.searchInstanceAt service address).map .int) ∧
      ∀ id, kept.endpoint id = (known.searchEndpoint id).map Endpoint.toOpen :=
  ⟨_, each_register_ofInventory inv entries, fun _ => search_relabel .., fun _ => search_relabel ..,
    fun _ => search_relabel .., serviceInstanceAt_ofInventory _, fun _ => search_relabel ..⟩

end OpenInventory

end TraceScope
