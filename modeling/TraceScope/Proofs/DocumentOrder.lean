import Mathlib.Data.List.Nodup
import Mathlib.Data.List.Perm.Basic
import TraceScope.Proofs.Composition
import TraceScope.Proofs.Lookups

/-!
# Inventory documents in another order

Order decides between entries with one key. A document that has no two such entries may list its
entries in any order: the inventory answers the same.
-/

namespace TraceScope

variable {ε α β κ ν : Type} {items items' : List α}

/-! ### Lists in another order -/

theorem map_of_mapM {f : α → Except ε β} {bs : List β} (done : items.mapM f = .ok bs) :
    items.map f = bs.map .ok := by
  induction items generalizing bs with
  | nil =>
    obtain rfl := pure_ok_iff.mp done
    rfl
  | cons a rest ih =>
    rw [List.mapM_cons] at done
    obtain ⟨b, first, done⟩ := bind_ok_iff.mp done
    obtain ⟨later, remaining, done⟩ := bind_ok_iff.mp done
    obtain rfl := pure_ok_iff.mp done
    rw [List.map_cons, List.map_cons, first, ih remaining]

theorem mapM_perm {f : α → Except ε β} {bs : List β} (same : items.Perm items')
    (done : items.mapM f = .ok bs) : ∃ cs, items'.mapM f = .ok cs ∧ bs.Perm cs := by
  have each := mapM_succeeds.mp ⟨bs, done⟩
  obtain ⟨cs, done'⟩ := mapM_succeeds.mpr fun a member => each a (same.mem_iff.mpr member)
  have results := same.map f
  rw [map_of_mapM done, map_of_mapM done'] at results
  exact ⟨cs, done', (List.map_perm_map_iff fun _ _ => Except.ok.inj).mp results⟩

/-- An item that is the only one with a property is found, wherever it stands. -/
theorem find?_reverse_of_unique {p : α → Prop} [DecidablePred p]
    (unique : ∀ a ∈ items, ∀ b ∈ items, p a → p b → a = b) {a : α} :
    items.reverse.find? (fun b => p b) = some a ↔ a ∈ items ∧ p a := by
  constructor
  · intro found
    have holds : p a := by simpa using List.find?_some found
    exact ⟨List.mem_reverse.mp (List.mem_of_find?_eq_some found), holds⟩
  · rintro ⟨member, holds⟩
    cases found : items.reverse.find? fun b => p b with
    | none => exact absurd holds (find?_reverse_eq_none.mp found a member)
    | some b =>
      have there := List.mem_reverse.mp (List.mem_of_find?_eq_some found)
      have holds' : p b := by simpa using List.find?_some found
      rw [unique a member b there holds holds']

namespace Table

variable [DecidableEq κ]

/-- Items with distinct keys may be inserted in any order. -/
theorem get?_ofList_perm (first : List (κ × ν)) {key : α → κ} {value : α → ν}
    (same : items.Perm items') (distinct : (items.map key).Nodup) (k : κ) :
    (ofList (first ++ items.map fun a => (key a, value a))).get? k =
      (ofList (first ++ items'.map fun a => (key a, value a))).get? k := by
  have unique : ∀ a ∈ items, ∀ b ∈ items, key a = k → key b = k → a = b := by
    intro a member b member' here here'
    exact List.inj_on_of_nodup_map distinct member member' (here.trans here'.symm)
  have unique' : ∀ a ∈ items', ∀ b ∈ items', key a = k → key b = k → a = b := by
    intro a member b member'
    exact unique a (same.mem_iff.mpr member) b (same.mem_iff.mpr member')
  have found : (items.reverse.find? fun a => key a = k) =
      items'.reverse.find? fun a => key a = k := by
    ext a
    rw [find?_reverse_of_unique unique, find?_reverse_of_unique unique', same.mem_iff]
  simp only [get?_ofList, List.reverse_append, List.find?_append, ← List.map_reverse,
    List.find?_map, Function.comp_def, found]

end Table

namespace Inventory

/-! ### Documents and their lists -/

variable {members members' : List (Text × Value)} {ss ss' : List Service} {is is' : List Instance}
  {es es' : List Endpoint} {inv inv' : Inventory}

/-- What the lists are registered as, the user's entries being first. -/
theorem ofLists_filed (ss : List Service) (is : List Instance) (es : List Endpoint) :
    ∃ log, Filed log (ofLists ss is es) ∧
      servicesIn log = { id := userId, name := userName } :: ss ∧
      instancesIn log = { id := userId, name := userName, serviceId := userId } :: is ∧
      endpointsIn log = { id := userId, name := userName, serviceId := userId } :: es := by
  have services : servicesIn founding = [{ id := userId, name := userName }] := rfl
  have instances : instancesIn founding =
      [{ id := userId, name := userName, serviceId := userId }] := rfl
  have endpoints : endpointsIn founding =
      [{ id := userId, name := userName, serviceId := userId }] := rfl
  refine ⟨_, ofRegistrations_filed _, ?_, ?_, ?_⟩
  · rw [servicesIn, List.filterMap_append, ← servicesIn, services]
    simp [Function.comp_def, Registration.service?]
  · rw [instancesIn, List.filterMap_append, ← instancesIn, instances]
    simp [Function.comp_def, Registration.inst?]
  · rw [endpointsIn, List.filterMap_append, ← endpointsIn, endpoints]
    simp [Function.comp_def, Registration.endpoint?]

/-- The same value, or a list of the same values in another order. -/
inductive SameItems : Option Value → Option Value → Prop
  | same (v : Option Value) : SameItems v v
  | list {items items' : List Value} (perm : items.Perm items') :
      SameItems (some (.list items)) (some (.list items'))

theorem entriesOf_perm {read : Value → Except Fault α} {name : Text} {as : List α}
    (same : SameItems (Value.memberOf name members) (Value.memberOf name members'))
    (done : entriesOf read (.object members) name = .ok as) :
    ∃ bs, entriesOf read (.object members') name = .ok bs ∧ as.Perm bs := by
  have opened : ∀ m, entriesOf read (.object m) name =
      ((Value.memberOf name m).getD (.list [])).elements >>= (·.mapM read) := fun _ => rfl
  rw [opened] at done ⊢
  generalize Value.memberOf name members = v at same done
  generalize Value.memberOf name members' = v' at same
  cases same with
  | same v => exact ⟨as, done, .refl as⟩
  | list perm => exact mapM_perm perm done

/-- The same lists in another order. -/
structure Reordered (members members' : List (Text × Value)) : Prop where
  services : SameItems (Value.memberOf "services" members) (Value.memberOf "services" members')
  instances : SameItems (Value.memberOf "serviceInstances" members)
    (Value.memberOf "serviceInstances" members')
  endpoints : SameItems (Value.memberOf "endpoints" members) (Value.memberOf "endpoints" members')

/-! ### Documents whose order does not matter -/

/-- No two entries of a document have one number, or one address. -/
structure Unambiguous (ss : List Service) (is : List Instance) (es : List Endpoint) : Prop where
  services : (ss.map (·.id)).Nodup
  addresses : ((ss.filter (·.addressId ≠ noId)).map (·.addressId)).Nodup
  instances : (is.map (·.id)).Nodup
  locations : ((is.filter (·.addressId ≠ noId)).map fun i => (i.serviceId, i.addressId)).Nodup
  endpoints : (es.map (·.id)).Nodup

structure SameAnswers (inv inv' : Inventory) : Prop where
  service : ∀ id, inv.searchService id = inv'.searchService id
  serviceAt : ∀ address, inv.searchServiceAt address = inv'.searchServiceAt address
  mapping : ∀ id, inv.mapping id = inv'.mapping id
  inst : ∀ id, inv.searchInstance id = inv'.searchInstance id
  instanceAt : ∀ service address,
    inv.searchInstanceAt service address = inv'.searchInstanceAt service address
  endpoint : ∀ id, inv.searchEndpoint id = inv'.searchEndpoint id

theorem sameAnswers_of_tables (services : inv.services.get? = inv'.services.get?)
    (serviceIds : inv.serviceIds.get? = inv'.serviceIds.get?)
    (instances : inv.instances.get? = inv'.instances.get?)
    (instanceIds : inv.instanceIds.get? = inv'.instanceIds.get?)
    (endpoints : inv.endpoints.get? = inv'.endpoints.get?) : SameAnswers inv inv' where
  service id := by rw [searchService, searchTable, services]; rfl
  serviceAt address := by rw [searchServiceAt, searchTable, serviceIds]; rfl
  mapping id := by rw [mapping_found, services, mapping_found]
  inst id := by rw [searchInstance, searchTable, instances]; rfl
  instanceAt service address := by rw [searchInstanceAt, instanceIds]; rfl
  endpoint id := by rw [searchEndpoint, searchTable, endpoints]; rfl

theorem ofLists_perm (distinct : Unambiguous ss is es) (services : ss.Perm ss')
    (instances : is.Perm is') (endpoints : es.Perm es') :
    SameAnswers (ofLists ss is es) (ofLists ss' is' es') := by
  obtain ⟨log, filed, hs, hi, he⟩ := ofLists_filed ss is es
  obtain ⟨log', filed', hs', hi', he'⟩ := ofLists_filed ss' is' es'
  refine sameAnswers_of_tables ?_ ?_ ?_ ?_ ?_
  · funext id
    rw [filed.services, filed'.services, hs, hs']
    exact Table.get?_ofList_perm [_] services distinct.services id
  · funext address
    rw [filed.serviceIds, filed'.serviceIds, hs, hs']
    exact Table.get?_ofList_perm [] (services.filter _) distinct.addresses address
  · funext id
    rw [filed.instances, filed'.instances, hi, hi']
    exact Table.get?_ofList_perm [_] instances distinct.instances id
  · funext key
    rw [filed.instanceIds, filed'.instanceIds, hi, hi']
    exact Table.get?_ofList_perm [] (instances.filter _) distinct.locations key
  · funext id
    rw [filed.endpoints, filed'.endpoints, he, he']
    exact Table.get?_ofList_perm [_] endpoints distinct.endpoints id

/-- A document that is taken, and in which no two entries have one number or one address, is taken
in every order of its lists, and its inventory answers every search the same. -/
theorem document_order_irrelevant (taken : ofValue (.object members) = .ok inv)
    (distinct : ∀ ss is es, Decoded (.object members) ss is es → Unambiguous ss is es)
    (reordered : Reordered members members') :
    ∃ inv', ofValue (.object members') = .ok inv' ∧ SameAnswers inv inv' := by
  obtain ⟨ss, is, es, listed, rfl⟩ := ofValue_ok_iff.mp taken
  obtain ⟨ss', services, samess⟩ := entriesOf_perm reordered.services listed.services
  obtain ⟨is', instances, sameis⟩ := entriesOf_perm reordered.instances listed.instances
  obtain ⟨es', endpoints, samees⟩ := entriesOf_perm reordered.endpoints listed.endpoints
  refine ⟨ofLists ss' is' es', ?_, ofLists_perm (distinct ss is es listed) samess sameis samees⟩
  exact ofValue_ok_iff.mpr ⟨ss', is', es', ⟨services, instances, endpoints⟩, rfl⟩

def shopServices : List Service :=
  [{ id := 1, name := .text "shop" }, { id := 2, name := .text "cart", addressId := 4 }]

def shopInstances : List Instance :=
  [{ id := 1, name := .text "shop-1", serviceId := 1, addressId := 4 },
    { id := 8, name := .text "cart-1", serviceId := 2, addressId := 4 }]

/-- A document in which the shop takes the user's number, with its lists in some order. -/
def shop (order : List Value → List Value) : List (Text × Value) :=
  [("services", .list (order
      [.object [("id", .int 1), ("name", .text "shop")],
        .object [("id", .text "2"), ("name", .text "cart"), ("addressId", .int 4)]])),
    ("serviceInstances", .list (order
      [.object [("id", .int 1), ("name", .text "shop-1"), ("serviceId", .int 1),
          ("addressId", .int 4)],
        .object [("id", .int 8), ("name", .text "cart-1"), ("serviceId", .text "2"),
          ("addressId", .int 4)]]))]

theorem shop_reversed :
    ofValue (.object (shop id)) = .ok (ofLists shopServices shopInstances []) ∧
      (∀ ss is es, Decoded (.object (shop id)) ss is es → Unambiguous ss is es) ∧
      Reordered (shop id) (shop List.reverse) ∧
      ∃ inv', ofValue (.object (shop List.reverse)) = .ok inv' ∧
        SameAnswers (ofLists shopServices shopInstances []) inv' := by
  have listed : Decoded (.object (shop id)) shopServices shopInstances [] := ⟨rfl, rfl, rfl⟩
  have taken : ofValue (.object (shop id)) = .ok (ofLists shopServices shopInstances []) :=
    ofValue_ok_iff.mpr ⟨_, _, _, listed, rfl⟩
  have distinct : ∀ ss is es, Decoded (.object (shop id)) ss is es → Unambiguous ss is es := by
    intro ss is es ⟨services, instances, endpoints⟩
    obtain rfl := Except.ok.inj (listed.services.symm.trans services)
    obtain rfl := Except.ok.inj (listed.instances.symm.trans instances)
    obtain rfl := Except.ok.inj (listed.endpoints.symm.trans endpoints)
    exact ⟨by decide, by decide, by decide, by decide, by decide⟩
  have reordered : Reordered (shop id) (shop List.reverse) :=
    ⟨.list (List.reverse_perm _).symm, .list (List.reverse_perm _).symm, .same none⟩
  exact ⟨taken, distinct, reordered, document_order_irrelevant taken distinct reordered⟩

end Inventory

end TraceScope
