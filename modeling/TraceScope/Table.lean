/-!
# Tables in order of insertion

A table maps keys to values and lists them in the order in which the keys were first inserted. A
key keeps its place when it gets a new value.
-/

namespace TraceScope

/-- Keys and values in order of first insertion. -/
structure Table (κ ν : Type) where
  entries : List (κ × ν) := []
  deriving Repr

namespace Table

variable {κ ν : Type} [DecidableEq κ]

/-- Changes the value at a key, which is added at the end if it is missing. -/
def alterEntries (k : κ) (f : Option ν → ν) : List (κ × ν) → List (κ × ν)
  | [] => [(k, f none)]
  | (k', v) :: rest => if k' = k then (k', f (some v)) :: rest else (k', v) :: alterEntries k f rest

def alter (t : Table κ ν) (k : κ) (f : Option ν → ν) : Table κ ν := ⟨alterEntries k f t.entries⟩

def insert (t : Table κ ν) (k : κ) (v : ν) : Table κ ν := t.alter k fun _ => v

def lookup (k : κ) : List (κ × ν) → Option ν
  | [] => none
  | (k', v) :: rest => if k' = k then some v else lookup k rest

def get? (t : Table κ ν) (k : κ) : Option ν := lookup k t.entries

def erase (t : Table κ ν) (k : κ) : Table κ ν := ⟨t.entries.filter fun e => e.1 ≠ k⟩

def keys (t : Table κ ν) : List κ := t.entries.map (·.1)

def ofList (pairs : List (κ × ν)) : Table κ ν := pairs.foldl (fun t p => t.insert p.1 p.2) {}

theorem lookup_alterEntries (k k' : κ) (f : Option ν → ν) (es : List (κ × ν)) :
    lookup k' (alterEntries k f es) = if k = k' then some (f (lookup k es)) else lookup k' es := by
  induction es with
  | nil => simp [alterEntries, lookup]
  | cons e rest ih => grind [alterEntries, lookup]

theorem get?_alter (t : Table κ ν) (k k' : κ) (f : Option ν → ν) :
    (t.alter k f).get? k' = if k = k' then some (f (t.get? k)) else t.get? k' :=
  lookup_alterEntries k k' f t.entries

theorem get?_insert (t : Table κ ν) (k k' : κ) (v : ν) :
    (t.insert k v).get? k' = if k = k' then some v else t.get? k' :=
  get?_alter t k k' _

theorem lookup_filter_ne (k k' : κ) (es : List (κ × ν)) :
    lookup k' (es.filter fun e => e.1 ≠ k) = if k = k' then none else lookup k' es := by
  induction es with
  | nil => simp [lookup]
  | cons e rest ih => grind [lookup]

theorem get?_erase (t : Table κ ν) (k k' : κ) :
    (t.erase k).get? k' = if k = k' then none else t.get? k' :=
  lookup_filter_ne k k' t.entries

@[simp] theorem get?_empty (k : κ) : ({} : Table κ ν).get? k = none := rfl

theorem map_fst_alterEntries (k : κ) (f : Option ν → ν) (es : List (κ × ν)) :
    (alterEntries k f es).map (·.1) =
      if k ∈ es.map (·.1) then es.map (·.1) else es.map (·.1) ++ [k] := by
  induction es with
  | nil => simp [alterEntries]
  | cons e rest ih => grind [alterEntries]

theorem keys_alter (t : Table κ ν) (k : κ) (f : Option ν → ν) :
    (t.alter k f).keys = if k ∈ t.keys then t.keys else t.keys ++ [k] :=
  map_fst_alterEntries k f t.entries

/-- A key that is there keeps its place, a new one comes last. -/
theorem keys_insert (t : Table κ ν) (k : κ) (v : ν) :
    (t.insert k v).keys = if k ∈ t.keys then t.keys else t.keys ++ [k] :=
  keys_alter t k _

/-- No key is there twice. -/
theorem nodup_keys_alter (t : Table κ ν) (k : κ) (f : Option ν → ν) (distinct : t.keys.Nodup) :
    (t.alter k f).keys.Nodup := by
  rw [keys_alter]
  split
  · exact distinct
  · rename_i absent
    refine List.nodup_append.mpr ⟨distinct, List.pairwise_singleton _ _, ?_⟩
    rintro x present y added rfl
    obtain rfl := List.mem_singleton.mp added
    exact absent present

/-- A table in which no key is there twice is given by its keys and what is found at them. -/
theorem entries_eq_map_keys (t : Table κ ν) (default : ν) (distinct : t.keys.Nodup) :
    t.entries = t.keys.map fun k => (k, (t.get? k).getD default) := by
  obtain ⟨es⟩ := t
  simp only [keys, get?] at distinct ⊢
  induction es with
  | nil => rfl
  | cons e rest ih =>
    obtain ⟨k, v⟩ := e
    obtain ⟨fresh, distinct⟩ := List.nodup_cons.mp distinct
    have elsewhere : ∀ k' ∈ rest.map (·.1), lookup k' ((k, v) :: rest) = lookup k' rest := by
      intro k' member
      have other : k ≠ k' := fun same => fresh (same ▸ member)
      simp only [lookup, other, if_false]
    have later : (rest.map (·.1)).map (fun k' => (k', (lookup k' ((k, v) :: rest)).getD default)) =
        rest := by
      rw [List.map_congr_left fun k' member => by rw [elsewhere k' member], ← ih distinct]
    rw [List.map_cons, List.map_cons, later]
    simp [lookup]

end Table

end TraceScope
