import Mathlib.Algebra.BigOperators.Group.List.Basic
import Mathlib.Algebra.Ring.Int.Defs
import Mathlib.Data.List.Induction
import TraceScope.Proofs.Counting

/-!
# Calls by caller and callee

The rows of a report gather the calls of the same two services as seen from the same end. Where
services have names, no call is lost: there is one row for each such group, in the order in which
the groups first came, and it sums up the calls of its group.
-/

namespace TraceScope

/-! ### Names as keys -/

def Value.nameKey : Value → Key
  | .text t => .text t
  | _ => .null

def Key.name : Key → Value
  | .text t => .text t
  | _ => .null

theorem Value.IsName.key {v : Value} (h : v.IsName) : v.key = .ok v.nameKey := by
  cases h with
  | null => rfl
  | text t => rfl

theorem Value.IsName.name_nameKey {v : Value} (h : v.IsName) : v.nameKey.name = v := by
  cases h with
  | null => rfl
  | text t => rfl

namespace Edge

structure Told (e : Edge) : Prop where
  source : e.source.serviceName.IsName
  dest : e.dest.serviceName.IsName

def callId (e : Edge) : CallSummary.Id :=
  (e.source.serviceName.nameKey, e.dest.serviceName.nameKey, e.detectPoint)

variable {e : Edge}

theorem Told.idOf (h : e.Told) : CallSummary.idOf e = .ok e.callId := by
  unfold CallSummary.idOf
  rw [h.source.key, h.dest.key]
  rfl

end Edge

namespace CallSummary

def sum (id : Id) (calls : List Edge) : CallSummary where
  caller := id.1.name
  callee := id.2.1.name
  detectPoint := id.2.2
  count := calls.length
  totalLatency := (calls.map (·.latency)).sum
  errorCount := calls.countP fun e => !e.status

def row (calls : List Edge) (id : Id) : CallSummary := sum id (calls.filter fun e => e.callId = id)

def rows (calls : List Edge) : List CallSummary :=
  (calls.map Edge.callId).eraseDups.map (row calls)

variable {before calls others : List Edge} {e : Edge} {id : Id}

theorem start_told (h : e.Told) : start e = sum e.callId [] := by
  have source := h.source.name_nameKey
  have dest := h.dest.name_nameKey
  simp only [start, sum, Edge.callId, source, dest]
  rfl

theorem add_sum : add e (sum id calls) = sum id (calls ++ [e]) := by
  cases status : e.status with
  | true => simp [add, sum, status]
  | false => simp [add, sum, status]

theorem row_absent (absent : id ∉ calls.map Edge.callId) : row calls id = sum id [] := by
  have none : calls.filter (fun e => e.callId = id) = [] := by
    refine List.filter_eq_nil_iff.mpr fun e member same => absent ?_
    exact List.mem_map.mpr ⟨e, member, of_decide_eq_true same⟩
  rw [row, none]

theorem row_concat :
    row (calls ++ [e]) id = if e.callId = id then add e (row calls id) else row calls id := by
  unfold row
  rw [List.filter_append, List.filter_cons, List.filter_nil]
  by_cases same : e.callId = id
  · rw [if_pos (decide_eq_true same), if_pos same, add_sum]
  · rw [if_neg (by simpa using same), if_neg same, List.append_nil]

/-! ### The table of rows -/

/-- What a table of rows holds after some calls. -/
structure Tallied (calls : List Edge) (table : Table Id CallSummary) : Prop where
  keys : table.keys = (calls.map Edge.callId).eraseDups
  distinct : table.keys.Nodup
  found : ∀ id, table.get? id = if id ∈ calls.map Edge.callId then some (row calls id) else none

variable {table : Table Id CallSummary}

theorem empty_tallied : Tallied [] {} where
  keys := rfl
  distinct := List.nodup_nil
  found _ := rfl

theorem addTo_tallied (h : Tallied calls table) (told : e.Told) :
    ∃ next, addTo table e = .ok next ∧ Tallied (calls ++ [e]) next := by
  refine ⟨table.alter e.callId fun row => add e (row.getD (start e)), ?_, ?_, ?_, ?_⟩
  · unfold addTo
    rw [told.idOf]
    rfl
  · have known : e.callId ∈ table.keys ↔ e.callId ∈ calls.map Edge.callId := by
      rw [h.keys, List.mem_eraseDups]
    rw [Table.keys_alter, List.map_append, List.map_singleton, eraseDups_concat, ← h.keys]
    by_cases present : e.callId ∈ table.keys
    · rw [if_pos present, if_pos (known.mp present)]
    · rw [if_neg present, if_neg (mt known.mpr present)]
  · exact Table.nodup_keys_alter _ _ _ h.distinct
  · intro id
    -- Before its first call a row is that of no calls.
    have former : (table.get? e.callId).getD (start e) = row calls e.callId := by
      rw [h.found]
      split
      · rfl
      · rename_i absent
        rw [row_absent absent, Option.getD_none, start_told told]
    rw [Table.get?_alter, former, row_concat, List.map_append, List.map_singleton]
    by_cases same : e.callId = id
    · subst same
      simp
    · rw [if_neg same, if_neg same, h.found]
      simp [Ne.symm same]

theorem foldlM_tallied (told : ∀ e ∈ calls, e.Told) (h : Tallied before table) :
    ∃ last, calls.foldlM addTo table = .ok last ∧ Tallied (before ++ calls) last := by
  induction calls generalizing before table with
  | nil =>
    refine ⟨table, rfl, ?_⟩
    rw [List.append_nil]
    exact h
  | cons e rest ih =>
    obtain ⟨here, later⟩ := List.forall_mem_cons.mp told
    obtain ⟨next, added, tallied⟩ := addTo_tallied h here
    obtain ⟨last, done, all⟩ := ih later tallied
    refine ⟨last, ?_, ?_⟩
    · rw [List.foldlM_cons]
      exact bind_ok_iff.mpr ⟨next, added, done⟩
    · rw [List.append_cons]
      exact all

theorem ofCalls_told (told : ∀ e ∈ calls, e.Told) : ofCalls calls = .ok (rows calls) := by
  obtain ⟨table, gathered, tallied⟩ := foldlM_tallied told empty_tallied
  rw [List.nil_append] at tallied
  refine bind_ok_iff.mpr ⟨table, gathered, congrArg Except.ok ?_⟩
  have found : ∀ id ∈ (calls.map Edge.callId).eraseDups,
      ((table.get? id).getD (row calls (.null, .null, .server))) = row calls id := by
    intro id member
    rw [tallied.found, if_pos (List.mem_eraseDups.mp member), Option.getD_some]
  rw [Table.entries_eq_map_keys table (row calls (.null, .null, .server)) tallied.distinct,
    tallied.keys, List.map_map]
  exact List.map_congr_left found

/-! ### Calls in another order -/

theorem row_perm (perm : calls.Perm others) : row calls = row others := by
  funext id
  have group := perm.filter fun e => e.callId = id
  have count := group.length_eq
  have latency := (group.map (·.latency)).sum_eq
  have errors := group.countP_eq fun e => !e.status
  simp only [row, sum, count, latency, errors]

end CallSummary

theorem nodup_eraseDups {α : Type} [BEq α] [LawfulBEq α] (as : List α) : as.eraseDups.Nodup := by
  induction as using List.reverseRecOn with
  | nil => exact List.nodup_nil
  | append_singleton as a ih =>
    rw [eraseDups_concat]
    split
    · exact ih
    · rename_i absent
      refine List.nodup_append.mpr ⟨ih, List.pairwise_singleton _ a, ?_⟩
      rintro x present y added rfl
      obtain rfl := List.mem_singleton.mp added
      exact absent (List.mem_eraseDups.mp present)

theorem eraseDups_perm {α : Type} [BEq α] [LawfulBEq α] {as bs : List α} (perm : as.Perm bs) :
    as.eraseDups.Perm bs.eraseDups := by
  refine (List.perm_ext_iff_of_nodup (nodup_eraseDups as) (nodup_eraseDups bs)).mpr fun a => ?_
  rw [List.mem_eraseDups, List.mem_eraseDups, perm.mem_iff]

theorem CallSummary.rows_perm {calls others : List Edge} (perm : calls.Perm others) :
    (rows calls).Perm (rows others) := by
  unfold rows
  rw [row_perm perm]
  exact (eraseDups_perm (perm.map Edge.callId)).map _

end TraceScope
