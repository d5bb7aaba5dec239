import Mathlib.Algebra.BigOperators.Group.List.Lemmas
import TraceScope.Proofs.Reordering

/-!
# What a report keeps

A report shows every record in the group of its scope, every call between services in exactly one
row, and every slow statement. Sorted lists go from the slowest to the fastest, and what is equally
slow stays in the order in which it came.
-/

namespace TraceScope

/-! ### Groups -/

section Grouping

variable {κ : Type} [BEq κ] [LawfulBEq κ]

theorem idxOf_eraseDups (keys : List κ) :
    keys.eraseDups.Pairwise fun a b => keys.idxOf a < keys.idxOf b := by
  induction keys using List.reverseRecOn with
  | nil => exact List.Pairwise.nil
  | append_singleton keys k ih =>
    have earlier : keys.eraseDups.Pairwise fun a b =>
        (keys ++ [k]).idxOf a < (keys ++ [k]).idxOf b := by
      apply ih.imp_of_mem
      intro a b first second order
      rw [List.idxOf_append_of_mem (List.mem_eraseDups.mp first),
        List.idxOf_append_of_mem (List.mem_eraseDups.mp second)]
      exact order
    rw [eraseDups_concat]
    split
    · exact earlier
    · rename_i absent
      refine List.pairwise_append.mpr ⟨earlier, List.pairwise_singleton _ k, ?_⟩
      intro a known b last
      obtain rfl := List.mem_singleton.mp last
      have present : a ∈ keys := List.mem_eraseDups.mp known
      rw [List.idxOf_append_of_mem present, List.idxOf_append_of_notMem absent]
      have := List.idxOf_lt_length_of_mem present
      omega

theorem sum_groups {α : Type} [DecidableEq κ] (key : α → κ) (items : List α) :
    ((items.map key).eraseDups.map fun k => (items.filter fun a => key a = k).length).sum =
      items.length := by
  have size : ∀ k, (items.filter fun a => key a = k).length =
      (items.map key).countP fun other => other = k := by
    intro k
    rw [List.countP_map, List.countP_eq_length_filter]
    congr 1
  -- The library counts over `dedup`, which keeps the last of equal keys; a sum does not see which.
  have same : (items.map key).eraseDups.Perm (items.map key).dedup := by
    refine (List.perm_ext_iff_of_nodup (nodup_eraseDups _) (List.nodup_dedup _)).mpr fun k => ?_
    rw [List.mem_eraseDups, List.mem_dedup]
  simp only [size]
  calc ((items.map key).eraseDups.map fun k => (items.map key).countP fun other => other = k).sum
      = ((items.map key).dedup.map fun k => (items.map key).countP fun other => other = k).sum :=
        (same.map _).sum_eq
    _ = (items.map key).length := List.sum_map_count_dedup_eq_length _
    _ = items.length := List.length_map key

end Grouping

/-! ### Sorted lists keep the order of what is equal -/

section Sorting

variable {α : Type} {latency : α → Int} {R : α → α → Prop}

theorem sort_filter (as : List α) (n : Int) :
    (as.mergeSort (slowestFirst latency)).filter (fun a => latency a = n) =
      as.filter fun a => latency a = n := by
  -- Equal items are sorted as they come, so they stay a subsequence, and none of them is lost.
  have tied : (as.filter fun a => latency a = n).Pairwise
      fun a b => slowestFirst latency a b = true := by
    apply List.pairwise_of_forall_mem_list
    intro a first b second
    have := of_decide_eq_true (List.mem_filter.mp first).2
    have := of_decide_eq_true (List.mem_filter.mp second).2
    rw [slowestFirst_iff]
    omega
  have kept : (as.filter fun a => latency a = n).Sublist
      (as.mergeSort (slowestFirst latency)) :=
    List.sublist_mergeSort slowestFirst_trans slowestFirst_total tied List.filter_sublist
  have inside := kept.filter fun a => latency a = n
  rw [List.filter_filter] at inside
  simp only [Bool.and_self] at inside
  have length := ((List.mergeSort_perm as (slowestFirst latency)).filter
    fun a => latency a = n).length_eq
  exact (inside.eq_of_length length.symm).symm

/-- Sorting is stable: what comes in some order and is equally slow stays in this order. -/
theorem sort_stable {as : List α} (order : as.Pairwise R) :
    (as.mergeSort (slowestFirst latency)).Pairwise fun a b =>
      latency b < latency a ∨ latency b = latency a ∧ R a b := by
  have sorted := List.pairwise_map.mp (@sort_pairwise α latency as)
  rw [List.pairwise_iff_forall_sublist] at sorted order ⊢
  intro a b both
  have le := sorted both
  by_cases tied : latency b = latency a
  · -- Both are in the part of equal latency, which sorting leaves in order.
    refine Or.inr ⟨tied, order ?_⟩
    have inside := both.filter fun c => latency c = latency a
    rw [sort_filter] at inside
    simp only [List.filter_cons, tied, decide_true, if_true, List.filter_nil] at inside
    exact inside.trans List.filter_sublist
  · omega

end Sorting

/-! ### Rows of calls -/

namespace CallSummary

/-- What the calls of a row have in common. -/
def callId (row : CallSummary) : Id := (row.caller.nameKey, row.callee.nameKey, row.detectPoint)

def share (calls : List Edge) (row : CallSummary) : List Edge :=
  calls.filter fun e => e.callId = row.callId

/-- A row has the names of a call. -/
structure Names (row : CallSummary) (e : Edge) : Prop where
  caller : row.caller = e.source.serviceName
  callee : row.callee = e.dest.serviceName
  detectPoint : row.detectPoint = e.detectPoint

/-- A row sums up its share of some calls, those with its names. -/
structure SumsUp (calls : List Edge) (row : CallSummary) : Prop where
  share : ∀ e, e ∈ row.share calls ↔ e ∈ calls ∧ row.Names e
  some : 0 < row.count
  count : row.count = (row.share calls).length
  totalLatency : row.totalLatency = ((row.share calls).map (·.latency)).sum
  errorCount : row.errorCount = (row.share calls).countP fun e => !e.status

variable {calls : List Edge} {e : Edge}

theorem row_names (told : e.Told) : (row calls e.callId).Names e where
  caller := told.source.name_nameKey
  callee := told.dest.name_nameKey
  detectPoint := rfl

theorem Names.callId {row : CallSummary} (h : row.Names e) : row.callId = e.callId := by
  rw [CallSummary.callId, h.caller, h.callee, h.detectPoint]
  rfl

theorem row_sumsUp (told : ∀ e ∈ calls, e.Told) (present : e ∈ calls) :
    SumsUp calls (row calls e.callId) := by
  have names : (row calls e.callId).Names e := row_names (told e present)
  have share : (row calls e.callId).share calls = calls.filter fun d => d.callId = e.callId := by
    rw [CallSummary.share, names.callId]
  refine ⟨?_, ?_, ?_, ?_, ?_⟩
  · intro d
    rw [share, List.mem_filter, decide_eq_true_eq]
    constructor
    · rintro ⟨known, same⟩
      exact ⟨known, same ▸ row_names (told d known)⟩
    · rintro ⟨known, named⟩
      exact ⟨known, named.callId.symm.trans names.callId⟩
  · apply List.length_pos_of_mem (a := e)
    exact List.mem_filter.mpr ⟨present, decide_eq_true rfl⟩
  all_goals
    rw [share]
    rfl

theorem rows_sumUp (told : ∀ e ∈ calls, e.Told) : ∀ row ∈ rows calls, SumsUp calls row := by
  intro r member
  obtain ⟨id, known, rfl⟩ := List.mem_map.mp member
  obtain ⟨e, present, rfl⟩ := List.mem_map.mp (List.mem_eraseDups.mp known)
  exact row_sumsUp told present

theorem rows_callId (told : ∀ e ∈ calls, e.Told) :
    (rows calls).map callId = (calls.map Edge.callId).eraseDups := by
  rw [rows, List.map_map]
  refine (List.map_congr_left fun id member => ?_).trans (List.map_id _)
  obtain ⟨e, present, rfl⟩ := List.mem_map.mp (List.mem_eraseDups.mp member)
  exact (row_names (told e present)).callId

theorem sum_counts (calls : List Edge) : ((rows calls).map (·.count)).sum = calls.length := by
  rw [rows, List.map_map]
  exact sum_groups Edge.callId calls

end CallSummary

/-! ### Reports -/

theorem Scope.ofName?_name (s : Scope) : ofName? s.name = some s := by
  cases s with
  | facet f => cases f <;> rfl
  | slowStatement => rfl

theorem Scope.name_injective : Function.Injective Scope.name := by
  intro s t same
  have found := ofName?_name s
  rw [same, ofName?_name] at found
  exact (Option.some.inj found).symm

/-- The value at the end of a path of names. -/
def Value.follow (v : Value) (path : List Text) : Except Fault Value := path.foldlM member v

namespace Report

/-- The records stand under their scopes, in order, and are counted. -/
structure Groups (all : List Record) (r : Report) : Prop where
  names : (r.scopes.map Scope.name).Nodup
  scopes : ∀ s, s ∈ r.scopes ↔ ∃ x ∈ all, x.scope = s
  records : r.toValue.follow ["records"] = .ok (.object (r.scopes.map fun s =>
    (s.name, .list ((all.filter (·.scope = s)).map fun x => .object x.members))))
  counts : r.toValue.follow ["summary", "records_by_scope"] = .ok (.object (r.scopes.map fun s =>
    (s.name, .int (all.filter (·.scope = s)).length)))
  total : r.toValue.follow ["summary", "total_records"] = .ok (.int all.length)
  sum : (r.scopes.map fun s => (all.filter (·.scope = s)).length).sum = all.length

/-- The rows sum up some calls, each call in one of them. -/
structure SumsUp (calls : List Edge) (r : Report) : Prop where
  shown : r.toValue.follow ["service_calls"] = .ok (.list (r.calls.map fun c => .object
    [("caller", c.1.caller), ("callee", c.1.callee), ("detect_point", .text c.1.detectPoint.name),
      ("count", .int c.1.count), ("total_latency_ms", .int c.1.totalLatency),
      ("avg_latency_ms", .double c.2), ("error_count", .int c.1.errorCount)]))
  rows : ∀ c ∈ r.calls, c.1.SumsUp calls
  covered : ∀ e ∈ calls, ∃ c ∈ r.calls, c.1.Names e
  distinct : (r.calls.map (·.1.callId)).Nodup
  sum : (r.calls.map (·.1.count)).sum = calls.length
  order : r.calls.Pairwise fun c d => d.1.totalLatency < c.1.totalLatency ∨
    d.1.totalLatency = c.1.totalLatency ∧
      (calls.map Edge.callId).idxOf c.1.callId < (calls.map Edge.callId).idxOf d.1.callId

/-- The slow statements go from the slowest to the fastest, equally slow ones in order. -/
structure Slowest (statements : List SlowStatement) (r : Report) : Prop where
  shown : r.toValue.follow ["slow_statements"] =
    .ok (.list (r.slowStatements.map fun s => .object s.members))
  perm : r.slowStatements.Perm statements
  order : r.slowStatements.Pairwise fun s t => t.latency ≤ s.latency
  ties : ∀ n, r.slowStatements.filter (·.latency = n) = statements.filter (·.latency = n)

variable {stack : Stack} {records : List Record} {segmentCount : Nat} {r : Report}

theorem groups_of_records (same : r.records = records) : r.Groups records := by
  obtain ⟨_, _, _⟩ := r
  obtain rfl := same
  refine ⟨?_, ?_, rfl, ?_, rfl, sum_groups _ _⟩
  · exact (nodup_eraseDups _).map Scope.name_injective
  · intro s
    rw [Report.scopes, List.mem_eraseDups, List.mem_map]
  · simp only [toValue, summary, counts, List.map_map]
    rfl

theorem sumsUp_of_calls {calls : List Edge} (told : ∀ e ∈ calls, e.Told)
    (sorted : r.calls = sortedCalls calls) : r.SumsUp calls := by
  have perm : (r.calls.map (·.1)).Perm (CallSummary.rows calls) := by
    rw [sorted]
    have kept := (List.mergeSort_perm ((CallSummary.rows calls).map fun row => (row, row.mean))
      (slowestFirst fun c => c.1.totalLatency)).map (·.1)
    rw [List.map_map] at kept
    exact kept.trans (.of_eq (List.map_id _))
  have ids : (r.calls.map (·.1.callId)).Perm (calls.map Edge.callId).eraseDups := by
    have mapped := perm.map CallSummary.callId
    rw [List.map_map, CallSummary.rows_callId told] at mapped
    exact mapped
  refine ⟨rfl, ?_, ?_, ?_, ?_, ?_⟩
  · intro c member
    exact CallSummary.rows_sumUp told c.1 (perm.mem_iff.mp (List.mem_map_of_mem member))
  · intro e present
    have row : CallSummary.row calls e.callId ∈ CallSummary.rows calls := by
      apply List.mem_map_of_mem
      rw [List.mem_eraseDups]
      exact List.mem_map_of_mem present
    obtain ⟨c, member, same⟩ := List.mem_map.mp (perm.mem_iff.mpr row)
    exact ⟨c, member, same ▸ CallSummary.row_names (told e present)⟩
  · exact ids.nodup_iff.mpr (nodup_eraseDups _)
  · have counts := (perm.map (·.count)).sum_eq
    rw [List.map_map, CallSummary.sum_counts] at counts
    exact counts
  · rw [sorted]
    apply sort_stable
    rw [List.pairwise_map]
    have first := idxOf_eraseDups (calls.map Edge.callId)
    rw [← CallSummary.rows_callId told, List.pairwise_map] at first
    exact first

theorem slowest_of_records (same : r.records = records) :
    r.Slowest (records.filterMap Record.slowStatement?) := by
  obtain rfl := same
  refine ⟨rfl, List.mergeSort_perm _ _, ?_, ?_⟩
  · exact List.pairwise_map.mp (sort_pairwise _)
  · exact sort_filter _

/-- A report of calls between services with names never divides by zero, and if it is made, it
loses, repeats and misplaces nothing. -/
theorem ofRecords_faithful (told : ∀ e ∈ records.filterMap Record.call?, e.Told) :
    (∃ rows, CallSummary.ofCalls (records.filterMap Record.call?) = .ok rows ∧
      ∀ row ∈ rows, 0 < row.count) ∧
    ∀ r, ofRecords stack segmentCount records = .ok r →
      r.Groups records ∧ r.SumsUp (records.filterMap Record.call?) ∧
        r.Slowest (records.filterMap Record.slowStatement?) := by
  refine ⟨⟨_, CallSummary.ofCalls_told told, ?_⟩, ?_⟩
  · intro row member
    exact (CallSummary.rows_sumUp told row member).some
  · intro r made
    obtain ⟨_, same⟩ := ofRecords_done made
    have calls : r.calls = sortedCalls (records.filterMap Record.call?) := by
      rw [ofRecords_told told] at made
      dsimp only at made
      split at made
      · split at made
        · rw [← Except.ok.inj made]
        · cases made
      · cases made
    exact ⟨groups_of_records same, sumsUp_of_calls told calls, slowest_of_records same⟩

/-- Two calls one way, one back and three slow statements. The totals of both rows are equal. -/
def busyDay : List Record :=
  let party (name : Text) : Party :=
    { serviceId := .int 1, serviceName := .text name, instanceId := .int 1, instanceName := .null
      endpointId := 1, endpointName := .null }
  let call (caller callee : Text) (latency : Int) (status : Bool) : Record :=
    .leg .serviceRelation
      { source := party caller, dest := party callee, detectPoint := .server, componentId := 0
        requestType := .http, latency, status } (.int 0)
  let slow (id : Text) (latency : Int) : Record :=
    .slow { id, serviceId := .int 1, statement := .null, latency, timeBucket := 0, traceId := none }
  [call "cart" "db" 5 true, slow "x" 3, call "db" "cart" (-1) false, call "cart" "db" (-6) false,
    slow "y" 3, slow "z" 4]

theorem busyDay_told : ∀ e ∈ busyDay.filterMap Record.call?, e.Told := by
  intro e member
  simp only [busyDay, List.filterMap_cons, List.filterMap_nil, Record.call?, List.mem_cons,
    List.not_mem_nil, or_false] at member
  obtain rfl | rfl | rfl := member
  all_goals exact ⟨.text _, .text _⟩

theorem ofRecords_busyDay :
    (∀ e ∈ busyDay.filterMap Record.call?, e.Told) ∧ ∃ r, ofRecords {} 1 busyDay = .ok r ∧
      r.Groups busyDay ∧ r.SumsUp (busyDay.filterMap Record.call?) ∧
      r.Slowest (busyDay.filterMap Record.slowStatement?) ∧
      (r.calls.map (·.1.count)).sum = 3 ∧
      (r.slowStatements.filter (·.latency = 3)).map (·.id) = ["x", "y"] := by
  obtain ⟨_, faithful⟩ := @ofRecords_faithful {} busyDay 1 busyDay_told
  obtain ⟨r, made⟩ : ∃ r, ofRecords {} 1 busyDay = .ok r := ⟨_, rfl⟩
  obtain ⟨groups, calls, slowest⟩ := faithful r made
  refine ⟨busyDay_told, r, made, groups, calls, slowest, ?_, ?_⟩
  · rw [calls.sum]
    rfl
  · rw [slowest.ties]
    rfl

end Report

end TraceScope
