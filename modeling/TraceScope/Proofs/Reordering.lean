import TraceScope.Proofs.Calls
import TraceScope.Proofs.Refusal

/-!
# Segments in another order

Segments do not influence each other, and a report adds up what they publish. So it does not matter
in which order they are processed: a report tells the same, up to the order of what it lists. Sorted
lists may differ in the order of what is equally slow, and in nothing else.
-/

namespace TraceScope

/-! ### Sorted lists -/

section Sorting

variable {α : Type} {as bs : List α}

/-- The order of the sorted lists of a report. -/
def slowestFirst (latency : α → Int) (a b : α) : Bool := decide (latency b ≤ latency a)

variable {latency : α → Int}

theorem slowestFirst_iff {a b : α} : slowestFirst latency a b = true ↔ latency b ≤ latency a :=
  decide_eq_true_iff

theorem slowestFirst_trans (a b c : α) (first : slowestFirst latency a b = true)
    (second : slowestFirst latency b c = true) : slowestFirst latency a c = true := by
  rw [slowestFirst_iff] at first second ⊢
  omega

theorem slowestFirst_total (a b : α) :
    (slowestFirst latency a b || slowestFirst latency b a) = true := by
  rw [Bool.or_eq_true, slowestFirst_iff, slowestFirst_iff]
  omega

theorem sort_perm (perm : as.Perm bs) :
    (as.mergeSort (slowestFirst latency)).Perm (bs.mergeSort (slowestFirst latency)) :=
  (List.mergeSort_perm _ _).trans (perm.trans (List.mergeSort_perm _ _).symm)

theorem sort_pairwise (as : List α) :
    ((as.mergeSort (slowestFirst latency)).map latency).Pairwise fun m n => n ≤ m := by
  have sorted : (as.mergeSort (slowestFirst latency)).Pairwise
      fun a b => slowestFirst latency a b = true :=
    List.pairwise_mergeSort slowestFirst_trans slowestFirst_total as
  exact List.pairwise_map.mpr (sorted.imp slowestFirst_iff.mp)

theorem sort_latencies (perm : as.Perm bs) :
    (as.mergeSort (slowestFirst latency)).map latency =
      (bs.mergeSort (slowestFirst latency)).map latency := by
  -- What is equally slow may change places; the latencies are in order in both lists.
  refine List.Perm.eq_of_pairwise ?_ (sort_pairwise as) (sort_pairwise bs)
    ((sort_perm perm).map latency)
  intro m n _ _ low high
  omega

end Sorting

/-! ### Reports of the same records -/

namespace CallSummary

def mean (row : CallSummary) : Binary64 := (quotient? row.totalLatency row.count).getD default

def hasMean (row : CallSummary) : Bool := (quotient? row.totalLatency row.count).isSome

theorem average_eq (row : CallSummary) :
    row.average = if row.hasMean then .ok row.mean else .error .quotientTooLarge := by
  unfold average hasMean mean
  cases quotient? row.totalLatency row.count with
  | none => rfl
  | some x => rfl

theorem averages_eq (rows : List CallSummary) :
    rows.mapM average =
      if rows.all hasMean then .ok (rows.map mean) else .error .quotientTooLarge := by
  induction rows with
  | nil => rfl
  | cons row rest ih =>
    rw [List.mapM_cons, ih, average_eq, List.all_cons]
    cases row.hasMean with
    | false => rfl
    | true =>
      cases rest.all hasMean with
      | false => rfl
      | true => rfl

theorem zip_means (rows : List CallSummary) :
    rows.zip (rows.map mean) = rows.map fun row => (row, row.mean) := by
  have zipped := List.zip_map' (f := id) (g := mean) (l := rows)
  rw [List.map_id] at zipped
  exact zipped

end CallSummary

namespace Report

def sortedCalls (calls : List Edge) : List (CallSummary × Binary64) :=
  ((CallSummary.rows calls).map fun row => (row, row.mean)).mergeSort
    (slowestFirst fun c => c.1.totalLatency)

variable {stack : Stack} {records others : List Record} {segmentCount : Nat}

/-- A report of calls between services with names fails only if a value is nested too deeply, or an
average is out of range. -/
theorem ofRecords_told (told : ∀ e ∈ records.filterMap Record.call?, e.Told) :
    ofRecords stack segmentCount records =
      let calls := records.filterMap Record.call?
      if records.all (Record.isReportable stack) then
        if (CallSummary.rows calls).all CallSummary.hasMean then
          .ok { segmentCount, records, calls := sortedCalls calls }
        else .error .quotientTooLarge
      else .error .tooDeepToReport := by
  unfold ofRecords
  rw [CallSummary.ofCalls_told told]
  dsimp only
  cases records.all (Record.isReportable stack) with
  | false => rfl
  | true =>
    have averages := CallSummary.averages_eq (CallSummary.rows (records.filterMap Record.call?))
    rw [if_pos rfl, if_pos rfl]
    simp only [bind, Except.bind, averages]
    cases (CallSummary.rows (records.filterMap Record.call?)).all CallSummary.hasMean with
    | false => rfl
    | true =>
      simp only [if_true, sortedCalls, CallSummary.zip_means]
      rfl

/-- Two reports that tell the same, up to the order of what they list. The latencies in sorted lists
stand in the same order. -/
structure Alike (r q : Report) : Prop where
  segmentCount : r.segmentCount = q.segmentCount
  total : r.records.length = q.records.length
  counts : r.counts.Perm q.counts
  group : ∀ s, (r.group s).Perm (q.group s)
  calls : r.calls.Perm q.calls
  callLatencies : r.calls.map (·.1.totalLatency) = q.calls.map (·.1.totalLatency)
  slowCount : r.slowStatements.length = q.slowStatements.length
  slowStatements : r.slowStatements.Perm q.slowStatements
  slowLatencies : r.slowStatements.map (·.latency) = q.slowStatements.map (·.latency)

theorem alike_of_perm {r q : Report} (segmentCount : r.segmentCount = q.segmentCount)
    (perm : r.records.Perm q.records)
    (calls : r.calls = sortedCalls (r.records.filterMap Record.call?))
    (calls' : q.calls = sortedCalls (q.records.filterMap Record.call?)) : r.Alike q := by
  have group : ∀ s, (r.group s).Perm (q.group s) := fun s => perm.filter _
  have scopes : r.scopes.Perm q.scopes := eraseDups_perm (perm.map Record.scope)
  have rows := (CallSummary.rows_perm (perm.filterMap Record.call?)).map fun row =>
    (row, row.mean)
  have slow : r.slowStatements.Perm q.slowStatements := sort_perm (perm.filterMap _)
  refine ⟨segmentCount, perm.length_eq, ?_, group, ?_, ?_, slow.length_eq, slow, ?_⟩
  · have lengths : (fun s => (s, (r.group s).length)) = fun s => (s, (q.group s).length) := by
      funext s
      rw [(group s).length_eq]
    unfold counts
    rw [lengths]
    exact scopes.map _
  · rw [calls, calls']
    exact sort_perm rows
  · rw [calls, calls']
    exact sort_latencies rows
  · exact sort_latencies (perm.filterMap _)

theorem ofRecords_perm (told : ∀ e ∈ records.filterMap Record.call?, e.Told)
    (perm : records.Perm others) :
    (∃ f, ofRecords stack segmentCount records = .error f ∧
        ofRecords stack segmentCount others = .error f) ∨
      ∃ r q, ofRecords stack segmentCount records = .ok r ∧
        ofRecords stack segmentCount others = .ok q ∧ r.Alike q := by
  have calls := perm.filterMap Record.call?
  have told' : ∀ e ∈ others.filterMap Record.call?, e.Told := fun e member =>
    told e (calls.mem_iff.mpr member)
  have reportable :
      records.all (Record.isReportable stack) = others.all (Record.isReportable stack) :=
    perm.all_eq
  have means := (CallSummary.rows_perm calls).all_eq (f := CallSummary.hasMean)
  rw [ofRecords_told told, ofRecords_told told']
  dsimp only
  rw [reportable, means]
  split
  · split
    · exact Or.inr ⟨_, _, rfl, rfl, alike_of_perm rfl perm rfl rfl⟩
    · exact Or.inl ⟨_, rfl, rfl⟩
  · exact Or.inl ⟨_, rfl, rfl⟩

end Report

/-! ### Names of services -/

def Inventory.NamesServices (inv : Inventory) : Prop :=
  ∀ id s, inv.services.get? id = some s → ∃ t, s.name = .text t

theorem Inventory.NamesServices.isName {inv : Inventory} (h : inv.NamesServices) (id : Int) :
    (inv.serviceName id).IsName := by
  unfold serviceName
  cases known : inv.services.get? id with
  | none => exact .null
  | some s =>
    obtain ⟨t, name⟩ := h id s known
    simp only [Option.map_some, Option.getD_some, name]
    exact .text t

namespace Segment

variable {inv : Inventory} {config : Config} {segment : Segment}

theorem origins_named {span : Span} {p : Party} (member : p ∈ span.origins inv) :
    ∃ service inst endpoint name, p = inv.named service inst endpoint name := by
  unfold Span.origins at member
  split at member
  · obtain rfl := List.mem_singleton.mp member
    exact ⟨_, _, _, _, rfl⟩
  · obtain ⟨ref, _, rfl⟩ := List.mem_map.mp member
    unfold Reference.origin
    dsimp only
    split
    · exact ⟨_, _, _, _, rfl⟩
    · exact ⟨_, _, _, _, rfl⟩

theorem records_told (names : inv.NamesServices) {f : Facet} {e : Edge} {b : Value}
    (member : .leg f e b ∈ segment.records inv config) : e.Told := by
  rcases leg_cases member with ⟨span, _, origin, known, rfl⟩ | ⟨span, _, rfl⟩
  · obtain ⟨service, _, _, _, rfl⟩ := origins_named known
    exact ⟨names.isName service, names.isName segment.serviceId⟩
  · exact ⟨names.isName segment.serviceId, names.isName _⟩

end Segment

namespace Analyzer

variable {inv : Inventory} {config : Config} {segments reordered : List Segment}

theorem outputs_told (names : inv.NamesServices) :
    ∀ e ∈ (segments.flatMap (output inv config)).filterMap Record.call?, e.Told := by
  intro e member
  obtain ⟨r, published, call⟩ := List.mem_filterMap.mp member
  obtain ⟨segment, _, added⟩ := List.mem_flatMap.mp published
  rw [output_eq] at added
  split at added
  · obtain ⟨b, rfl⟩ := Record.call?_eq_some.mp call
    exact Segment.records_told names added
  · cases added

theorem processAll_complete (done : ∀ segment ∈ segments, (alone inv config segment).2 = none) :
    let run := processAll segments (fresh inv config)
    run.2 = none ∧ run.1.config = config ∧ run.1.records = segments.flatMap (output inv config) ∧
      run.1.segmentCount = segments.length := by
  obtain ⟨whole, silent⟩ := leading_eq_self fun segment member =>
    Option.isNone_iff_eq_none.mpr (done segment member)
  obtain ⟨_, kept, records, _, _, count⟩ :=
    @takeAll_effect (fresh inv config) (segments.map (output inv config))
  rw [processAll_fresh, whole, silent]
  refine ⟨rfl, kept, ?_, ?_⟩
  · rw [records, List.flatMap_def]
    rfl
  · rw [count, List.length_map]
    exact Nat.zero_add _

/-- Segments that are all processed without a fault can be processed in any order. Reports then tell
the same: the same numbers, the same records of every scope, the same calls and the same slow
statements, with the same latencies from the slowest to the fastest. -/
theorem processAll_reordered (names : inv.NamesServices) (perm : segments.Perm reordered)
    (done : (processAll segments (fresh inv config)).2 = none) :
    let a := processAll segments (fresh inv config)
    let b := processAll reordered (fresh inv config)
    b.2 = none ∧
      ((∃ f, Report.ofAnalyzer a.1 = .error f ∧ Report.ofAnalyzer b.1 = .error f) ∨
        ∃ r q, Report.ofAnalyzer a.1 = .ok r ∧ Report.ofAnalyzer b.1 = .ok q ∧ r.Alike q) := by
  have each : ∀ segment ∈ segments, (alone inv config segment).2 = none := by
    rw [processAll_fresh] at done
    exact List.findSome?_eq_none_iff.mp done
  obtain ⟨_, kept, records, count⟩ := processAll_complete each
  obtain ⟨silent, kept', records', count'⟩ := processAll_complete fun segment member =>
    each segment (perm.mem_iff.mpr member)
  dsimp only
  refine ⟨silent, ?_⟩
  rw [Report.ofAnalyzer, Report.ofAnalyzer, kept, kept', records, records', count, count',
    perm.length_eq]
  exact Report.ofRecords_perm (outputs_told names) (perm.flatMap_right _)

/-- A call from the user that asks nothing. -/
def shortCall : Segment := { slowQuery with id := "t", spans := slowQuery.spans.take 1 }

theorem impatient_named : impatient.inventory.NamesServices := by
  intro id s found
  have services : impatient.inventory.services =
      (({} : Table Int Service).insert userId { id := userId, name := userName }).insert 2
        { id := 2, name := .text "db", addressId := 9 } := rfl
  rw [services, Table.get?_insert, Table.get?_insert] at found
  split at found
  · obtain rfl := Option.some.inj found
    exact ⟨_, rfl⟩
  · split at found
    · obtain rfl := Option.some.inj found
      exact ⟨_, rfl⟩
    · cases found

theorem processAll_shortCall :
    let a := processAll [slowQuery, shortCall] (fresh impatient.inventory impatient.config)
    let b := processAll [shortCall, slowQuery] (fresh impatient.inventory impatient.config)
    impatient.inventory.NamesServices ∧ a.2 = none ∧ b.2 = none ∧
      ∃ r q, Report.ofAnalyzer a.1 = .ok r ∧ Report.ofAnalyzer b.1 = .ok q ∧ r.Alike q ∧
        r.records.length = 18 := by
  intro a b
  have done : a.2 = none := by
    rw [← Option.isNone_iff_eq_none]
    decide +kernel
  have swapped : [slowQuery, shortCall].Perm [shortCall, slowQuery] := .swap _ _ _
  obtain ⟨silent, reports⟩ := processAll_reordered impatient_named swapped done
  have reported : (Report.ofAnalyzer a.1).toOption.isSome = true := by decide +kernel
  rcases reports with ⟨f, failed, _⟩ | ⟨r, q, made, made', alike⟩
  · rw [failed] at reported
    cases reported
  · obtain ⟨_, records⟩ := Report.ofRecords_done made
    refine ⟨impatient_named, done, silent, r, q, made, made', alike, ?_⟩
    rw [records]
    decide +kernel

end Analyzer

end TraceScope
