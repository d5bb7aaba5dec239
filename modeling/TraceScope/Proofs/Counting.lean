import Mathlib.Algebra.Ring.Nat
import TraceScope.Proofs.Offers
import TraceScope.Report

/-!
# Counts

The counts of the analyzer and the records of its sink are kept apart, and agree after any history
of segments, lists and files, whatever fails in it and whatever the sink refuses. The number of
segments is that of the segments whose events were all delivered and whose records were all stored.
-/

namespace TraceScope

/-! ### Counts of records -/

def Scope.countIn (s : Scope) (records : List Record) : Option Nat :=
  let n := (records.filter (·.scope = s)).length
  if n = 0 then none else some n

theorem Scope.countIn_append {s : Scope} {records : List Record} {r : Record} :
    s.countIn (records ++ [r]) =
      if r.scope = s then some ((s.countIn records).getD 0 + 1) else s.countIn records := by
  by_cases same : r.scope = s
  · simp only [countIn, List.filter_append, List.length_append, List.filter_cons, same,
      decide_true, if_true, List.filter_nil, List.length_singleton, Nat.add_eq_zero_iff]
    by_cases none : (records.filter (·.scope = s)).length = 0
    · simp [none]
    · simp [none]
  · simp [countIn, List.filter_append, same]

theorem Scope.getD_countIn {s : Scope} {records : List Record} :
    (s.countIn records).getD 0 = (records.filter (·.scope = s)).length := by
  simp only [countIn]
  split
  · rename_i none
    rw [none]
    rfl
  · rfl

theorem eraseDups_concat {α : Type} [BEq α] [LawfulBEq α] (as : List α) (a : α) :
    (as ++ [a]).eraseDups = if a ∈ as then as.eraseDups else as.eraseDups ++ [a] := by
  rw [List.eraseDups_append]
  by_cases present : a ∈ as
  · have nothing : [a].removeAll as = [] := by simp [List.removeAll, present]
    rw [if_pos present, nothing, List.eraseDups_nil, List.append_nil]
  · have new : [a].removeAll as = [a] := by simp [List.removeAll, present]
    rw [if_neg present, new, List.eraseDups_cons]
    rfl

def Table.total (counts : Table Scope Nat) : Nat := (counts.entries.map (·.2)).sum

theorem sum_alterEntries (s : Scope) (entries : List (Scope × Nat)) :
    ((Table.alterEntries s (fun n => n.getD 0 + 1) entries).map (·.2)).sum =
      (entries.map (·.2)).sum + 1 := by
  induction entries with
  | nil => rfl
  | cons e rest ih =>
    obtain ⟨s', n⟩ := e
    simp only [Table.alterEntries]
    split
    · simp only [List.map_cons, List.sum_cons, Option.getD_some]
      omega
    · simp only [List.map_cons, List.sum_cons, ih]
      omega

namespace Intake

/-- The counts are those of the stored records, in the order in which their scopes first came. -/
structure Counted (i : Intake) : Prop where
  keys : i.counts.keys = (i.sink.records.map Record.scope).eraseDups
  distinct : i.counts.keys.Nodup
  byScope : ∀ s, i.counts.get? s = s.countIn i.sink.records
  total : i.counts.total = i.sink.records.length

variable {i : Intake} {r : Record}

theorem empty_counted {refuses : Nat → Option Fault} :
    Counted { sink := { refuses } } where
  keys := rfl
  distinct := List.nodup_nil
  byScope _ := rfl
  total := rfl

theorem store_counted (h : i.Counted) : (i.store r).Counted := by
  have pushed : (i.store r).sink.records = i.sink.records ++ [r] := by
    simp [store, count, Sink.records]
  have altered : (i.store r).counts = i.counts.alter r.scope fun n => n.getD 0 + 1 := rfl
  refine ⟨?_, ?_, ?_, ?_⟩
  · have known : r.scope ∈ i.counts.keys ↔ r.scope ∈ i.sink.records.map Record.scope := by
      rw [h.keys, List.mem_eraseDups]
    rw [altered, pushed, Table.keys_alter, List.map_append, List.map_singleton,
      eraseDups_concat, ← h.keys]
    simp only [known]
  · rw [altered]
    exact Table.nodup_keys_alter _ _ _ h.distinct
  · intro s
    rw [altered, pushed, Table.get?_alter, Scope.countIn_append, h.byScope, h.byScope]
    split
    · rename_i same
      rw [same]
    · rfl
  · rw [altered, pushed, List.length_append, List.length_singleton, ← h.total]
    exact sum_alterEntries r.scope i.counts.entries

theorem offer_counted (r : Record) : Step.Keeps Counted (offer r) :=
  offer_keeps r (fun _ => store_counted) fun _ h => ⟨h.keys, h.distinct, h.byScope, h.total⟩

end Intake

/-! ### Histories of an analyzer -/

namespace Analyzer

/-- What an analyzer can be asked to process. A file that cannot be opened is a stream that has no
items and ends with a fault. -/
inductive Task
  | segment (s : Segment)
  | segments (list : List Segment)
  | file (stack : Stack) (stream : SegmentStream)

namespace Task

def perform : Task → Step Analyzer
  | segment s => process s
  | segments list => processAll list
  | file stack stream => processStream stack stream

/-- The segments of a task in order, with the faults that stand in the place of segments. -/
def items : Task → List (Except Fault Segment)
  | segment s => [.ok s]
  | segments list => list.map .ok
  | file stack stream =>
    stream.items.map (Segment.ofValue stack) ++ (stream.ending.map Except.error).toList

end Task

/-- Tasks in order. A fault ends its task, and the next one is begun. -/
def run : List Task → Analyzer → Analyzer
  | [], a => a
  | task :: rest, a => run rest (task.perform a).1

/-- Whether all events of a segment are delivered and everything that comes of them is
published. -/
def completes (segment : Segment) (a : Analyzer) : Bool :=
  match segment.info with
  | .error _ => false
  | .ok info =>
    match Listener.gather a.inventory a.config info segment.events with
    | (_, some _) => false
    | (l, none) => (Listener.build a.inventory Intake.offer (l, a.intake)).2.isNone

/-- The segments that are begun, each with the analyzer as it was then: those before the first fault
and the one with the fault. -/
def begun : List (Except Fault Segment) → Analyzer → List (Segment × Analyzer)
  | .ok segment :: rest, a =>
    (segment, a) ::
      match process segment a with
      | (b, none) => begun rest b
      | (_, some _) => []
  | _, _ => []

def history : List Task → Analyzer → List (Segment × Analyzer)
  | [], _ => []
  | task :: rest, a => begun task.items a ++ history rest (task.perform a).1

variable {a : Analyzer} {inv : Inventory} {config : Config}

/-- To take segments from a stream is to process its documents one by one, and to fail in the end
if the stream does. -/
theorem processStream_eq (stack : Stack) (stream : SegmentStream) :
    processStream stack stream =
      (processDocuments stack stream.items).andThen (stream.ending.elim .skip .fail) := by
  obtain ⟨items, ending⟩ := stream
  induction items with
  | nil =>
    rw [processStream_next]
    cases ending <;> rfl
  | cons doc rest ih =>
    unfold processDocuments at ih ⊢
    rw [processStream_next, Step.each_cons, Step.andThen_assoc, ← ih, processDocument]
    cases decoded : Segment.ofValue stack doc with
    | error f =>
      have given : SegmentStream.next stack { items := doc :: rest, ending } = .error f := by
        simp only [SegmentStream.next, decoded]
        rfl
      rw [given]
      rfl
    | ok segment =>
      have given : SegmentStream.next stack { items := doc :: rest, ending } =
          .ok (some (segment, { items := rest, ending })) := by
        simp only [SegmentStream.next, decoded]
        rfl
      rw [given]
      rfl

/-- Every task is to process its items up to the first fault. -/
theorem perform_eq (task : Task) :
    task.perform = Step.each (fun item => .ofExcept item process) task.items := by
  cases task with
  | segment s => exact (Step.andThen_skip _).symm
  | segments list =>
    rw [Task.items, Step.each_map]
    rfl
  | file stack stream =>
    rw [Task.items, Step.each_append, Step.each_map]
    change processStream stack stream = _
    rw [processStream_eq]
    cases stream.ending with
    | none => rfl
    | some f => rfl

/-! ### Stored records are counted -/

theorem perform_keeps {P : Intake → Prop} (kept : ∀ r, Step.Keeps P (Intake.offer r))
    (task : Task) :
    Step.Keeps (fun a => a.inventory = inv ∧ a.config = config ∧ P a.intake) task.perform := by
  rw [perform_eq]
  apply Step.keeps_each
  intro item _
  exact Step.keeps_ofExcept fun segment _ => process_keeps kept segment

theorem run_counted (tasks : List Task) (h : a.intake.Counted) :
    (run tasks a).intake.Counted := by
  induction tasks generalizing a with
  | nil => exact h
  | cons task rest ih =>
    have kept := perform_keeps Intake.offer_counted task a ⟨rfl, rfl, h⟩
    exact ih kept.2.2

/-! ### Completed segments are counted -/

theorem process_completes (segment : Segment) (a : Analyzer) :
    (process segment a).2.isNone = completes segment a ∧
      (process segment a).1.segmentCount =
        a.segmentCount + if completes segment a then 1 else 0 := by
  cases told : segment.info with
  | error f =>
    simp only [process, told, completes]
    exact ⟨rfl, rfl⟩
  | ok info =>
    have delivered :
        Observer.deliver [Listener.observer a.inventory a.config] info segment ({}, a.intake) = _ :=
      Listener.deliver_observer segment {} a.intake
    rcases gathered : Listener.gather a.inventory a.config info segment.events with ⟨l, _ | f⟩
    · rw [gathered] at delivered
      rcases built : Listener.build a.inventory Intake.offer (l, a.intake) with ⟨⟨l', i⟩, _ | f⟩
      · simp [process, told, Step.ofExcept, publish, Step.andThen, delivered, built, Step.update,
          completes, gathered]
      · simp [process, told, Step.ofExcept, publish, Step.andThen, delivered, built, completes,
          gathered]
    · rw [gathered] at delivered
      simp [process, told, Step.ofExcept, publish, Step.andThen, delivered, completes, gathered]

theorem begun_counted (items : List (Except Fault Segment)) (a : Analyzer) :
    (Step.each (fun item => .ofExcept item process) items a).1.segmentCount =
      a.segmentCount + (begun items a).countP fun call => completes call.1 call.2 := by
  induction items generalizing a with
  | nil => rfl
  | cons item rest ih =>
    cases item with
    | error f => rfl
    | ok segment =>
      obtain ⟨outcome, count⟩ := process_completes segment a
      rw [Step.each_cons]
      rcases done : process segment a with ⟨b, _ | f⟩
      · have first : Step.ofExcept (.ok segment) process a = (b, none) := done
        rw [done] at outcome count
        rw [Step.andThen_ok first, ih b, begun, List.countP_cons, done, ← outcome]
        rw [← outcome] at count
        simp only [Option.isNone_none, if_true] at count ⊢
        omega
      · have first : Step.ofExcept (.ok segment) process a = (b, some f) := done
        rw [done] at outcome count
        rw [Step.andThen_failed first, begun, List.countP_cons, done, ← outcome]
        rw [← outcome] at count
        exact count

theorem history_counted (tasks : List Task) (a : Analyzer) :
    (run tasks a).segmentCount =
      a.segmentCount + (history tasks a).countP fun call => completes call.1 call.2 := by
  induction tasks generalizing a with
  | nil => rfl
  | cons task rest ih =>
    have here := begun_counted task.items a
    rw [← perform_eq] at here
    rw [run, history, List.countP_append, ih, here]
    omega

end Analyzer

/-! ### Reports -/

theorem Report.ofRecords_done {stack : Stack} {segmentCount : Nat} {records : List Record}
    {r : Report} (made : ofRecords stack segmentCount records = .ok r) :
    r.segmentCount = segmentCount ∧ r.records = records := by
  unfold ofRecords at made
  dsimp only at made
  split at made
  · obtain ⟨rows, _, made⟩ := bind_ok_iff.mp made
    obtain ⟨averages, _, made⟩ := bind_ok_iff.mp made
    obtain rfl := pure_ok_iff.mp made
    exact ⟨rfl, rfl⟩
  · cases made

theorem Report.counts_counted {i : Intake} {r : Report} (h : i.Counted)
    (records : r.records = i.sink.records) : r.counts = i.counts.entries := by
  rw [Table.entries_eq_map_keys i.counts 0 h.distinct, h.keys, counts, scopes, records]
  -- Scopes come in the same order on both sides; what is left are the numbers.
  apply List.map_congr_left
  intro s _
  rw [h.byScope, Scope.getD_countIn, group, records]

namespace Analyzer

/-- After any history of a new analyzer each scope is counted as often as the sink holds records of
it, the counts add up to the number of records, and the number of segments is that of the segments
that were begun and completed. A report tells these counts, their sum and that number. -/
theorem run_tallied (inv : Inventory) (config : Config) (refuses : Nat → Option Fault)
    (tasks : List Task) :
    let start : Analyzer := { inventory := inv, config, intake := { sink := { refuses } } }
    let a := run tasks start
    (∀ s, a.intake.counts.get? s = s.countIn a.records) ∧
      a.intake.counts.total = a.records.length ∧
      a.segmentCount = (history tasks start).countP (fun call => completes call.1 call.2) ∧
      ∀ r, Report.ofAnalyzer a = .ok r →
        r.summary = .object
          [("total_segments", .int a.segmentCount),
            ("total_records", .int a.intake.counts.total),
            ("records_by_scope",
              .object (a.intake.counts.entries.map fun count => (count.1.name, .int count.2))),
            ("total_slow_statements", .int r.slowStatements.length)] := by
  intro start a
  have counted : a.intake.Counted := run_counted tasks Intake.empty_counted
  have segments := history_counted tasks start
  refine ⟨counted.byScope, counted.total, segments.trans (Nat.zero_add _), ?_⟩
  intro r made
  obtain ⟨count, records⟩ := Report.ofRecords_done made
  have total : a.intake.counts.total = r.records.length := by rw [counted.total, records]; rfl
  rw [Report.summary, count, total, Report.counts_counted counted records]

/-- A list that is given up at a refused record, a segment that fails, one that does not, and a file
that ends early. -/
def interruptedTasks : List Task :=
  [.segments [slowQuery, slowQuery, mistyped], .segment mistyped, .segment slowQuery,
    .file {} { items := [], ending := some (.raised "gone") }]

theorem run_interruptedTasks :
    let refuses k := if k = 13 then some (.raised "full") else none
    let a := run interruptedTasks
      { inventory := impatient.inventory, config := impatient.config
        intake := { sink := { refuses } } }
    a.intake.counts.get? .slowStatement = some 2 ∧ a.intake.counts.total = 23 ∧
      a.segmentCount = 2 ∧ ∃ r, Report.ofAnalyzer a = .ok r ∧
        ∃ rest, r.summary = .object (("total_segments", .int 2) :: rest) := by
  intro refuses a
  obtain ⟨byScope, total, segments, reported⟩ :=
    run_tallied impatient.inventory impatient.config refuses interruptedTasks
  have two : a.segmentCount = 2 := by
    rw [segments]
    decide +kernel
  have records : a.intake.counts.total = 23 := by
    rw [total]
    decide +kernel
  have slow : a.intake.counts.get? .slowStatement = some 2 := by
    rw [byScope]
    decide +kernel
  have reports : (Report.ofAnalyzer a).toOption.isSome = true := by decide +kernel
  refine ⟨slow, records, two, ?_⟩
  cases made : Report.ofAnalyzer a with
  | error f =>
    rw [made] at reports
    cases reports
  | ok r =>
    have summary := reported r made
    rw [two] at summary
    exact ⟨r, rfl, _, summary⟩

end Analyzer

end TraceScope
