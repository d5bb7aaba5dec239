import TraceScope.Proofs.Offers

/-!
# Segments are independent

Segments are handed over one by one, and whoever does so goes on after a fault. Nothing that is
known of one segment reaches another: each adds what it adds alone and fails as it fails alone.
-/

namespace TraceScope

namespace Analyzer

/-- Processes segments one by one, whether they fail or not, and tells the fault of each. -/
def processEach : List Segment → Analyzer → Analyzer × List (Option Fault)
  | [], a => (a, [])
  | segment :: rest, a =>
    let here := process segment a
    let later := processEach rest here.1
    (later.1, here.2 :: later.2)

variable {a : Analyzer} {segment : Segment} {inv : Inventory} {config : Config}

def Unrefused (a : Analyzer) : Prop := ∀ k, a.intake.sink.refuses k = none

theorem process_unrefused (segment : Segment) (accepts : a.Unrefused) :
    let b := (process segment a).1
    b.Unrefused ∧ b.inventory = a.inventory ∧ b.config = a.config ∧
      b.records = a.records ++ output a.inventory a.config segment ∧
      b.segmentCount =
        a.segmentCount + (if succeeds a.inventory a.config segment then 1 else 0) := by
  have alike := process_as_alone segment fun k _ _ => accepts k
  rw [alike]
  cases reached : segment.emission a.inventory a.config with
  | ok rs =>
    obtain ⟨succeeds, output, _⟩ := alone_ok reached
    obtain ⟨records, _, refuses⟩ := Intake.storeAll_sink a.intake rs
    rw [succeeds, output]
    exact ⟨fun k => (congrFun refuses k).trans (accepts k), rfl, rfl, records, rfl⟩
  | error f =>
    obtain ⟨fails, output, _⟩ := alone_error reached
    rw [fails, output]
    exact ⟨accepts, rfl, rfl, (List.append_nil _).symm, rfl⟩

theorem processEach_unrefused (segments : List Segment) (accepts : a.Unrefused) :
    let run := processEach segments a
    run.1.records = a.records ++ segments.flatMap (output a.inventory a.config) ∧
      run.2 = segments.map (fun segment => (alone a.inventory a.config segment).2) ∧
      run.1.segmentCount =
        a.segmentCount + segments.countP (succeeds a.inventory a.config) := by
  induction segments generalizing a with
  | nil => exact ⟨(List.append_nil _).symm, rfl, rfl⟩
  | cons segment rest ih =>
    obtain ⟨free, inventory, config, records, count⟩ :=
      process_unrefused segment accepts
    have fault : (process segment a).2 = (alone a.inventory a.config segment).2 := by
      rw [process_as_alone segment fun k _ _ => accepts k]
    -- The rest is told of the analyzer after the first segment, which knows the same inventory.
    obtain ⟨laterRecords, laterFaults, laterCount⟩ := ih free
    rw [inventory, config] at laterRecords laterFaults laterCount
    simp only [processEach]
    refine ⟨?_, ?_, ?_⟩
    · rw [laterRecords, records, List.append_assoc, List.flatMap_cons]
    · rw [laterFaults, fault, List.map_cons]
    · rw [laterCount, count, List.countP_cons]
      omega

/-- Over a sink that refuses nothing, segments that are processed one after the other add one after
the other what each of them adds as the only segment of a new analyzer: its own records, or none if
it fails. Each has the fault that it has alone, and those without a fault are counted. -/
theorem processEach_independent (segments : List Segment) (accepts : a.Unrefused) :
    let run := processEach segments a
    run.1.records = a.records ++ segments.flatMap (output a.inventory a.config) ∧
      run.2 = segments.map (fun segment => (alone a.inventory a.config segment).2) ∧
      run.1.segmentCount = a.segmentCount + segments.countP (succeeds a.inventory a.config) ∧
      ∀ segment ∈ segments, output a.inventory a.config segment =
        if succeeds a.inventory a.config segment then segment.records a.inventory a.config
        else [] := by
  obtain ⟨records, faults, count⟩ := processEach_unrefused segments accepts
  exact ⟨records, faults, count, fun _ _ => output_eq⟩

/-- Two slow queries, each after a segment that fails. -/
theorem processEach_slowQueries :
    impatient.Unrefused ∧
      let run := processEach [mistyped, slowQuery, mistyped, slowQuery] impatient
      run.1.records.length = 22 ∧ run.1.segmentCount = 2 ∧
        run.2.map Option.isSome = [true, false, true, false] := by
  have free : impatient.Unrefused := fun _ => rfl
  obtain ⟨records, faults, count, _⟩ :=
    processEach_independent [mistyped, slowQuery, mistyped, slowQuery] free
  refine ⟨free, ?_, ?_, ?_⟩
  · rw [records]
    decide +kernel
  · rw [count]
    decide +kernel
  · rw [faults]
    decide +kernel

end Analyzer

end TraceScope
