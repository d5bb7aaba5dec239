import TraceScope.Proofs.Counting

/-!
# A record that is refused

If the sink refuses one record and accepts all others, a list of segments is cut off at this record:
what was offered before it is stored and counted, the segment that it belongs to fails, and those
that follow are not begun. Once the record is gone, nothing more is lost.
-/

namespace TraceScope

namespace Analyzer

/-! ### The segments up to the first fault -/

def leading (inv : Inventory) (config : Config) (segments : List Segment) : List Segment :=
  segments.takeWhile (succeeds inv config)

/-- The records of the segments before the first one that fails alone. -/
def outputs (inv : Inventory) (config : Config) (segments : List Segment) : List Record :=
  (leading inv config segments).flatMap (output inv config)

def firstFault (inv : Inventory) (config : Config) (segments : List Segment) : Option Fault :=
  segments.findSome? fun segment => (alone inv config segment).2

def takeAll (a : Analyzer) (outputs : List (List Record)) : Analyzer := outputs.foldl take a

variable {a : Analyzer} {segment : Segment} {inv : Inventory} {config : Config}
  {refuses : Nat → Option Fault} {f : Fault}

theorem takeAll_effect (outputs : List (List Record)) :
    let b := a.takeAll outputs
    b.inventory = a.inventory ∧ b.config = a.config ∧
      b.records = a.records ++ outputs.flatten ∧
      b.intake.sink.offered = a.intake.sink.offered + outputs.flatten.length ∧
      b.intake.sink.refuses = a.intake.sink.refuses ∧
      b.segmentCount = a.segmentCount + outputs.length := by
  induction outputs generalizing a with
  | nil => exact ⟨rfl, rfl, (List.append_nil _).symm, rfl, rfl, rfl⟩
  | cons rs rest ih =>
    obtain ⟨inventory, config, records, offered, refuses, count⟩ := @ih (a.take rs)
    obtain ⟨stored, more, same⟩ := Intake.storeAll_sink a.intake rs
    have one : (a.take rs).segmentCount = a.segmentCount + 1 := rfl
    refine ⟨inventory, config, ?_, ?_, refuses.trans same, ?_⟩
    · change ((a.take rs).takeAll rest).records = _
      have here : (a.take rs).records = a.records ++ rs := stored
      rw [records, here, List.append_assoc, List.flatten_cons]
    · change ((a.take rs).takeAll rest).intake.sink.offered = _
      have here : (a.take rs).intake.sink.offered = a.intake.sink.offered + rs.length := more
      rw [offered, here, List.flatten_cons, List.length_append]
      omega
    · change ((a.take rs).takeAll rest).segmentCount = _
      rw [count, one, List.length_cons]
      omega

theorem take_refusing (rs : List Record) :
    (a.refusing refuses).take rs = (a.take rs).refusing refuses := by
  simp only [take, refusing, Intake.storeAll_refusing]

theorem takeAll_refusing (outputs : List (List Record)) :
    (a.refusing refuses).takeAll outputs = (a.takeAll outputs).refusing refuses := by
  induction outputs generalizing a with
  | nil => rfl
  | cons rs rest ih =>
    change ((a.refusing refuses).take rs).takeAll rest = _
    rw [take_refusing]
    exact ih

/-- A list of segments whose records are all accepted adds what the segments before the first fault
add alone, and ends with this fault. -/
theorem processAll_accepted (segments : List Segment)
    (accepts : a.intake.Accepts (outputs a.inventory a.config segments).length) :
    processAll segments a =
      (a.takeAll ((leading a.inventory a.config segments).map (output a.inventory a.config)),
        firstFault a.inventory a.config segments) := by
  induction segments generalizing a with
  | nil => rfl
  | cons segment rest ih =>
    unfold processAll at ih ⊢
    unfold outputs leading at accepts
    rw [Step.each_cons]
    unfold firstFault leading
    rw [List.findSome?_cons]
    cases reached : segment.emission a.inventory a.config with
    | error f =>
      obtain ⟨fails, _, fault⟩ := alone_error reached
      rw [Step.andThen_failed (process_failed reached),
        List.takeWhile_cons_of_neg (by simp [fails]), fault]
      rfl
    | ok rs =>
      obtain ⟨succeeds, output, fault⟩ := alone_ok reached
      rw [List.takeWhile_cons_of_pos succeeds, List.flatMap_cons, List.length_append,
        output] at accepts
      obtain ⟨now, later⟩ := Intake.accepts_append accepts
      rw [Step.andThen_ok (process_accepted reached now), @ih (a.take rs) later,
        List.takeWhile_cons_of_pos succeeds, fault, List.map_cons, output]
      rfl

theorem processAll_fresh (segments : List Segment) :
    processAll segments (fresh inv config) =
      ((fresh inv config).takeAll ((leading inv config segments).map (output inv config)),
        firstFault inv config segments) :=
  processAll_accepted segments fun _ _ _ => rfl

theorem leading_eq_self {segments : List Segment}
    (succeed : ∀ segment ∈ segments, succeeds inv config segment = true) :
    leading inv config segments = segments ∧ firstFault inv config segments = none := by
  have silent : ∀ segment ∈ segments, (alone inv config segment).2 = none :=
    fun segment member => Option.isNone_iff_eq_none.mp (succeed segment member)
  have whole : (segments ++ []).takeWhile (succeeds inv config) = _ :=
    List.takeWhile_append_of_pos succeed
  rw [List.takeWhile_nil, List.append_nil] at whole
  exact ⟨whole, List.findSome?_eq_none_iff.mpr silent⟩

/-- Refusals that do not concern the records of some segments do not concern the segments. -/
theorem processAll_refusing (segments : List Segment)
    (accepts : a.intake.Accepts (outputs a.inventory a.config segments).length)
    (spared : (a.refusing refuses).intake.Accepts (outputs a.inventory a.config segments).length) :
    processAll segments (a.refusing refuses) =
      ((processAll segments a).1.refusing refuses, (processAll segments a).2) := by
  rw [processAll_accepted segments spared, processAll_accepted segments accepts]
  exact congrArg (·, _) (takeAll_refusing _)

/-! ### The segment with the refused record -/

theorem exists_nth {α : Type} (items : List α) {n : Nat} (positive : 0 < n)
    (reached : n ≤ items.length) :
    ∃ part x rest, items = part ++ x :: rest ∧ part.length + 1 = n := by
  have within : n - 1 < items.length := by omega
  refine ⟨items.take (n - 1), items[n - 1], items.drop (n - 1 + 1), ?_, ?_⟩
  · rw [List.getElem_cons_drop, List.take_append_drop]
  · rw [List.length_take]
    omega

/-- Each item of a joined list has its place in one of the lists that are joined. -/
theorem exists_owner {α β : Type} (g : α → List β) (items : List α) {n : Nat} (positive : 0 < n)
    (reached : n ≤ (items.flatMap g).length) :
    ∃ before owner after part x rest, items = before ++ owner :: after ∧
      g owner = part ++ x :: rest ∧ (before.flatMap g).length + part.length + 1 = n := by
  induction items generalizing n with
  | nil =>
    rw [List.flatMap_nil, List.length_nil] at reached
    omega
  | cons first items ih =>
    rw [List.flatMap_cons, List.length_append] at reached
    by_cases here : n ≤ (g first).length
    · obtain ⟨part, x, rest, parts, length⟩ := exists_nth (g first) positive here
      exact ⟨[], first, items, part, x, rest, rfl, parts, by simpa using length⟩
    · have later : 0 < n - (g first).length := by omega
      obtain ⟨before, owner, after, part, x, rest, rfl, parts, length⟩ := ih later (by omega)
      refine ⟨first :: before, owner, after, part, x, rest, rfl, parts, ?_⟩
      rw [List.flatMap_cons, List.length_append]
      omega

/-- The analyzer in the middle of a segment: after some segments, part of the records of the next
one and a record that was refused. -/
def stop (a : Analyzer) (outputs : List (List Record)) (part : List Record) : Analyzer :=
  { a.takeAll outputs with intake := ((a.takeAll outputs).intake.storeAll part).pass }

theorem stop_effect (outputs : List (List Record)) (part : List Record) :
    (a.stop outputs part).records = a.records ++ (outputs.flatten ++ part) ∧
      (a.stop outputs part).intake.sink.offered =
        a.intake.sink.offered + outputs.flatten.length + part.length + 1 ∧
      (a.stop outputs part).segmentCount = a.segmentCount + outputs.length := by
  obtain ⟨_, _, records, offered, _, count⟩ := takeAll_effect (a := a) outputs
  obtain ⟨stored, more, _⟩ := Intake.storeAll_sink (a.takeAll outputs).intake part
  refine ⟨?_, ?_, count⟩
  · change ((a.takeAll outputs).intake.storeAll part).sink.records = _
    rw [stored, ← List.append_assoc, ← records]
    rfl
  · change ((a.takeAll outputs).intake.storeAll part).sink.offered + 1 = _
    rw [more, offered]

theorem process_cut {before after : List Record} {r : Record}
    (reached : segment.emission a.inventory a.config = .ok (before ++ r :: after))
    (accepts : a.intake.Accepts before.length)
    (refused : a.intake.sink.refuses (a.intake.sink.offered + before.length + 1) = some f) :
    process segment a = ({ a with intake := (a.intake.storeAll before).pass }, some f) := by
  rw [process_eq, reached]
  simp only [Step.ofExcept, emit, Step.andThen, Step.zoom, Intake.each_offer_cut accepts refused]

/-- A sink that refuses what is past, or what is yet to come, is as good as one that refuses
nothing. -/
theorem process_refusing (segment : Segment)
    (accepts : a.intake.Accepts (output a.inventory a.config segment).length) :
    let unrefused := process segment (a.refusing fun _ => none)
    process segment a = (unrefused.1.refusing a.intake.sink.refuses, unrefused.2) ∧
      (process segment a).1.records = a.records ++ output a.inventory a.config segment ∧
      (process segment a).2 = (alone a.inventory a.config segment).2 := by
  cases reached : segment.emission a.inventory a.config with
  | ok rs =>
    obtain ⟨_, output, outcome⟩ := alone_ok reached
    rw [output] at accepts
    have plain : process segment (a.refusing fun _ => none) = _ :=
      process_accepted reached fun _ _ _ => rfl
    have stored : (a.take rs).records = a.records ++ rs := (Intake.storeAll_sink _ rs).1
    have restored : (a.take rs).refusing a.intake.sink.refuses = a.take rs :=
      (take_refusing rs).symm
    simp only [plain, process_accepted reached accepts, output, outcome, take_refusing]
    exact ⟨congrArg (·, none) restored.symm, stored, trivial⟩
  | error f =>
    obtain ⟨_, output, outcome⟩ := alone_error reached
    have plain : process segment (a.refusing fun _ => none) = _ := process_failed reached
    simp only [plain, process_failed reached, output, outcome, List.append_nil]
    exact ⟨rfl, trivial, trivial⟩

/-- A list of segments is given up at the record that is refused, whatever comes after it. -/
theorem processAll_stopped {before : List Segment} {owner : Segment} {part rest : List Record}
    {r : Record} (after : List Segment)
    (succeed : ∀ s ∈ before, succeeds a.inventory a.config s = true)
    (reached : owner.emission a.inventory a.config = .ok (part ++ r :: rest))
    (accepts : a.intake.Accepts
      ((before.flatMap (output a.inventory a.config)).length + part.length))
    (refused : a.intake.sink.refuses (a.intake.sink.offered +
      (before.flatMap (output a.inventory a.config)).length + part.length + 1) = some f) :
    processAll (before ++ owner :: after) a =
      (a.stop (before.map (output a.inventory a.config)) part, some f) := by
  obtain ⟨whole, silent⟩ := leading_eq_self succeed
  have joined : (before.map (output a.inventory a.config)).flatten =
      before.flatMap (output a.inventory a.config) := List.flatMap_def.symm
  have first : processAll before a =
      (a.takeAll (before.map (output a.inventory a.config)), none) := by
    rw [processAll_accepted before, whole, silent]
    intro k low high
    rw [outputs, whole] at high
    exact accepts k low (by omega)
  obtain ⟨inventory, config, _, offered, refuses, _⟩ :=
    takeAll_effect (a := a) (before.map (output a.inventory a.config))
  rw [joined] at offered
  -- When its owner is begun, the refused record is still to come.
  have cut : process owner (a.takeAll (before.map (output a.inventory a.config))) =
      (a.stop (before.map (output a.inventory a.config)) part, some f) := by
    have here : owner.emission (a.takeAll (before.map (output a.inventory a.config))).inventory
        (a.takeAll (before.map (output a.inventory a.config))).config =
          .ok (part ++ r :: rest) := by
      rw [inventory, config]
      exact reached
    refine process_cut here ?_ ?_
    · intro k low high
      rw [offered] at low high
      rw [refuses]
      exact accepts k (by omega) (by omega)
    · rw [offered, refuses]
      exact refused
  unfold processAll at first ⊢
  rw [Step.each_append, Step.andThen_ok first, Step.each_cons, Step.andThen_failed cut]

def refusal (n : Nat) (f : Fault) (k : Nat) : Option Fault := if k = n then some f else none

variable {n : Nat}

theorem refusal_self : refusal n f n = some f := if_pos rfl

theorem refusal_other {k : Nat} (other : k ≠ n) : refusal n f k = none := if_neg other

theorem accepts_refusal {m : Nat} (few : m < n) :
    ((fresh inv config).refusing (refusal n f)).intake.Accepts m := by
  intro k _ high
  have below : k ≤ 0 + m := high
  exact refusal_other (by omega)

theorem processAll_spared (segments : List Segment)
    (few : (outputs inv config segments).length < n) :
    let start := (fresh inv config).refusing (refusal n f)
    let unrefused := processAll segments (fresh inv config)
    processAll segments start = (unrefused.1.refusing (refusal n f), unrefused.2) ∧
      (processAll segments start).1.intake.sink.offered =
        (outputs inv config segments).length := by
  intro start unrefused
  have spared : start.intake.Accepts (outputs inv config segments).length :=
    accepts_refusal few
  have unoffered : start.intake.sink.offered = 0 := rfl
  refine ⟨processAll_refusing segments (fun _ _ _ => rfl) spared, ?_⟩
  obtain ⟨_, _, _, offered, _⟩ :=
    takeAll_effect (a := start) ((leading inv config segments).map (output inv config))
  rw [processAll_accepted segments spared]
  rw [← List.flatMap_def, unoffered, Nat.zero_add] at offered
  exact offered

/-- With `n` records or more some segment owns the `n`-th one, and is given up there. -/
theorem processAll_reached (segments : List Segment) (positive : 0 < n)
    (many : n ≤ (outputs inv config segments).length) :
    let start := (fresh inv config).refusing (refusal n f)
    let result := processAll segments start
    ∃ before owner after, segments = before ++ owner :: after ∧
      (before ++ [owner]) <+: leading inv config segments ∧
      (before.flatMap (output inv config)).length < n ∧
      n ≤ ((before ++ [owner]).flatMap (output inv config)).length ∧
      result.2 = some f ∧ result.1.records = (outputs inv config segments).take (n - 1) ∧
      result.1.segmentCount = before.length ∧ result.1.intake.sink.offered = n ∧
      ∀ later, processAll (before ++ owner :: later) start = result := by
  intro start result
  obtain ⟨before, owner, after, part, r, rest, split, parts, place⟩ :=
    exists_owner (output inv config) (leading inv config segments) positive many
  have succeed : ∀ s ∈ before ++ owner :: after, succeeds inv config s = true := by
    rw [← split]
    exact List.all_eq_true.mp List.all_takeWhile
  have stopped : ∀ later, processAll (before ++ owner :: later) start =
      (start.stop (before.map (output inv config)) part, some f) := by
    intro later
    have reached := emission_of_succeeds (succeed owner (by simp))
    rw [parts] at reached
    have within : (before.flatMap (output inv config)).length + part.length < n := by omega
    have last : 0 + (before.flatMap (output inv config)).length + part.length + 1 = n := by omega
    exact processAll_stopped later (fun s member => succeed s (by simp [member])) reached
      (accepts_refusal within) ((congrArg (refusal n f) last).trans refusal_self)
  -- The segments from the first fault on follow its owner too, and are never begun.
  have whole : before ++ owner :: (after ++ segments.dropWhile (succeeds inv config)) =
      segments := by
    rw [← List.cons_append, ← List.append_assoc, ← split]
    exact List.takeWhile_append_dropWhile
  have same : result = (start.stop (before.map (output inv config)) part, some f) := by
    rw [← stopped, whole]
  have cut : (outputs inv config segments).take (n - 1) =
      before.flatMap (output inv config) ++ part := by
    rw [outputs, split, List.flatMap_append, List.flatMap_cons, parts, List.append_assoc,
      ← List.append_assoc]
    refine List.take_left' ?_
    rw [List.length_append]
    omega
  obtain ⟨records, offered, count⟩ :=
    stop_effect (a := start) (before.map (output inv config)) part
  rw [← List.flatMap_def] at records offered
  rw [List.length_map] at count
  refine ⟨before, owner, _, whole.symm, ?_, by omega, ?_, ?_, ?_, ?_, ?_, ?_⟩
  · exact ⟨after, by rw [split, List.append_assoc, List.singleton_append]⟩
  · rw [List.flatMap_append, List.flatMap_singleton, List.length_append, parts,
      List.length_append, List.length_cons]
    omega
  · rw [same]
  · rw [same, cut]
    exact records
  · rw [same]
    exact count.trans (Nat.zero_add _)
  · have unoffered : start.intake.sink.offered = 0 := rfl
    rw [same, offered, unoffered]
    omega
  · intro later
    rw [same, stopped]

/-- A later segment does not notice a refusal that is past, or one that comes after its records. -/
theorem process_later (segments : List Segment) (segment : Segment) (positive : 0 < n)
    (elsewhere : n ≤ (outputs inv config segments).length ∨
      (outputs inv config segments).length + (output inv config segment).length < n) :
    let result := processAll segments ((fresh inv config).refusing (refusal n f))
    let unhindered := process segment (result.1.refusing fun _ => none)
    process segment result.1 = (unhindered.1.refusing (refusal n f), unhindered.2) ∧
      (process segment result.1).1.records = result.1.records ++ output inv config segment ∧
      (process segment result.1).2 = (alone inv config segment).2 := by
  intro result
  obtain ⟨stocked, configured, refusals⟩ : result.1.inventory = inv ∧
      result.1.config = config ∧ result.1.intake.sink.refuses = refusal n f :=
    perform_keeps Intake.offer_keeps_refusals (.segments segments) _ ⟨rfl, rfl, rfl⟩
  have accepts : result.1.intake.Accepts
      (output result.1.inventory result.1.config segment).length := by
    intro k low high
    rw [stocked, configured] at high
    rw [refusals]
    apply refusal_other
    rcases Nat.lt_or_ge (outputs inv config segments).length n with few | many
    · have offered : result.1.intake.sink.offered = (outputs inv config segments).length :=
        (processAll_spared segments few).2
      omega
    · obtain ⟨_, _, _, _, _, _, _, _, _, _, offered, _⟩ :=
        @processAll_reached inv config f n segments positive many
      have past : n < k := offered ▸ low
      omega
  have later := process_refusing segment accepts
  rw [stocked, configured, refusals] at later
  exact later

/-- A new analyzer processes a list of segments, and its sink refuses the `n`-th record alone. With
fewer records this changes nothing. Otherwise the records before the `n`-th one are stored and
counted, the segments before the one that owns it are counted, and what comes after it makes no
difference. A segment that is processed later does not notice, unless the `n`-th record is its
own. -/
theorem processAll_cut (inv : Inventory) (config : Config) (segments : List Segment) (n : Nat)
    (f : Fault) (positive : 0 < n) :
    let start := (fresh inv config).refusing (refusal n f)
    let rs := outputs inv config segments
    let result := processAll segments start
    let unrefused := processAll segments (fresh inv config)
    (rs.length < n → result = (unrefused.1.refusing (refusal n f), unrefused.2)) ∧
      (n ≤ rs.length →
        (∃ before owner after, segments = before ++ owner :: after ∧
          (before ++ [owner]) <+: leading inv config segments ∧
          (before.flatMap (output inv config)).length < n ∧
          n ≤ ((before ++ [owner]).flatMap (output inv config)).length ∧
          result.2 = some f ∧ result.1.records = rs.take (n - 1) ∧
          result.1.segmentCount = before.length ∧ result.1.intake.sink.offered = n ∧
          ∀ later, processAll (before ++ owner :: later) start = result) ∧
        ∀ s, result.1.intake.counts.get? s = s.countIn (rs.take (n - 1))) ∧
      ∀ segment, n ≤ rs.length ∨ rs.length + (output inv config segment).length < n →
        let unhindered := process segment (result.1.refusing fun _ => none)
        process segment result.1 = (unhindered.1.refusing (refusal n f), unhindered.2) ∧
          (process segment result.1).1.records =
            result.1.records ++ output inv config segment ∧
          (process segment result.1).2 = (alone inv config segment).2 := by
  intro start rs result unrefused
  -- Whatever was refused, the counts are those of the records that are kept.
  have counted : result.1.intake.Counted :=
    (perform_keeps Intake.offer_counted (.segments segments) start
      ⟨rfl, rfl, Intake.empty_counted⟩).2.2
  refine ⟨fun few => (processAll_spared segments few).1, ?_, ?_⟩
  · intro many
    have reached := processAll_reached (f := f) segments positive many
    refine ⟨reached, fun s => ?_⟩
    obtain ⟨_, _, _, _, _, _, _, _, records, _⟩ := reached
    rw [← records]
    exact counted.byScope s
  · intro segment elsewhere
    exact process_later segments segment positive elsewhere

/-- The second of two slow queries is given up at its second record, a third one is not. -/
theorem processAll_slowQueries :
    let start := (fresh impatient.inventory impatient.config).refusing
      (refusal 13 (.raised "full"))
    let result := processAll [slowQuery, slowQuery, mistyped] start
    0 < 13 ∧ result.2 = some (.raised "full") ∧ result.1.records.length = 12 ∧
      result.1.segmentCount = 1 ∧ (process slowQuery result.1).1.records.length = 23 := by
  intro start result
  have positive : 0 < 13 := by decide
  have records : (outputs impatient.inventory impatient.config
      [slowQuery, slowQuery, mistyped]).length = 22 := by decide +kernel
  have added : (output impatient.inventory impatient.config slowQuery).length = 11 := by
    decide +kernel
  obtain ⟨_, reached, later⟩ := processAll_cut impatient.inventory impatient.config
    [slowQuery, slowQuery, mistyped] 13 (.raised "full") positive
  obtain ⟨⟨_, _, _, _, _, _, _, fault, stored, _⟩, _⟩ := reached (by omega)
  have twelve : result.1.records.length = 12 := by
    rw [stored, List.length_take, records]
    decide
  refine ⟨positive, fault, twelve, by decide +kernel, ?_⟩
  obtain ⟨_, emitted, _⟩ := later slowQuery (Or.inl (by omega))
  rw [emitted, List.length_append, twelve, added]

end Analyzer

end TraceScope
