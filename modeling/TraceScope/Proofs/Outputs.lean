import TraceScope.Proofs.Answering

/-!
# What the command leaves behind

The command opens its output only when there is a report on all the segments. What it writes is then
one document, which is read back as the report, unless something in the report cannot be written:
the file is left with the part before it, which is no document.
-/

namespace TraceScope

namespace CommandLine

/-- What the command comes to if nothing fails before its output is opened. -/
structure Finding where
  inventory : Inventory
  config : Config
  segments : List Segment
  report : Report
  output : Text
  place : Place

/-- The options can be used and printed, the inventory and all the segments can be read, the
segments are processed without a fault, there is a report on all of their records, and there is a
place for the output. -/
structure Finding.Of (x : Finding) (c : Console) (inventory segments : Value) (s : Settings)
    (folder : Folder) : Prop where
  configured : Config.ofValues c.stack s.maxLength s.thresholds = .ok x.config
  announced : Prints c "" (configurationLines inventory segments s.maxLength x.config.thresholds)
  inventory : ∃ path, inventory = .text path ∧ readInventory c.stack folder path = .ok x.inventory
  segments : ∃ path, segments = .text path ∧ c.toHost.Finds folder path x.segments
  processed : ∀ segment ∈ x.segments, (Analyzer.alone x.inventory x.config segment).2 = none
  reported : Report.ofRecords x.config.stack x.segments.length
    (x.segments.flatMap (Analyzer.output x.inventory x.config)) = .ok x.report
  target : s.output = .text x.output ∧ folder.target x.output = .ok x.place

variable {c : Console} {inventory segments : Value} {s : Settings} {folder : Folder} {x : Finding}

theorem Finding.Of.ofSegments (h : x.Of c inventory segments s folder) :
    Report.ofSegments x.inventory x.config x.segments = .ok x.report :=
  (Report.ofSegments_done (List.findSome?_eq_none_iff.mpr h.processed)).trans h.reported

theorem Finding.Of.opens (h : x.Of c inventory segments s folder) :
    Opens c inventory segments s folder x.config x.report x.output x.place := by
  obtain ⟨inventoryPath, rfl, opened⟩ := h.inventory
  obtain ⟨segmentPath, rfl, finds⟩ := h.segments
  exact ⟨h.configured, h.announced, (report_eq opened finds).trans h.ofSegments, h.target.1,
    h.target.2⟩

theorem Opens.finding {config : Config} {r : Report} {output : Text} {place : Place}
    (h : Opens c inventory segments s folder config r output place) :
    ∃ x : Finding, x.Of c inventory segments s folder := by
  obtain ⟨inventoryPath, segmentPath, inv, found, rfl, opened, rfl, finds, made⟩ :=
    report_ok h.reported
  cases fault : Analyzer.firstFault inv config found with
  | some f =>
    rw [Report.ofSegments_failed fault] at made
    cases made
  | none =>
    rw [Report.ofSegments_done fault] at made
    exact ⟨⟨inv, config, found, r, output, place⟩, h.configured, h.announced,
      ⟨inventoryPath, rfl, opened⟩, ⟨segmentPath, rfl, finds⟩,
      List.findSome?_eq_none_iff.mp fault, made, h.named, h.target⟩

/-- Names are read from the characters of a file. -/
theorem readInventory_steady {stack : Stack} {path : Text} {inv : Inventory}
    (opened : readInventory stack folder path = .ok inv) : inv.Holds Value.Steady := by
  obtain ⟨_, _, opened⟩ := bind_ok_iff.mp opened
  obtain ⟨file, _, opened⟩ := bind_ok_iff.mp opened
  split at opened
  · rename_i doc read
    have chars : ∀ l ∈ (file : Text).letters, ∃ c, l = .char c := by
      intro l member
      obtain ⟨c, _, rfl⟩ := List.mem_map.mp member
      exact ⟨c, rfl⟩
    exact Inventory.ofValue_holds Value.steady_inherited (Json.readText_holds
      Value.steady_inherited (Json.document_steady true _) chars read) opened
  · cases opened
  · cases opened

theorem Finding.Of.steady (h : x.Of c inventory segments s folder)
    (items : ∀ bytes, ∀ doc ∈ (c.items bytes).items, doc.Steady) : x.report.toValue.Steady := by
  obtain ⟨inventoryPath, _, opened⟩ := h.inventory
  obtain ⟨segmentPath, _, bytes, docs, _, streamed, decoded⟩ := h.segments
  refine Report.ofSegments_holds Value.steady_inherited (readInventory_steady opened)
    (fun segment member => ?_) h.ofSegments
  obtain ⟨doc, present, made⟩ := mem_mapM decoded segment member
  have read := items bytes
  rw [streamed] at read
  exact Segment.ofValue_holds Value.steady_inherited (read doc present) made

/-- Arguments that are understood come to one of two things. Without a finding the command exits
with 1 and leaves the folder as it is. With one, its output holds as much of the report as can be
written and stored. A report without decimals and without integers that are too long, that the stack
suffices for, is written as one document, which is read back as just that report; of any other one
there is a text that is no document. The command ends normally if the report is written and stored
whole and its lines are printed, and exits with 1 if not. -/
theorem run_leaves {args : List Text} (parsed : parse args = .settings inventory segments s)
    (items : ∀ bytes, ∀ doc ∈ (c.items bytes).items, doc.Steady) :
    let outcome := run c args folder
    ((¬∃ x : Finding, x.Of c inventory segments s folder) →
        outcome.exitCode = 1 ∧ outcome.folder = folder) ∧
      ∀ x : Finding, x.Of c inventory segments s folder →
        let v := x.report.toValue
        let text := (Json.write c.stack v "").1
        let stored := folder.store (c.storing x.place text.toUTF8) x.place text.toUTF8
        let encodable := v.isPlain = true ∧ v.isWritable = true ∧ c.stack.reaches 0 v = true
        let complete := encodable ∧ stored.2 = none ∧
          Prints c (announcement inventory segments s.maxLength x.config.thresholds)
            (resultLines x.report x.output)
        x.report.segmentCount = x.segments.length ∧ outcome.folder = stored.1 ∧
          (stored.2 = none → outcome.folder.read x.output = .ok text.toUTF8) ∧
          (encodable → Json.readUnlimited text = .ok v) ∧
          (¬encodable → ∃ f, Json.readUnlimited text = .error f) ∧
          (complete → outcome.exitCode = 0) ∧ (¬complete → outcome.exitCode = 1) := by
  intro outcome
  have run : outcome = runWith c inventory segments s folder := by
    change CommandLine.run c args folder = _
    rw [CommandLine.run, parsed]
  rw [run]
  refine ⟨fun absent => ?_, fun x found => ?_⟩
  · refine (runWith_unopened fun opened => absent ?_).symm
    obtain ⟨_, _, _, _, opens⟩ := opened
    exact opens.finding
  intro v text stored encodable complete
  have encoded : (Json.write c.stack v "").2 = none ↔ encodable :=
    Json.writeAt_succeeds c.stack 0 v ""
  obtain ⟨left, ended, failed⟩ := found.opens.runWith_eq
  rw [encoded] at ended failed
  refine ⟨(Report.ofRecords_done found.reported).1, left, fun whole => ?_, fun able => ?_,
    fun unable => ?_, ended, failed⟩
  · rw [left]
    exact Folder.read_stored found.target.2 whole
  · have back := Json.read_written (Prod.ext rfl (encoded.mpr able))
    rw [(found.steady items).reread_eq] at back
    exact back
  · -- Only a value that cannot be written to its end is cut off.
    cases fault : (Json.write c.stack v "").2 with
    | none => exact absurd (encoded.mp fault) unable
    | some f => exact ⟨_, Json.read_cut (Prod.ext rfl fault)⟩

/-- What a small segment file without spans comes to. -/
def spanlessFinding : Finding where
  inventory := .initial
  config := Posting.standardConfig
  segments := Posting.spanless.segments
  report := Posting.spanlessReport
  output := "out.json"
  place := ["out.json"]

theorem spanlessFinding_of : spanlessFinding.Of Job.console (.text "i.json") (.text "s.json")
    Job.smallSettings Job.smallFolder where
  configured := rfl
  announced := prints_of_quiet (fun _ _ => rfl) _ _
  inventory := ⟨"i.json", rfl, rfl⟩
  segments := by
    obtain ⟨bytes, read, streamed⟩ := Job.smallJob_called.streamed
    exact ⟨"s.json", rfl, bytes, _, read, streamed, Job.smallJob_suffices.decoded⟩
  processed := by
    intro segment member
    obtain rfl := List.mem_singleton.mp member
    rfl
  reported := by
    change Except.ok (Report.mk 1 [] (List.mergeSort [] _)) = _
    simp [spanlessFinding, Posting.spanlessReport]
  target := ⟨rfl, rfl⟩

theorem smallArgs_leave :
    (run Job.console Job.smallArgs Job.smallFolder).exitCode = 0 ∧ ∃ text : String,
      (run Job.console Job.smallArgs Job.smallFolder).folder.read spanlessFinding.output =
        .ok text.toUTF8 ∧
        Json.readUnlimited text = .ok spanlessFinding.report.toValue := by
  have items : ∀ bytes, ∀ doc ∈ (Job.console.items bytes).items, doc.Steady := fun bytes =>
    Reference.items_holds Value.steady_inherited .decimal bytes
  obtain ⟨_, _, stored, written, _, ended, _⟩ := (@run_leaves Job.console _ _ _ Job.smallFolder _
    Job.smallJob_called.parsed items).2 spanlessFinding spanlessFinding_of
  have reaches : Job.console.stack.reaches 0 spanlessFinding.report.toValue = true :=
    Stack.reaches_of_writes (fun _ _ => rfl) 0 _
  obtain ⟨plain, writable⟩ := Posting.spanlessReport_written
  have whole : ∀ (f : Folder) (place : Place) (bytes : ByteArray),
      (f.store (Job.console.storing place bytes) place bytes).2 = none := fun _ _ _ => rfl
  refine ⟨ended ⟨⟨plain, writable, reaches⟩, whole _ _ _, ?_⟩, _, stored (whole _ _ _),
    written ⟨plain, writable, reaches⟩⟩
  exact prints_of_quiet (fun _ _ => rfl) _ _

/-! ### A report that cannot be written -/

/-- A report with a decimal in it is cut off: the command exits with 1, and what it stored is no
document. -/
theorem Opens.cut_decimal {config : Config} {r : Report} {output : Text} {place : Place}
    (h : Opens c inventory segments s folder config r output place)
    (whole : ∀ bytes, c.storing place bytes = .whole) (decimal : r.toValue.isPlain = false) :
    let outcome := runWith c inventory segments s folder
    outcome.exitCode = 1 ∧ ∃ text f, outcome.folder.get? place = some text.toUTF8 ∧
      Json.readUnlimited text = .error f := by
  intro outcome
  obtain ⟨left, _, failed⟩ := h.runWith_eq
  cases fault : (Json.write c.stack r.toValue "").2 with
  | none =>
    have encoded := (Json.writeAt_succeeds c.stack 0 r.toValue "").mp fault
    rw [decimal] at encoded
    cases encoded.1
  | some f =>
    refine ⟨failed fun all => ?_, _, _, ?_, Json.read_cut (Prod.ext rfl fault)⟩
    · rw [fault] at all
      cases all.1
    · rw [left, whole]
      exact Folder.get?_write _ (Or.inl rfl)

def databaseText : String :=
  "\x7b\"services\": [\x7b\"id\": 2, \"name\": \"db\", \"addressId\": 9\x7d], " ++
    "\"serviceInstances\": [\x7b\"id\": 4, \"name\": \"db-1\", \"serviceId\": 2, " ++
    "\"addressId\": 9\x7d]\x7d"

/-- A call of the database, whose statement is a zero with a point. -/
def zeroText : String :=
  "\x7b\"segments\": [\x7b\"traceSegmentId\": \"s\", \"serviceId\": 1, " ++
    "\"serviceInstanceId\": 1, \"spans\": [\x7b\"spanId\": 0, \"spanType\": \"Exit\", " ++
    "\"spanLayer\": \"Database\", \"peerId\": 9, \"operationNameId\": 1, \"endTime\": 900, " ++
    "\"tags\": [\x7b\"key\": \"db.type\", \"value\": \"a\"\x7d, " ++
    "\x7b\"key\": \"db.statement\", \"value\": 0.0\x7d]\x7d]\x7d]\x7d"

def zeroArgs : List Text := ["inventory.json", "segments.json"]

def zeroSettings : Settings where
  positional := [.text "inventory.json", .text "segments.json"]

def zeroFolder : Folder :=
  (Folder.writeHere {} "inventory.json" databaseText.toUTF8).writeHere "segments.json"
    zeroText.toUTF8

def zeroSegment : Value :=
  .object [("traceSegmentId", .text "s"), ("serviceId", .int 1), ("serviceInstanceId", .int 1),
    ("spans", .list [.object [("spanId", .int 0), ("spanType", .text "Exit"),
      ("spanLayer", .text "Database"), ("peerId", .int 9), ("operationNameId", .int 1),
      ("endTime", .int 900), ("tags", .list [
        .object [("key", .text "db.type"), ("value", .text "a")],
        .object [("key", .text "db.statement"), ("value", .decimal ⟨false, 0, -1⟩)]])]])]

def zeroConsole : Console where
  items _ := { items := [zeroSegment] }

theorem zero_reported :
    ((report zeroConsole.toHost (.text "inventory.json") (.text "segments.json")
      Posting.standardConfig zeroFolder).map (·.toValue.isPlain)).toOption = some false := by
  decide +kernel

theorem zero_opens : ∃ r, Opens zeroConsole (.text "inventory.json") (.text "segments.json")
    zeroSettings zeroFolder Posting.standardConfig r "segment_analysis.json"
      ["segment_analysis.json"] ∧ r.toValue.isPlain = false := by
  have reported := zero_reported
  cases made : report zeroConsole.toHost (.text "inventory.json") (.text "segments.json")
    Posting.standardConfig zeroFolder with
  | error f =>
    rw [made] at reported
    cases reported
  | ok r =>
    rw [made] at reported
    exact ⟨r, ⟨rfl, prints_of_quiet (fun _ _ => rfl) _ _, made, rfl, rfl⟩,
      Option.some.inj reported⟩

/-- A decimal in a tag reaches the report, and a file that breaks off is left where there was
none. -/
theorem zero_broken :
    zeroFolder.get? ["segment_analysis.json"] = none ∧
      (run zeroConsole zeroArgs zeroFolder).exitCode = 1 ∧
      ∃ text f, (run zeroConsole zeroArgs zeroFolder).folder.get? ["segment_analysis.json"] =
          some text.toUTF8 ∧ Json.readUnlimited text = .error f := by
  obtain ⟨r, opens, decimal⟩ := zero_opens
  have parsed : parse zeroArgs =
      .settings (.text "inventory.json") (.text "segments.json") zeroSettings := rfl
  have same : run zeroConsole zeroArgs zeroFolder =
      runWith zeroConsole (.text "inventory.json") (.text "segments.json") zeroSettings
        zeroFolder := by
    rw [run, parsed]
  rw [same]
  exact ⟨rfl, opens.cut_decimal (fun _ => rfl) decimal⟩

end CommandLine

end TraceScope
