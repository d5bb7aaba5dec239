import TraceScope.CommandLine.Run
import TraceScope.Proofs.Paths
import TraceScope.Proofs.Stacks

/-!
# What a command does

A command opens its output when it has announced its configuration and made the report on all the
segments in the file. Before that it leaves the folder as it is; afterwards only the writing of the
report and the printing of what it comes to are left.
-/

namespace TraceScope

/-! ### Files of segments -/

namespace Analyzer

variable {stack : Stack} {inv : Inventory} {config : Config} {path : Text} {read : ItemStream}
  {docs : List Value} {segments : List Segment}

/-- A file whose documents can all be decoded is processed as the list of its segments. -/
theorem processFile_whole (decoded : docs.mapM (Segment.ofValue stack) = .ok segments) :
    processFile stack path { items := docs } = processAll segments := by
  funext a
  change processStream stack { items := docs } a = _
  rw [processStream_outcome, processDocuments_decoded decoded, Option.or_none]

theorem decoded_of_processDocuments {a b : Analyzer}
    (done : processDocuments stack docs a = (b, none)) :
    ∃ segments, docs.mapM (Segment.ofValue stack) = .ok segments := by
  unfold processDocuments at done
  induction docs generalizing a with
  | nil => exact ⟨[], rfl⟩
  | cons doc rest ih =>
    rw [Step.each_cons] at done
    obtain ⟨c, first, done⟩ := Step.andThen_eq_none.mp done
    obtain ⟨segments, decoded⟩ := ih done
    obtain ⟨segment, known, _⟩ := Step.ofExcept_done first
    refine ⟨segment :: segments, ?_⟩
    rw [List.mapM_cons, known]
    exact bind_ok_iff.mpr ⟨segment, rfl, bind_ok_iff.mpr ⟨segments, decoded, rfl⟩⟩

/-- A file that is processed to its end is read to its end, and all its documents are decoded. -/
theorem processFile_done {a b : Analyzer}
    (done : processFile stack path read a = (b, none)) :
    ∃ docs segments, read = { items := docs } ∧
      docs.mapM (Segment.ofValue stack) = .ok segments := by
  obtain ⟨docs, ending⟩ := read
  change processStream stack _ a = _ at done
  rw [processStream_outcome] at done
  obtain ⟨whole, ended⟩ := Option.or_eq_none_iff.mp (congrArg Prod.snd done)
  obtain ⟨segments, decoded⟩ := decoded_of_processDocuments (Prod.ext rfl whole)
  refine ⟨docs, segments, ?_, decoded⟩
  cases ending with
  | whole => rfl
  | malformed => cases ended
  | failed f => cases ended

end Analyzer

namespace Host

variable {host : Host} {folder : Folder} {path : Text} {segments : List Segment}

/-- The segments in the file at a path: the file is read to its end, and all of it is decoded. -/
def Finds (host : Host) (folder : Folder) (path : Text) (segments : List Segment) : Prop :=
  ∃ bytes docs, folder.read path = .ok bytes ∧ host.items bytes = { items := docs } ∧
    docs.mapM (Segment.ofValue host.stack) = .ok segments

theorem Finds.process_eq (found : host.Finds folder path segments) :
    host.process folder path = Analyzer.processAll segments := by
  obtain ⟨bytes, docs, read, streamed, decoded⟩ := found
  unfold process
  rw [read, Step.ofExcept, streamed, Analyzer.processFile_whole decoded]

theorem finds_of_process {a b : Analyzer} (done : host.process folder path a = (b, none)) :
    ∃ segments, host.Finds folder path segments := by
  obtain ⟨bytes, read, done⟩ := Step.ofExcept_done done
  obtain ⟨docs, segments, streamed, decoded⟩ := Analyzer.processFile_done done
  exact ⟨segments, bytes, docs, read, streamed, decoded⟩

end Host

namespace CommandLine

variable {c : Console} {inventory segments : Value} {s : Settings} {folder : Folder}
  {config : Config} {r : Report} {output : Text} {place : Place}

/-! ### Reports -/

theorem report_eq {host : Host} {inv : Inventory} {found : List Segment}
    {inventoryPath segmentPath : Text}
    (opened : readInventory host.stack folder inventoryPath = .ok inv)
    (finds : host.Finds folder segmentPath found) :
    report host (.text inventoryPath) (.text segmentPath) config folder =
      Report.ofSegments inv config found := by
  simp only [report, pathOf, bind, Except.bind, opened, finds.process_eq]
  rfl

/-- A command makes a report on what it finds in two files. -/
theorem report_ok {host : Host} (made : report host inventory segments config folder = .ok r) :
    ∃ inventoryPath segmentPath inv found, inventory = .text inventoryPath ∧
      readInventory host.stack folder inventoryPath = .ok inv ∧ segments = .text segmentPath ∧
        host.Finds folder segmentPath found ∧ Report.ofSegments inv config found = .ok r := by
  have isText : ∀ {v : Value} {path : Text}, pathOf v = .ok path → v = .text path := by
    intro v path known
    cases v with
    | text t => exact congrArg Value.text (Except.ok.inj known)
    | _ => cases known
  obtain ⟨inventoryPath, first, opening⟩ := bind_ok_iff.mp made
  obtain ⟨inv, opened, analysis⟩ := bind_ok_iff.mp opening
  obtain ⟨segmentPath, second, analysed⟩ := bind_ok_iff.mp analysis
  obtain rfl := isText first
  obtain rfl := isText second
  rcases done : host.process folder segmentPath { inventory := inv, config } with ⟨a, _ | f⟩
  · obtain ⟨found, finds⟩ := Host.finds_of_process done
    exact ⟨inventoryPath, segmentPath, inv, found, rfl, opened, rfl, finds,
      (report_eq opened finds).symm.trans made⟩
  · rw [done] at analysed
    cases analysed

/-! ### Printing -/

/-- These lines are printed one after the other, and none is refused. -/
def Prints (c : Console) (before : Text) : List Text → Prop
  | [] => True
  | line :: rest => c.refuses before line = none ∧ Prints c (before ++ line) rest

theorem prints_of_quiet (quiet : ∀ before line, c.refuses before line = none) (before : Text)
    (lines : List Text) : Prints c before lines := by
  induction lines generalizing before with
  | nil => trivial
  | cons line rest ih => exact ⟨quiet before line, ih _⟩

theorem say_folder (line : Text) (d : Desk) : (say c line d).1.folder = d.folder := by
  unfold say
  split <;> rfl

/-- Printing changes nothing but what is printed, and fails only where a line is refused. -/
theorem each_say (lines : List Text) (d : Desk) :
    (Step.each (say c) lines d).1.folder = d.folder ∧
      ((Step.each (say c) lines d).2 = none ↔ Prints c d.printed lines) ∧
      (Prints c d.printed lines →
        (Step.each (say c) lines d).1.printed = lines.foldl (· ++ ·) d.printed) := by
  induction lines generalizing d with
  | nil => exact ⟨rfl, iff_of_true rfl trivial, fun _ => rfl⟩
  | cons line rest ih =>
    rw [Step.each_cons]
    cases answer : c.refuses d.printed line with
    | none =>
      have said : say c line d = ({ d with printed := d.printed ++ line }, none) := by
        simp only [say, answer]
      obtain ⟨folder, heard, printed⟩ := ih { d with printed := d.printed ++ line }
      rw [Step.andThen_ok said]
      exact ⟨folder, heard.trans (and_iff_right answer).symm, fun all => printed all.2⟩
    | some f =>
      have said : say c line d = (d, some f) := by simp only [say, answer]
      have stopped : ¬Prints c d.printed (line :: rest) := fun all => by
        rw [Prints, answer] at all
        cases all.1
      rw [Step.andThen_failed said]
      exact ⟨rfl, iff_of_false (Option.some_ne_none f) stopped, fun all => absurd all stopped⟩

/-! ### The output -/

def announcement (inventory segments length : Value) (thresholds : Thresholds) : Text :=
  (configurationLines inventory segments length thresholds).foldl (· ++ ·) ""

/-- A command gets as far as opening its output: the configuration is announced, there is a report,
and a place for it. -/
structure Opens (c : Console) (inventory segments : Value) (s : Settings) (folder : Folder)
    (config : Config) (r : Report) (output : Text) (place : Place) : Prop where
  configured : Config.ofValues c.stack s.maxLength s.thresholds = .ok config
  announced : Prints c "" (configurationLines inventory segments s.maxLength config.thresholds)
  reported : report c.toHost inventory segments config folder = .ok r
  named : s.output = .text output
  target : folder.target output = .ok place

theorem runWith_failed {d : Desk} {f : Fault}
    (failed : work c inventory segments s { folder } = (d, some f)) :
    (runWith c inventory segments s folder).folder = d.folder ∧
      (runWith c inventory segments s folder).exitCode = 1 := by
  rw [runWith, failed]
  exact ⟨say_folder _ d, rfl⟩

theorem process_unopened {v : Value} {d : Desk}
    (closed : ¬∃ r output place, report c.toHost inventory segments config d.folder = .ok r ∧
      v = .text output ∧ d.folder.target output = .ok place) :
    ∃ f, process c inventory segments config v d = (d, some f) := by
  unfold process
  cases reported : report c.toHost inventory segments config d.folder with
  | error f => exact ⟨f, rfl⟩
  | ok r =>
    cases v with
    | text output =>
      cases target : d.folder.target output with
      | ok place => exact absurd ⟨r, output, place, reported, rfl, target⟩ closed
      | error f =>
        have unwritten : writeReport c.toHost r output d.folder = (d.folder, some f) := by
          simp only [writeReport, target]
        refine ⟨f, Step.andThen_failed ?_⟩
        rw [Step.zoom, unwritten]
    | _ => exact ⟨_, rfl⟩

/-- A command that does not get so far exits with 1 and leaves the folder as it is. -/
theorem runWith_unopened
    (closed : ¬∃ config r output place, Opens c inventory segments s folder config r output place) :
    (runWith c inventory segments s folder).folder = folder ∧
      (runWith c inventory segments s folder).exitCode = 1 := by
  have failed : ∃ d f, work c inventory segments s { folder } = (d, some f) ∧
      d.folder = folder := by
    unfold work
    cases configured : Config.ofValues c.stack s.maxLength s.thresholds with
    | error f => exact ⟨_, f, rfl, rfl⟩
    | ok config =>
      rw [Step.ofExcept]
      obtain ⟨same, announced, _⟩ := each_say (c := c)
        (configurationLines inventory segments s.maxLength config.thresholds) { folder }
      rcases said : Step.each (say c) (configurationLines inventory segments s.maxLength
        config.thresholds) { folder } with ⟨d, _ | f⟩
      · rw [said] at same announced
        obtain ⟨f, failed⟩ : ∃ f, process c inventory segments config s.output d = (d, some f) := by
          apply process_unopened
          rintro ⟨r, output, place, reported, named, target⟩
          rw [show d.folder = folder from same] at reported target
          exact closed ⟨config, r, output, place, configured, announced.mp rfl, reported, named,
            target⟩
        exact ⟨d, f, (Step.andThen_ok said).trans failed, same⟩
      · rw [said] at same
        exact ⟨d, f, Step.andThen_failed said, same⟩
  obtain ⟨d, f, failed, same⟩ := failed
  rw [← same]
  exact runWith_failed (same ▸ failed)

theorem writeReport_eq {host : Host} (target : folder.target output = .ok place) :
    let written := Json.write host.stack r.toValue ""
    let bytes := written.1.toUTF8
    let stored := folder.store (host.storing place bytes) place bytes
    writeReport host r output folder = (stored.1, stored.2.or written.2) := by
  simp only [writeReport, target]

/-- An output that was opened holds as much of the report as could be written and stored. The
command ends normally if that is all of it, and what it comes to is printed. -/
theorem Opens.runWith_eq (h : Opens c inventory segments s folder config r output place) :
    let written := Json.write c.stack r.toValue ""
    let bytes := written.1.toUTF8
    let stored := folder.store (c.storing place bytes) place bytes
    let complete := written.2 = none ∧ stored.2 = none ∧
      Prints c (announcement inventory segments s.maxLength config.thresholds)
        (resultLines r output)
    let outcome := runWith c inventory segments s folder
    outcome.folder = stored.1 ∧ (complete → outcome.exitCode = 0) ∧
      (¬complete → outcome.exitCode = 1) := by
  intro written bytes stored complete outcome
  obtain ⟨same, announced, printed⟩ := each_say (c := c)
    (configurationLines inventory segments s.maxLength config.thresholds) { folder }
  rcases said : Step.each (say c) (configurationLines inventory segments s.maxLength
    config.thresholds) { folder } with ⟨d, f⟩
  rw [said] at same announced printed
  obtain rfl : f = none := announced.mpr h.announced
  have told : d.printed = announcement inventory segments s.maxLength config.thresholds :=
    printed h.announced
  -- The output is opened with the folder as it was, after the configuration was announced.
  have opened : work c inventory segments s { folder } =
      (Step.zoom (·.folder) (fun folder d => { d with folder })
        (writeReport c.toHost r output)).andThen (.each (say c) (resultLines r output)) d := by
    rw [work, h.configured, Step.ofExcept, Step.andThen_ok said, process, h.named,
      show d.folder = folder from same, h.reported]
    rfl
  let after : Desk := { d with folder := stored.1 }
  have kept : Step.zoom (·.folder) (fun folder d => { d with folder })
      (writeReport c.toHost r output) d = (after, stored.2.or written.2) := by
    rw [Step.zoom, show d.folder = folder from same, writeReport_eq h.target]
  cases fault : stored.2.or written.2 with
  | some f =>
    obtain ⟨left, code⟩ := runWith_failed (opened.trans (Step.andThen_failed (fault ▸ kept)))
    refine ⟨left, fun all => ?_, fun _ => code⟩
    rw [Option.or_eq_none_iff.mpr ⟨all.2.1, all.1⟩] at fault
    cases fault
  | none =>
    obtain ⟨whole, encoded⟩ := Option.or_eq_none_iff.mp fault
    obtain ⟨left, heard, _⟩ := each_say (c := c) (resultLines r output) after
    rw [show after.printed = _ from told] at heard
    have run := opened.trans (Step.andThen_ok (fault ▸ kept))
    rcases ended : Step.each (say c) (resultLines r output) after with ⟨e, _ | f⟩
    · rw [ended] at left heard run
      have outcome_eq : outcome = { e with exitCode := 0 } := by
        change runWith c inventory segments s folder = _
        rw [runWith, run]
      rw [outcome_eq]
      exact ⟨left, fun _ => rfl, fun partly => absurd ⟨encoded, whole, heard.mp rfl⟩ partly⟩
    · rw [ended] at left heard run
      obtain ⟨same, code⟩ := runWith_failed run
      refine ⟨same.trans left, fun all => ?_, fun _ => code⟩
      cases heard.mpr all.2.2

end CommandLine

end TraceScope
