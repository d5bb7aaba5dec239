import TraceScope.Proofs.Commands
import TraceScope.Proofs.Numerals
import TraceScope.Proofs.Plain
import TraceScope.Proofs.ReportInheritance
import TraceScope.Proofs.Steady
import TraceScope.Reference.Framework

/-!
# Three ways to ask

An analysis can be asked for by a posted document, by uploaded files and by the command. Each way
reads the segments at another time, the options from values of another kind and all of it with
another part of the stack, but what it comes to is the same answer.
-/

namespace TraceScope

/-! ### Answers -/

theorem Incoming.taken_handed {α : Type} {a : α} {n : Nat} (short : n ≤ maxLength) :
    ({ contentLength := n, received := .handed a } : Incoming α).taken = .ok a :=
  if_neg (Nat.not_lt.mpr short)

namespace Server

variable {server : Server} {inv : Inventory} {config : Config} {segments : List Segment}

theorem ofAnalysis_failed {f : Fault} (failed : Analyzer.firstFault inv config segments = some f) :
    server.ofAnalysis inv config (Analyzer.processAll segments) = server.failed f := by
  have run : Analyzer.processAll segments (Analyzer.fresh inv config) = _ :=
    Analyzer.processAll_fresh segments
  rw [failed] at run
  rw [ofAnalysis, show Analyzer.processAll segments { inventory := inv, config } = _ from run]

theorem ofAnalysis_done (done : Analyzer.firstFault inv config segments = none) :
    server.ofAnalysis inv config (Analyzer.processAll segments) =
      server.ofReport (Report.ofSegments inv config segments) := by
  have run : Analyzer.processAll segments (Analyzer.fresh inv config) = _ :=
    Analyzer.processAll_fresh segments
  rw [done] at run
  rw [ofAnalysis, show Analyzer.processAll segments { inventory := inv, config } = _ from run,
    Report.ofSegments, run]

/-- An answer has the status that is meant for it, or is a server error. -/
theorem status_json (status : Nat) (v : Value) :
    (server.json status v).status = status ∨ (server.json status v).status = 500 := by
  unfold json
  split
  · exact Or.inl rfl
  · exact Or.inr rfl

theorem status_failed (f : Fault) : (server.failed f).status ∈ [400, 422, 500] := by
  have among : ∀ {status : Nat} (v : Value), status ∈ [400, 422, 500] →
      (server.json status v).status ∈ [400, 422, 500] := by
    intro status v member
    rcases server.status_json status v with same | same
    · rw [same]
      exact member
    · rw [same]
      decide
  unfold failed
  split
  · exact among _ (by decide)
  · exact among _ (by decide)
  · exact among _ (by decide)

end Server

theorem Report.ofSegments_holds {P : Value → Prop} (inherited : Value.Inherited P)
    {inv : Inventory} {config : Config} {segments : List Segment} {r : Report}
    (names : inv.Holds P) (all : ∀ s ∈ segments, s.Holds P)
    (made : ofSegments inv config segments = .ok r) : P r.toValue := by
  cases fault : Analyzer.firstFault inv config segments with
  | some f =>
    rw [ofSegments_failed fault] at made
    cases made
  | none =>
    rw [ofSegments_done fault] at made
    refine toValue_holds inherited (fun record member => ?_) made
    obtain ⟨segment, present, kept⟩ := List.mem_flatMap.mp member
    exact Analyzer.output_holds inherited names (all segment present) record kept

/-! ### Jobs -/

/-- What an analysis is asked for: an inventory and segments, and the options that are told. -/
structure Job where
  inventory : Value
  segments : List Value
  limit : Option Int := none
  thresholds : Option Text := none

namespace Job

/-- The inventory can be read and the options are allowed. There are no fractions in the segments,
which are binary in documents and decimal in files. -/
structure Valid (job : Job) (inv : Inventory) : Prop where
  inventory : Inventory.ofValue job.inventory = .ok inv
  plain : ∀ doc ∈ job.segments, doc.isPlain = true
  limit : ∀ n ∈ job.limit, 0 < n
  thresholds : ∀ t ∈ job.thresholds,
    t.isEmpty = false ∧ ∃ table, Thresholds.ofText t = .ok table

def config (job : Job) (stack : Stack) : Except Fault Config :=
  Config.ofValues stack ((job.limit.map .int).getD Config.standardLimit)
    (.text (job.thresholds.getD Thresholds.standard))

/-- A stack suffices for a job: the documents are decoded as these segments, the segments are told
and what they come to is reported. -/
structure Suffices (job : Job) (inv : Inventory) (stack : Stack) (segments : List Segment) :
    Prop where
  decoded : job.segments.mapM (Segment.ofValue stack) = .ok segments
  enough : ∀ config, job.config {} = .ok config → Report.Suffices inv config segments stack

def report (job : Job) (inv : Inventory) (stack : Stack) (segments : List Segment) :
    Except Fault Report := do
  Report.ofSegments inv (← job.config stack) segments

/-- Options tell what a job tells, and leave out what it leaves out. -/
structure Told (job : Job) (options : List (Text × Value)) : Prop where
  limit : (Value.memberOf "max_slow_sql_length" options).mapM Value.toInt = .ok job.limit
  thresholds : Value.memberOf "slow_db_threshold" options = job.thresholds.map .text

structure Asked (job : Job) (payload : Value) : Prop where
  segments : payload.member "segments" = .ok (.list job.segments)
  inventory : Posting.part payload "inventory" = .ok job.inventory
  options : ∃ options, Posting.part payload "config" = .ok (.object options) ∧ job.Told options

/-- A service presents a value as it is, unless an integer in it is too long to be written. -/
structure Presents (server : Server) (v : Value) : Prop where
  whole : v.isWritable = true → server.jsonify v = .ok v
  long : v.isWritable = false → ∃ f, server.jsonify v = .error f

/-- A request with a document that asks for a job is taken in, and the report is presented. -/
structure Posted (job : Job) (inv : Inventory) (server : Server) (post : Incoming Value)
    (segments : List Segment) : Prop extends job.Suffices inv server.stack segments where
  taken : ∃ payload, post.taken = .ok payload ∧ job.Asked payload
  presented : ∀ r, job.report inv server.stack segments = .ok r → Presents server r.toValue

/-- A request with a form that asks for a job is taken in, and the segment file can be kept and
taken away again. -/
structure Uploaded (job : Job) (inv : Inventory) (server : Server) (folder : Folder)
    (upload : Incoming Form) (form : Form) (segmentFile inventoryFile : SentFile)
    (segments : List Segment) : Prop extends job.Suffices inv server.stack segments where
  taken : upload.taken = .ok form
  listed : form.files.lookup Upload.segmentsName = some segmentFile ∧
    form.files.lookup Upload.inventoryName = some inventoryFile
  named : Upload.isJsonName segmentFile.name = true ∧ Upload.isJsonName inventoryFile.name = true
  streamed : server.items segmentFile.content = { items := job.segments }
  read : Json.readBytes server.stack inventoryFile.content = .ok job.inventory
  options : job.Told (form.fields.map fun field => (field.1, .text field.2))
  kept : ∃ place, folder.target (server.plainName segmentFile.name) = .ok place ∧
    server.storing place segmentFile.content = .whole
  removed : ∀ place, server.removing place = none

/-- Arguments ask for a job, with the report in the file at a place. Every line can be printed, and
the report can be written and stored. -/
structure Called (job : Job) (inv : Inventory) (c : Console) (folder : Folder) (args : List Text)
    (place : Place) (segmentPath inventoryPath output : Text) (s : CommandLine.Settings)
    (segments : List Segment) : Prop extends job.Suffices inv c.stack segments where
  parsed : CommandLine.parse args = .settings (.text inventoryPath) (.text segmentPath) s
  streamed : ∃ bytes, folder.read segmentPath = .ok bytes ∧
    c.items bytes = { items := job.segments }
  read : ∃ bytes text, folder.read inventoryPath = .ok bytes ∧ Text.ofUtf8 bytes = .ok text ∧
    Json.read c.stack text = .ok job.inventory
  limit : s.maxLength = (job.limit.map .int).getD Config.standardLimit
  thresholds : s.thresholds = .text (job.thresholds.getD Thresholds.standard)
  target : s.output = .text output ∧ folder.target output = .ok place
  quiet : ∀ before line, c.refuses before line = none
  written : ∀ r, job.report inv c.stack segments = .ok r → c.stack.reaches 0 r.toValue = true
  stored : ∀ bytes, c.storing place bytes = .whole

variable {job : Job} {options : List (Text × Value)} {inv : Inventory} {config : Config}
  {segments : List Segment} {server : Server}

/-! ### Options -/

theorem Valid.configured (valid : job.Valid inv) : ∃ config : Config,
    job.config {} = .ok config ∧ ∀ stack, job.config stack = .ok (config.on stack) := by
  have positive : ∃ limit, LengthLimit.ofValue ((job.limit.map .int).getD Config.standardLimit) =
      .ok limit := by
    cases known : job.limit with
    | none => exact ⟨_, rfl⟩
    | some n =>
      have above : compare n 0 = .gt := Int.compare_eq_gt.mpr (valid.limit n known)
      have atMost : Value.atMost (.int n) 0 = .ok false := by
        simp [Value.atMost, Value.compareInt?, above]
      exact ⟨.chars n, bind_ok_iff.mpr ⟨false, atMost, rfl⟩⟩
  have accepted : ∃ table,
      Thresholds.ofText (job.thresholds.getD Thresholds.standard) = .ok table := by
    cases known : job.thresholds with
    | none => exact ⟨_, rfl⟩
    | some t => exact (valid.thresholds t known).2
  obtain ⟨limit, positive⟩ := positive
  obtain ⟨thresholds, accepted⟩ := accepted
  have configured : ∀ stack, job.config stack = .ok { limit, thresholds, stack } := fun _ =>
    bind_ok_iff.mpr ⟨limit, positive, bind_ok_iff.mpr ⟨thresholds, accepted, rfl⟩⟩
  exact ⟨_, configured {}, configured⟩

theorem toInt_blank {v : Value} (blank : v.isBlank = true) : ∃ f, v.toInt = .error f := by
  cases v with
  | null => exact ⟨_, rfl⟩
  | text t =>
    obtain ⟨letters⟩ := t
    obtain rfl := List.isEmpty_iff.mp blank
    exact ⟨_, rfl⟩
  | _ => cases blank

theorem ofOptions_object (stack : Stack) :
    Config.ofOptions stack (.object options) =
      (if ((Value.memberOf "max_slow_sql_length" options).getD .null).isBlank
        then .ok Config.standardLimit
        else ((Value.memberOf "max_slow_sql_length" options).getD .null).toInt.map .int) >>=
      fun limit => Config.ofValues stack limit
        ((Value.memberOf "slow_db_threshold" options).getD .null).orNull := by
  unfold Config.ofOptions
  simp only [Value.memberD, Value.member?]
  change (if _ then _ else _) = _
  split <;> rfl

theorem Told.ofOptions (told : job.Told options) (valid : job.Valid inv)
    (stack : Stack) : Config.ofOptions stack (.object options) = job.config stack := by
  have limit : (if ((Value.memberOf "max_slow_sql_length" options).getD .null).isBlank
      then .ok Config.standardLimit
      else ((Value.memberOf "max_slow_sql_length" options).getD .null).toInt.map Value.int) =
      .ok ((job.limit.map .int).getD Config.standardLimit) := by
    have told := told.limit
    cases known : Value.memberOf "max_slow_sql_length" options with
    | none =>
      rw [known] at told
      rw [← Except.ok.inj told]
      rfl
    | some v =>
      rw [known] at told
      obtain ⟨n, read, same⟩ := map_ok_iff.mp told
      rw [← same, Option.getD_some, read, if_neg]
      · rfl
      · -- What can be read as an integer is not blank, so no standard takes its place.
        intro blank
        obtain ⟨f, failed⟩ := toInt_blank blank
        rw [failed] at read
        cases read
  have thresholds : ∀ limit : Value,
      Config.ofValues stack limit ((Value.memberOf "slow_db_threshold" options).getD .null).orNull =
        Config.ofValues stack limit (.text (job.thresholds.getD Thresholds.standard)) := by
    intro limit
    rw [told.thresholds]
    cases known : job.thresholds with
    | none => rfl
    | some t =>
      have given : (Value.text t).orNull = .text t := by
        simp [Value.orNull, (valid.thresholds t known).1]
      rw [Option.map_some, Option.getD_some, Option.getD_some, given]
  rw [ofOptions_object, limit]
  exact thresholds _

/-! ### Three answers -/

theorem nonempty_of_isJsonName {name : String} (json : Upload.isJsonName name = true) :
    name.isEmpty = false := by
  cases empty : name.isEmpty with
  | false => rfl
  | true =>
    obtain rfl := String.isEmpty_iff.mp empty
    cases json

theorem Posted.answer {post : Incoming Value} (posted : job.Posted inv server post segments)
    (valid : job.Valid inv) (configured : job.config server.stack = .ok config) :
    Posting.respond server post = server.ofAnalysis inv config (Analyzer.processAll segments) := by
  obtain ⟨payload, taken, asked⟩ := posted.taken
  obtain ⟨options, part, told⟩ := asked.options
  have made : Posting.ofValue server.stack payload (.list job.segments) =
      .ok { config, inventory := inv, segments } := by
    refine bind_ok_iff.mpr ⟨_, part, bind_ok_iff.mpr ⟨config, ?_, ?_⟩⟩
    · rw [told.ofOptions valid, configured]
    · refine bind_ok_iff.mpr ⟨_, asked.inventory, bind_ok_iff.mpr ⟨inv, valid.inventory, ?_⟩⟩
      exact bind_ok_iff.mpr ⟨_, rfl, bind_ok_iff.mpr ⟨segments, posted.decoded, rfl⟩⟩
  have found := asked.segments
  rw [Posting.respond, taken]
  cases payload with
  | object members =>
    simp only [Value.member] at found
    split at found
    · rename_i listed known
      obtain rfl := Except.ok.inj found
      simp only [Posting.respondTo, known, made]
    · cases found
  | _ => cases found

theorem Uploaded.answer {folder : Folder} {upload : Incoming Form} {form : Form}
    {segmentFile inventoryFile : SentFile}
    (uploaded : job.Uploaded inv server folder upload form segmentFile inventoryFile segments)
    (valid : job.Valid inv) (configured : job.config server.stack = .ok config) :
    (Upload.respond server folder upload).2 =
      server.ofAnalysis inv config (Analyzer.processAll segments) := by
  obtain ⟨place, target, whole⟩ := uploaded.kept
  obtain ⟨there, entered, _⟩ := Folder.target_ok_iff.mp target
  have setup : Upload.readSetup server.stack form inventoryFile.content = .ok (config, inv) := by
    refine bind_ok_iff.mpr ⟨config, (uploaded.options.ofOptions valid _).trans configured, ?_⟩
    exact bind_ok_iff.mpr ⟨_, uploaded.read, bind_ok_iff.mpr ⟨inv, valid.inventory, rfl⟩⟩
  -- The file is found again under the name that it was kept under.
  have analysis : server.process (folder.write place segmentFile.content)
      (server.plainName segmentFile.name) = Analyzer.processAll segments :=
    Host.Finds.process_eq ⟨_, _, Folder.read_write target, uploaded.streamed, uploaded.decoded⟩
  have again := (folder.write_shape place segmentFile.content).entry entered
  have removed : Upload.removeFrom server (server.plainName segmentFile.name)
      (folder.write place segmentFile.content) =
        ((folder.write place segmentFile.content).remove there, none) := by
    simp only [Upload.removeFrom, again, uploaded.removed]
  have stored : folder.store (server.storing place segmentFile.content) place
      segmentFile.content = (folder.write place segmentFile.content, none) := by
    rw [whole, Folder.store]
  have segmentsNamed := nonempty_of_isJsonName uploaded.named.1
  have inventoryNamed := nonempty_of_isJsonName uploaded.named.2
  simp only [Upload.respond, uploaded.taken, Upload.respondToForm, uploaded.listed, segmentsNamed,
    inventoryNamed, uploaded.named, Upload.respondToFiles, setup, target, stored, analysis, removed,
    Bool.or_self, Bool.and_self, Bool.false_eq_true, if_false, if_true]

section Command

variable {c : Console} {folder : Folder} {args : List Text} {place : Place}
  {segmentPath inventoryPath output : Text} {s : CommandLine.Settings}

theorem Called.report_eq
    (called : job.Called inv c folder args place segmentPath inventoryPath output s segments)
    (valid : job.Valid inv) (config : Config) :
    CommandLine.report c.toHost (.text inventoryPath) (.text segmentPath) config folder =
      Report.ofSegments inv config segments := by
  obtain ⟨bytes, text, found, decoded, read⟩ := called.read
  obtain ⟨data, opened, streamed⟩ := called.streamed
  refine CommandLine.report_eq ?_ ⟨data, _, opened, streamed, called.decoded⟩
  simp only [CommandLine.readInventory, found, decoded, read, bind, Except.bind, Except.mapError]
  exact valid.inventory

/-- The command ends normally if there is a report that can be written, and exits with 1 if not. -/
theorem Called.outcome
    (called : job.Called inv c folder args place segmentPath inventoryPath output s segments)
    (valid : job.Valid inv) (configured : job.config c.stack = .ok config) :
    let outcome := CommandLine.run c args folder
    (∀ r text, Report.ofSegments inv config segments = .ok r →
      Json.write c.stack r.toValue "" = (text, none) →
        outcome.exitCode = 0 ∧ outcome.folder = folder.write place text.toUTF8) ∧
    ((∀ r, Report.ofSegments inv config segments = .ok r →
      (Json.write c.stack r.toValue "").2 ≠ none) → outcome.exitCode = 1) := by
  intro outcome
  have run : outcome =
      CommandLine.runWith c (.text inventoryPath) (.text segmentPath) s folder := by
    change CommandLine.run c args folder = _
    rw [CommandLine.run, called.parsed]
  have chosen : Config.ofValues c.stack s.maxLength s.thresholds = .ok config := by
    rw [called.limit, called.thresholds]
    exact configured
  have opens : ∀ r, Report.ofSegments inv config segments = .ok r → CommandLine.Opens c
      (.text inventoryPath) (.text segmentPath) s folder config r output place := fun r made =>
    { configured := chosen
      announced := CommandLine.prints_of_quiet called.quiet _ _
      reported := (called.report_eq valid config).trans made
      named := called.target.1
      target := called.target.2 }
  rw [run]
  constructor
  · intro r text made written
    obtain ⟨left, whole, _⟩ := (opens r made).runWith_eq
    rw [written, called.stored, Folder.store] at left whole
    exact ⟨whole ⟨rfl, rfl, CommandLine.prints_of_quiet called.quiet _ _⟩, left⟩
  · intro unwritten
    by_cases opened : ∃ config r output place, CommandLine.Opens c (.text inventoryPath)
        (.text segmentPath) s folder config r output place
    · obtain ⟨config', r, output', place', h⟩ := opened
      obtain rfl := Except.ok.inj (chosen.symm.trans h.configured)
      have made := (called.report_eq valid config).symm.trans h.reported
      exact h.runWith_eq.2.2 fun complete => unwritten r made complete.1
    · exact (CommandLine.runWith_unopened opened).2

end Command

/-- A segment without spans, in an inventory without entries. -/
def smallJob : Job where
  inventory := .object []
  segments := [.object [("traceSegmentId", .text "s"), ("serviceId", .int 1),
    ("serviceInstanceId", .int 1)]]

def smallSegment : Segment where
  id := "s"
  serviceId := 1
  instanceId := 1
  traceIds := []
  spans := []

def smallText : String :=
  "\x7b\"segments\":[\x7b\"traceSegmentId\":\"s\",\"serviceId\":1,\"serviceInstanceId\":1\x7d]\x7d"

def smallPayload : Value := .object [("segments", .list smallJob.segments)]

def smallForm : Form where
  files := [("file", ⟨"s.json", smallText.toUTF8⟩), ("inventory", ⟨"i.json", "\x7b\x7d".toUTF8⟩)]

def smallFolder : Folder :=
  (Folder.writeHere {} "i.json" "\x7b\x7d".toUTF8).writeHere "s.json" smallText.toUTF8

def smallArgs : List Text := ["i.json", "s.json", "-o", "out.json"]

def smallSettings : CommandLine.Settings where
  positional := [.text "i.json", .text "s.json"]
  output := .text "out.json"

def framework : Server := Reference.server {}

def console : Console where
  items := Reference.items

theorem smallJob_suffices : smallJob.Suffices .initial {} [smallSegment] where
  decoded := rfl
  enough config _ := by
    refine ⟨fun x member parts first => ?_, fun x member r present => ?_⟩
    · obtain rfl := List.mem_singleton.mp member
      cases first
    · obtain rfl := List.mem_singleton.mp member
      cases present

theorem items_smallText : Reference.items smallText.toUTF8 = { items := smallJob.segments } := by
  rfl

theorem presents_framework {v : Value} (plain : v.isPlain = true) : Presents framework v where
  whole writable := by
    change (if v.isWritable then _ else _) = _
    rw [if_pos writable, Value.decimalsAsText_plain v plain]
  long unwritable := by
    refine ⟨.longInteger, ?_⟩
    change (if v.isWritable then _ else _) = _
    rw [unwritable]
    rfl

theorem smallJob_called : smallJob.Called .initial console smallFolder smallArgs ["out.json"]
    "s.json" "i.json" "out.json" smallSettings [smallSegment] where
  toSuffices := smallJob_suffices
  parsed := rfl
  streamed := ⟨_, rfl, items_smallText⟩
  read := ⟨_, _, rfl, rfl, rfl⟩
  limit := rfl
  thresholds := rfl
  target := ⟨rfl, rfl⟩
  quiet _ _ := rfl
  written r _ := Stack.reaches_of_writes (fun _ _ => rfl) 0 r.toValue
  stored _ := rfl

/-- A numeral of so many ones and one more. -/
def ones (n : Nat) : Text := ⟨.char '1' :: List.replicate n (.char '1')⟩

end Job

end TraceScope
