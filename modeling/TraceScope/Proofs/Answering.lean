import TraceScope.Proofs.Demands
import TraceScope.Proofs.Nearest
import TraceScope.Proofs.Processing
import TraceScope.Proofs.Registration
import TraceScope.Proofs.Rejection
import TraceScope.Proofs.Reporting
import TraceScope.Proofs.Surfaces

/-!
# Answers to posted segments

Once a posting is read, its answer depends on the first fault of its segments and, if there is none,
on the report. Every fault is answered with its message. A report that cannot be presented is not:
the answer is a bare server error.
-/

namespace TraceScope

/-! ### Faults of an analysis

Documents are read before an analysis begins, so none of its faults is that a document is malformed.
-/

section Faults

variable {α β σ : Type}

/-- A computation that blames no document. -/
def Blameless (x : Except Fault α) : Prop := ∀ f, x = .error f → f.kind ≠ .format

def Step.Blameless (a : Step σ) : Prop := ∀ s f, (a s).2 = some f → f.kind ≠ .format

theorem blameless_ok (a : α) : Blameless (.ok a) := fun _ failed => by cases failed

theorem blameless_error {g : Fault} (other : g.kind ≠ .format) :
    Blameless (.error g : Except Fault α) := by
  rintro f ⟨⟩
  exact other

theorem blameless_bind {x : Except Fault α} {next : α → Except Fault β} (first : Blameless x)
    (later : ∀ a, Blameless (next a)) : Blameless (x >>= next) := fun _ failed =>
  bind_fault failed first fun a f _ failed => later a f failed

theorem blameless_map {x : Except Fault α} {g : α → β} (h : Blameless x) : Blameless (x.map g) :=
  fun f failed => h f (map_error_iff.mp failed)

theorem blameless_mapM {f : α → Except Fault β} (single : ∀ a, Blameless (f a))
    (items : List α) : Blameless (items.mapM f) := by
  induction items with
  | nil => exact blameless_ok []
  | cons a rest ih =>
    rw [List.mapM_cons]
    exact blameless_bind (single a) fun b => blameless_bind ih fun bs => blameless_ok _

theorem blameless_foldlM {f : β → α → Except Fault β} (single : ∀ b a, Blameless (f b a))
    (items : List α) (b : β) : Blameless (items.foldlM f b) := by
  induction items generalizing b with
  | nil => exact blameless_ok b
  | cons a rest ih =>
    rw [List.foldlM_cons]
    exact blameless_bind (single b a) ih

namespace Step

theorem blameless_update (g : σ → σ) : Blameless (update g) := fun _ _ failed => by cases failed

theorem blameless_andThen {a b : Step σ} (first : Blameless a) (second : Blameless b) :
    Blameless (a.andThen b) := by
  intro s f failed
  rcases andThen_fault failed with here | ⟨t, _, there⟩
  · exact first s f here
  · exact second t f there

theorem blameless_ofExcept {x : Except Fault α} {next : α → Step σ} (first : TraceScope.Blameless x)
    (later : ∀ a, Blameless (next a)) : Blameless (ofExcept x next) := by
  intro s f failed
  rcases ofExcept_fault failed with here | ⟨a, _, there⟩
  · exact first f here
  · exact later a s f there

theorem blameless_each {step : α → Step σ} (single : ∀ a, Blameless (step a)) (items : List α) :
    Blameless (each step items) := by
  intro s f failed
  obtain ⟨a, _, t, failed⟩ := each_fault failed
  exact single a t f failed

end Step

end Faults

namespace Inventory

variable {ν : Type}

theorem found_blameless (l : Lookup) (o : Option ν) : Blameless (found l o) := by
  cases o with
  | some a => exact blameless_ok a
  | none =>
    apply blameless_error
    unfold unresolved
    dsimp only
    split
    · exact (by decide : Fault.Kind.lookup ≠ .format)
    · exact (by decide : Fault.Kind.badValue ≠ .format)

theorem searchTable_blameless (t : Table Int ν) (l : Lookup) (key : Value) :
    Blameless (searchTable t l key) := by
  have keyed : Blameless key.key := by
    cases key with
    | list _ => exact blameless_error (by decide : Fault.Kind.wrongType ≠ .format)
    | object _ => exact blameless_error (by decide : Fault.Kind.wrongType ≠ .format)
    | double x => cases x <;> exact blameless_ok _
    | _ => exact blameless_ok _
  refine blameless_bind (blameless_bind keyed fun k => ?_) fun id => found_blameless l _
  cases k <;> exact blameless_ok _

theorem endpointName_blameless (inv : Inventory) (id : Int) : Blameless (inv.endpointName id) :=
  blameless_map (found_blameless _ _)

theorem endpointName?_blameless (inv : Inventory) (id : Int) :
    Blameless (inv.endpointName? id) := by
  unfold endpointName?
  split
  · exact blameless_ok _
  · exact inv.endpointName_blameless id

theorem party_blameless (inv : Inventory) (serviceId instanceId : Value) (endpointId : Int)
    {nameOf : Int → Except Fault Value} (named : ∀ id, Blameless (nameOf id)) :
    Blameless (inv.party serviceId instanceId endpointId nameOf) :=
  blameless_bind (searchTable_blameless _ _ _) fun _ =>
    blameless_bind (searchTable_blameless _ _ _) fun _ =>
      blameless_bind (named endpointId) fun _ => blameless_ok _

end Inventory

namespace Edge

variable (inv : Inventory) (info : SegmentInfo) (span : Span)

theorem entryParty_blameless : Blameless (entryParty inv info span) :=
  inv.party_blameless _ _ _ inv.endpointName_blameless

theorem ofUser_blameless : Blameless (ofUser inv info span) :=
  blameless_bind (inv.party_blameless _ _ _ inv.endpointName_blameless) fun _ =>
    blameless_bind (entryParty_blameless inv info span) fun _ => blameless_ok _

theorem ofReference_blameless (ref : Reference) : Blameless (ofReference inv info span ref) := by
  have called : Blameless (caller inv span.layer ref) := by
    unfold caller
    split
    · exact blameless_bind (Inventory.found_blameless _ _) fun _ =>
        blameless_bind (Inventory.found_blameless _ _) fun _ => blameless_ok _
    · exact blameless_bind (Inventory.found_blameless _ _) fun _ => blameless_ok _
  exact blameless_bind called fun _ =>
    blameless_bind (inv.party_blameless _ _ _ inv.endpointName?_blameless) fun _ =>
      blameless_bind (entryParty_blameless inv info span) fun _ => blameless_ok _

theorem ofExit_blameless : Blameless (ofExit inv info span) :=
  blameless_bind (Inventory.found_blameless _ _) fun _ =>
    blameless_bind (blameless_map (Inventory.found_blameless _ _)) fun _ =>
      blameless_bind (Inventory.found_blameless _ _) fun _ =>
        blameless_bind (inv.party_blameless _ _ _ inv.endpointName_blameless) fun _ =>
          blameless_bind (inv.party_blameless _ _ _ inv.endpointName_blameless) fun _ =>
            blameless_ok _

end Edge

theorem minuteBucket_blameless (ms : Int) : Blameless (minuteBucket ms) := by
  have overflow : Fault.Kind.overflow ≠ .format := by decide
  have seconds : ∀ s, Blameless (bucketOfSeconds s) := by
    intro s
    unfold bucketOfSeconds
    dsimp only
    split
    · exact blameless_error overflow
    · split
      · exact blameless_error (by decide : Fault.Kind.system ≠ .format)
      · split
        · exact blameless_error (by decide : Fault.Kind.badValue ≠ .format)
        · exact blameless_ok _
  unfold minuteBucket
  split
  · unfold bucketOfMillis
    split
    · exact blameless_error (by decide : Fault.Kind.badValue ≠ .format)
    · exact blameless_error overflow
    · split
      · exact seconds _
      · exact blameless_error overflow
  · exact blameless_error overflow

theorem told_blameless (stack : Stack) (use : Telling) (v : Value) :
    Blameless (v.told stack use) := by
  unfold Value.told
  split
  · exact blameless_ok _
  · rename_i f untold
    apply blameless_error
    rcases Demand.tellingFault?_cases untold with ⟨rfl, _⟩ | ⟨rfl, _⟩
    · exact (by decide : Fault.Kind.recursion ≠ .format)
    · exact (by decide : Fault.Kind.badValue ≠ .format)

namespace Statement

theorem truncate_blameless (limit : LengthLimit) (v : Value) : Blameless (truncate limit v) := by
  have wrong : Fault.Kind.wrongType ≠ .format := by decide
  have measured : Blameless (length v) := by
    cases v with
    | text _ | list _ | object _ => exact blameless_ok _
    | _ => exact blameless_error wrong
  have cut : Blameless limit.cut := by
    cases limit with
    | real _ => exact blameless_error wrong
    | _ => exact blameless_ok _
  have kept : Blameless (keep limit v) := by
    cases v with
    | text _ | list _ => exact blameless_bind cut fun _ => blameless_ok _
    | _ => exact blameless_error wrong
  unfold truncate
  split
  · refine blameless_bind measured fun n => ?_
    split
    · exact kept
    · exact blameless_ok _
  · exact blameless_ok _

theorem forType_blameless (t : Thresholds) (v : Value) : Blameless (t.forType v) := by
  unfold Thresholds.forType
  split
  · exact blameless_ok _
  · split
    · exact blameless_error (by decide : Fault.Kind.noAttribute ≠ .format)
    · exact blameless_ok _

theorem evaluate_blameless (config : Config) (tags : List Tag) (latency : Int) :
    Blameless (evaluate config tags latency) := by
  refine blameless_foldlM (fun found tag => ?_) tags _
  unfold look
  split
  · split
    · exact blameless_bind (truncate_blameless _ _) fun _ => blameless_ok _
    · split
      · refine blameless_bind (forType_blameless _ _) fun threshold =>
          blameless_bind (blameless_ok _) fun exceeded => ?_
        cases exceeded <;> exact blameless_ok _
      · exact blameless_ok _
  · exact blameless_ok _

end Statement

namespace Listener

variable (inv : Inventory) (config : Config) (info : SegmentInfo)

theorem slowStatement?_blameless (span : Span) (e : Edge) (traceId : Option Text) :
    Blameless (slowStatement? config info span e traceId) := by
  have identified : Blameless (statementId info span) := by
    unfold statementId
    split
    · exact blameless_ok _
    · exact blameless_error (by decide : Fault.Kind.badValue ≠ .format)
  refine blameless_bind (Statement.evaluate_blameless _ _ _) fun finding => ?_
  split
  · exact blameless_bind identified fun _ =>
      blameless_bind (minuteBucket_blameless _) fun _ => blameless_ok _
  · exact blameless_ok _

theorem receive_blameless (e : Event) : Step.Blameless (receive inv config info e) := by
  have minute := Step.blameless_update (fixMinute info)
  cases e with
  | entry span =>
    change Step.Blameless (onEntry inv info span)
    unfold onEntry addEntryLegs
    refine Step.blameless_andThen minute (Step.blameless_andThen ?_ (Step.blameless_update _))
    split
    · exact Step.blameless_ofExcept (Edge.ofUser_blameless inv info span) fun _ =>
        Step.blameless_update _
    · exact Step.blameless_each (fun ref => Step.blameless_ofExcept
        (Edge.ofReference_blameless inv info span ref) fun _ => Step.blameless_update _) _
  | exit span =>
    change Step.Blameless (onExit inv config info span)
    unfold onExit
    refine Step.blameless_andThen minute ?_
    split
    · exact Step.blameless_update id
    · refine Step.blameless_ofExcept (Edge.ofExit_blameless inv info span) fun e =>
        Step.blameless_andThen (Step.blameless_update _) fun l f failed => ?_
      obtain ⟨_, failed, _⟩ := addSlowStatement_rejected failed
      exact slowStatement?_blameless config info span e _ f failed
  | traceId parts =>
    intro l f failed
    have accepted : Blameless (TraceId.accept config.stack l.traceId parts) := by
      cases l.traceId with
      | some id => exact blameless_ok _
      | none => exact blameless_map (blameless_map (blameless_mapM (told_blameless _ _) parts))
    change (onTraceId config parts l).2 = some f at failed
    unfold onTraceId at failed
    split at failed
    · cases failed
    · rename_i g unread
      obtain rfl := Option.some.inj failed
      exact accepted g unread

end Listener

theorem Segment.info_blameless (segment : Segment) : Blameless segment.info := by
  unfold Segment.info
  split
  · exact blameless_ok _
  · exact blameless_bind (minuteBucket_blameless _) fun _ => blameless_ok _

theorem Segment.emission_blameless (inv : Inventory) (config : Config) (segment : Segment) :
    Blameless (segment.emission inv config) := by
  refine blameless_bind segment.info_blameless fun info f failed => ?_
  have told := Step.blameless_each (Listener.receive_blameless inv config info) segment.events
  rcases gathered : Listener.gather inv config info segment.events with ⟨l, _ | g⟩
  · rw [gathered] at failed
    cases failed
  · rw [gathered] at failed
    obtain rfl := Except.error.inj failed
    exact told {} g (congrArg Prod.snd gathered)

theorem Analyzer.firstFault_kind {inv : Inventory} {config : Config} {segments : List Segment}
    {f : Fault} (failed : firstFault inv config segments = some f) : f.kind ≠ .format := by
  obtain ⟨segment, _, failed⟩ := List.exists_of_findSome?_eq_some failed
  cases reached : segment.emission inv config with
  | ok rs =>
    rw [(alone_ok reached).2.2] at failed
    cases failed
  | error g =>
    rw [(alone_error reached).2.2] at failed
    obtain rfl := Option.some.inj failed
    exact Segment.emission_blameless inv config segment g reached

/-! ### Names of services -/

namespace Inventory

theorem NamesServices.addService {inv : Inventory} {s : Service} (h : inv.NamesServices)
    (named : ∃ t, s.name = .text t) : (inv.addService s).NamesServices := by
  intro id known found
  change (inv.services.insert s.id s).get? id = some known at found
  rw [Table.get?_insert] at found
  split at found
  · obtain rfl := Option.some.inj found
    exact named
  · exact h id known found

theorem initial_named : initial.NamesServices := by
  have empty : NamesServices {} := fun id known found => by cases found
  exact empty.addService ⟨_, rfl⟩

theorem ofLists_named {ss : List Service} {is : List Instance} {es : List Endpoint}
    (named : ∀ s ∈ ss, ∃ t, s.name = .text t) : (ofLists ss is es).NamesServices := by
  refine ofRegistrations_keeps initial_named fun inv r member h => ?_
  cases r with
  | service s =>
    refine h.addService (named s ?_)
    simpa using member
  | inst | endpoint => exact h

end Inventory

/-! ### Averages -/

theorem CallSummary.hasMean_iff {row : CallSummary} (some : 0 < row.count) :
    row.hasMean = true ↔
      (row.totalLatency.natAbs : ℚ) / row.count < Binary64.overflowBound :=
  quotient?_isSome_iff some

/-! ### The answer -/

namespace Server

variable {server : Server} {f : Fault}

/-- A service presents what tells a message as it is. -/
def TellsProblems (server : Server) : Prop :=
  ∀ message, server.jsonify (problemBody message) = .ok (problemBody message)

theorem failed_lookup (tells : server.TellsProblems) (lookup : f.kind = .lookup) :
    server.failed f = ⟨422, some (problemBody ("Unresolvable identity: " ++ f.message))⟩ := by
  rw [failed, lookup]
  dsimp only
  rw [problem, json, tells]

theorem failed_other (tells : server.TellsProblems) (lookup : f.kind ≠ .lookup)
    (format : f.kind ≠ .format) : server.failed f = ⟨500, some (problemBody f.message)⟩ := by
  unfold failed
  split
  · rename_i same
    exact absurd same lookup
  · rename_i same
    exact absurd same format
  · rw [problem, json, tells]

end Server

namespace Posting

def records (p : Posting) : List Record :=
  p.segments.flatMap (Analyzer.output p.inventory p.config)

def calls (p : Posting) : List Edge := p.records.filterMap Record.call?

def report (p : Posting) : Report where
  segmentCount := p.segments.length
  records := p.records
  calls := Report.sortedCalls p.calls

/-- A service can present the report: the stack suffices to report the records, no average is out
of range, and the report can be turned into JSON. -/
structure Presentable (server : Server) (p : Posting) : Prop where
  reported : ∀ r ∈ p.records, r.isReportable p.config.stack = true
  averages : ∀ row ∈ CallSummary.rows p.calls,
    (row.totalLatency.natAbs : ℚ) / row.count < Binary64.overflowBound
  presented : ∃ body, server.jsonify p.report.toValue = .ok body

variable {server : Server} {request : Incoming Value} {payload docs : Value} {p : Posting}

theorem Presentable.single {e : Edge} (h : Presentable server p) (calls : p.calls = [e]) :
    (e.latency.natAbs : ℚ) < Binary64.overflowBound := by
  have below := h.averages (CallSummary.row p.calls e.callId)
    (by rw [calls]; exact List.mem_singleton.mpr rfl)
  rw [calls] at below
  have alone : [e].filter (fun d => d.callId = e.callId) = [e] := by simp
  simpa [CallSummary.row, CallSummary.sum, alone] using below

theorem respond_taken (taken : request.taken = .ok payload) :
    respond server request = respondTo server payload := by
  rw [respond, taken]

theorem respondTo_read (listed : payload.member "segments" = .ok docs)
    (accepted : ofValue server.stack payload docs = .ok p) :
    respondTo server payload =
      server.ofAnalysis p.inventory p.config (Analyzer.processAll p.segments) := by
  cases payload with
  | object members =>
    simp only [Value.member] at listed
    split at listed
    · rename_i known
      obtain rfl := Except.ok.inj listed
      simp only [respondTo, known, accepted]
    · cases listed
  | _ => cases listed

theorem ofReport_records (names : p.inventory.NamesServices) :
    let answer := server.ofReport (Report.ofRecords p.config.stack p.segments.length p.records)
    (Presentable server p → ∀ body, server.jsonify p.report.toValue = .ok body →
      answer = ⟨200, some body⟩) ∧
    (¬Presentable server p → answer = .serverError) := by
  have told : ∀ e ∈ p.calls, e.Told := Analyzer.outputs_told names
  have averages : (CallSummary.rows p.calls).all CallSummary.hasMean = true ↔
      ∀ row ∈ CallSummary.rows p.calls,
        (row.totalLatency.natAbs : ℚ) / row.count < Binary64.overflowBound := by
    rw [List.all_eq_true]
    refine forall₂_congr fun row member => ?_
    exact CallSummary.hasMean_iff (CallSummary.rows_sumUp told row member).some
  have outcome : Report.ofRecords p.config.stack p.segments.length p.records =
      if p.records.all (Record.isReportable p.config.stack) then
        if (CallSummary.rows p.calls).all CallSummary.hasMean then .ok p.report
        else .error .quotientTooLarge
      else .error .tooDeepToReport := Report.ofRecords_told told
  intro answer
  have made : answer = server.ofReport (Report.ofRecords p.config.stack p.segments.length
    p.records) := rfl
  rw [made, outcome]
  -- The stack and the averages are seen when the report is made, the rest when it is presented.
  constructor
  · intro h body presented
    rw [if_pos (List.all_eq_true.mpr h.reported), if_pos (averages.mpr h.averages),
      Server.ofReport, Server.json, presented]
  · intro h
    split
    · rename_i reported
      split
      · rename_i means
        rw [Server.ofReport, Server.json]
        cases presented : server.jsonify p.report.toValue with
        | error f => rfl
        | ok body =>
          exact absurd ⟨List.all_eq_true.mp reported, averages.mp means, body, presented⟩ h
      · rfl
    · rfl

theorem respondTo_done (listed : payload.member "segments" = .ok docs)
    (accepted : ofValue server.stack payload docs = .ok p)
    (done : Analyzer.firstFault p.inventory p.config p.segments = none) :
    respondTo server payload =
      server.ofReport (Report.ofRecords p.config.stack p.segments.length p.records) := by
  rw [respondTo_read listed accepted, Server.ofAnalysis_done done, Report.ofSegments_done done]
  rfl

/-- Once a posting is read, its answer is settled by the first fault of its segments. A search that
finds nothing is answered with 422, every other fault with 500, and both with their message. Without
a fault the answer is the report with 200, if it can be presented, and a bare 500 if it cannot: that
is the only answer without a JSON body. -/
theorem respond_classified (tells : server.TellsProblems) (taken : request.taken = .ok payload)
    (listed : payload.member "segments" = .ok docs)
    (accepted : ofValue server.stack payload docs = .ok p) (names : p.inventory.NamesServices) :
    let fault := Analyzer.firstFault p.inventory p.config p.segments
    let answer := respond server request
    (∀ f, fault = some f → f.kind = .lookup → answer =
      ⟨422, some (.object [("error", .text ("Unresolvable identity: " ++ f.message))])⟩) ∧
    (∀ f, fault = some f → f.kind ≠ .lookup → answer =
      ⟨500, some (.object [("error", .text f.message)])⟩) ∧
    (fault = none → Presentable server p → ∀ body, server.jsonify p.report.toValue = .ok body →
      answer = ⟨200, some body⟩) ∧
    (fault = none → ¬Presentable server p → answer = ⟨500, none⟩) ∧
    (answer.body.isSome ↔ (fault = none → Presentable server p)) := by
  intro fault answer
  have answered : answer = respondTo server payload := respond_taken taken
  rw [answered]
  -- A fault is answered before there is a report; without one the report alone decides.
  cases known : fault with
  | some f =>
    have failed : respondTo server payload = server.failed f :=
      (respondTo_read listed accepted).trans (Server.ofAnalysis_failed known)
    have lookup : f.kind = .lookup → respondTo server payload = _ := fun lookup =>
      failed.trans (Server.failed_lookup tells lookup)
    have other : f.kind ≠ .lookup → respondTo server payload = _ := fun other =>
      failed.trans (Server.failed_other tells other (Analyzer.firstFault_kind known))
    refine ⟨?_, ?_, nofun, nofun, fun _ => nofun, fun _ => ?_⟩
    · rintro _ ⟨⟩
      exact lookup
    · rintro _ ⟨⟩
      exact other
    · by_cases kind : f.kind = .lookup
      · rw [lookup kind]
        rfl
      · rw [other kind]
        rfl
  | none =>
    have reported : respondTo server payload = _ := respondTo_done listed accepted known
    obtain ⟨presented, unpresented⟩ := ofReport_records names
    rw [reported]
    refine ⟨nofun, nofun, fun _ => presented, fun _ => unpresented, fun some _ => ?_, fun all => ?_⟩
    · by_contra h
      rw [unpresented h] at some
      cases some
    · obtain ⟨body, same⟩ := (all rfl).presented
      rw [presented (all rfl) body same]
      rfl

def standardConfig : Config where
  limit := .chars 2000
  thresholds := { table := ⟨[("default", 200), ("mongodb", 100)]⟩ }

def spanless : Posting where
  config := standardConfig
  inventory := .initial
  segments := [{ id := "s", serviceId := 1, instanceId := 1, traceIds := [], spans := [] }]

def spanlessReport : Report where
  segmentCount := 1
  records := []
  calls := []

theorem spanlessReport_written :
    spanlessReport.toValue.isPlain = true ∧ spanlessReport.toValue.isWritable = true := by
  have zero : Integer.isWritable 0 = true := Integer.isWritable_of_lt (by decide)
  have one : Integer.isWritable 1 = true := Integer.isWritable_of_lt (by decide)
  constructor
  · simp [spanlessReport, Report.toValue, Report.summary, Report.scopes, Report.counts,
      Report.slowStatements, Value.isPlain, Value.havePlain, Value.arePlain]
  · simp [spanlessReport, Report.toValue, Report.summary, Report.scopes, Report.counts,
      Report.slowStatements, Value.isWritable, Value.haveWritable, Value.areWritable, zero, one]

theorem spanless_presentable : Presentable Job.framework spanless := by
  have records : spanless.records = [] := rfl
  have calls : spanless.calls = [] := by rw [Posting.calls, records]; rfl
  refine ⟨fun r member => ?_, fun row member => ?_, ?_⟩
  · rw [records] at member
    cases member
  · rw [calls] at member
    cases member
  · obtain ⟨plain, writable⟩ := spanlessReport_written
    have report : spanless.report = spanlessReport := by
      rw [Posting.report, records, calls, Report.sortedCalls]
      simp [CallSummary.rows, spanless, spanlessReport]
    rw [report]
    exact ⟨_, (Job.presents_framework plain).whole writable⟩

theorem smallPayload_answered :
    let answer := respond Job.framework
      { contentLength := 90, received := .handed Job.smallPayload }
    Presentable Job.framework spanless ∧ Analyzer.firstFault spanless.inventory spanless.config
        spanless.segments = none ∧ answer.status = 200 ∧ answer.body.isSome := by
  intro answer
  have tells : Job.framework.TellsProblems := fun message => rfl
  have done : Analyzer.firstFault spanless.inventory spanless.config spanless.segments = none := rfl
  have accepted : ofValue {} Job.smallPayload (.list Job.smallJob.segments) = .ok spanless := by rfl
  have taken : ({ contentLength := 90, received := .handed Job.smallPayload } :
      Incoming Value).taken = .ok Job.smallPayload := Incoming.taken_handed (by decide)
  obtain ⟨_, _, presented, _, answered⟩ :=
    respond_classified tells taken (by rfl) accepted Inventory.initial_named
  obtain ⟨body, same⟩ := spanless_presentable.presented
  refine ⟨spanless_presentable, done, ?_, answered.mpr fun _ => spanless_presentable⟩
  exact congrArg Response.status (presented done spanless_presentable body same)

/-! ### A call that is too long to be reported -/

/-- One incoming call of a shop, which begins at time 0. -/
def singleDocs (endTime : Int) : Value :=
  .list [.object [("traceSegmentId", .text "s"), ("serviceId", .int 2),
    ("serviceInstanceId", .int 3), ("spans", .list [.object [("spanId", .int 0),
      ("spanType", .text "Entry"), ("operationNameId", .int 5), ("endTime", .int endTime)]])]]

def singlePayload (endTime : Int) : Value :=
  .object [
    ("inventory", .object [
      ("services", .list [.object [("id", .int 2), ("name", .text "shop")]]),
      ("serviceInstances", .list [.object [("id", .int 3), ("name", .text "shop-1"),
        ("serviceId", .int 2)]]),
      ("endpoints", .list [.object [("id", .int 5), ("name", .text "/pay")]])]),
    ("segments", singleDocs endTime)]

def singleCall (endTime : Int) : Segment where
  id := "s"
  serviceId := 2
  instanceId := 3
  traceIds := []
  spans := [{ id := 0, parentId := -1, kind := .entry, layer := .unknown, startTime := 0, endTime
              isError := false, operationId := 5, peerId := 0, componentId := 0, tags := []
              references := [] }]

def single (endTime : Int) : Posting where
  config := standardConfig
  inventory := .ofLists [{ id := 2, name := .text "shop" }]
    [{ id := 3, name := .text "shop-1", serviceId := 2 }] [{ id := 5, name := .text "/pay" }]
  segments := [singleCall endTime]

theorem single_emission (endTime : Int) : ∃ rs e,
    (singleCall endTime).emission (single endTime).inventory (single endTime).config = .ok rs ∧
      rs.filterMap Record.call? = [e] ∧ e.latency = endTime - 0 := by
  obtain ⟨b, dated⟩ := Analyzer.minuteBucket_zero
  have told : (singleCall endTime).info = .ok {
      segmentId := "s", serviceId := .int 2, instanceId := .int 3, startTime := 0, endTime
      minuteBucket := some (.int b), isError := false } := bind_ok_iff.mpr ⟨b, dated, rfl⟩
  exact ⟨_, _, Segment.emission_ok_iff.mpr ⟨_, _, told, by rfl, rfl⟩, by rfl, by rfl⟩

theorem single_accepted (endTime : Int) :
    ofValue {} (singlePayload endTime) (singleDocs endTime) = .ok (single endTime) := by
  rfl

theorem single_named (endTime : Int) : (single endTime).inventory.NamesServices := by
  apply Inventory.ofLists_named
  intro s member
  obtain rfl := List.mem_singleton.mp member
  exact ⟨_, rfl⟩

theorem single_processed (endTime : Int) :
    Analyzer.firstFault (single endTime).inventory (single endTime).config
        (single endTime).segments = none ∧
      ∃ e, (single endTime).calls = [e] ∧ e.latency = endTime := by
  obtain ⟨rs, e, reached, calls, latency⟩ := single_emission endTime
  obtain ⟨_, output, done⟩ := Analyzer.alone_ok reached
  refine ⟨List.findSome?_eq_none_iff.mpr fun s member => ?_, e, ?_, ?_⟩
  · obtain rfl := List.mem_singleton.mp member
    exact done
  · have records : (single endTime).records = rs ++ [] := congrArg (· ++ []) output
    rw [Posting.calls, records, List.append_nil, calls]
  · rw [latency, Int.sub_zero]

theorem single_listed (endTime : Int) :
    (singlePayload endTime).member "segments" = .ok (singleDocs endTime) := by
  rfl

theorem single_unanswered {endTime : Int}
    (long : Binary64.overflowBound ≤ (endTime.natAbs : ℚ)) :
    respondTo Job.framework (singlePayload endTime) = .serverError := by
  obtain ⟨done, e, calls, latency⟩ := single_processed endTime
  have reported : respondTo Job.framework (singlePayload endTime) = _ :=
    respondTo_done (single_listed endTime) (single_accepted endTime) done
  rw [reported]
  apply (ofReport_records (single_named endTime)).2
  intro presentable
  have below := presentable.single calls
  rw [latency] at below
  exact absurd below (not_lt.mpr long)

/-- A call that takes very long is processed without a fault, but its average is out of range. -/
theorem single_unreported :
    let endTime : Int := 2 ^ 1024
    let p := single endTime
    Job.framework.TellsProblems ∧
      (singlePayload endTime).member "segments" = .ok (singleDocs endTime) ∧
      ofValue {} (singlePayload endTime) (singleDocs endTime) = .ok p ∧
      p.inventory.NamesServices ∧
      Analyzer.firstFault p.inventory p.config p.segments = none ∧
      respond Job.framework
        { contentLength := 700, received := .handed (singlePayload endTime) } = ⟨500, none⟩ := by
  intro endTime p
  have size : (endTime.natAbs : ℚ) = 2 ^ 1024 := by
    have whole : endTime = ((2 ^ 1024 : Nat) : Int) := (Nat.cast_pow 2 1024).symm
    rw [whole, Int.natAbs_natCast]
    exact Nat.cast_pow 2 1024
  have answered : respond Job.framework
      { contentLength := 700, received := .handed (singlePayload endTime) } = _ :=
    respond_taken (Incoming.taken_handed (by decide))
  exact ⟨fun _ => rfl, single_listed _, single_accepted _, single_named _, (single_processed _).1,
    answered.trans (single_unanswered (Binary64.overflowBound_le.trans size.ge))⟩

end Posting

end TraceScope
