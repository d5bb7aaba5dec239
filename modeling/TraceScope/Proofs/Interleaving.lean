import TraceScope.Proofs.Offers
import TraceScope.Proofs.Processing

/-!
# Incoming and outgoing calls take turns in any order

One listener is told the incoming and the outgoing calls of a segment as they come. How the two
kinds take turns makes no difference, and neither does the work in between: whether a call can be
heard does not hang on what was heard before it, and what is published is put together from each
kind apart.
-/

namespace TraceScope

namespace Segment

def spansOf (kind : SpanKind) (s : Segment) : List Span := s.spans.filter fun x => x.kind = kind

/-- The same calls, each kind in the same order, by the same service in the same traces. The first
spans start in one minute; anything else may differ. -/
structure SameCalls (s t : Segment) : Prop where
  id : s.id = t.id
  service : s.serviceId = t.serviceId
  inst : s.instanceId = t.instanceId
  traceIds : s.traceIds = t.traceIds
  entries : s.spansOf .entry = t.spansOf .entry
  exits : s.spansOf .exit = t.spansOf .exit
  start : s.spans = [] ∧ t.spans = [] ∨
    ∃ x y m, s.spans.head? = some x ∧ t.spans.head? = some y ∧
      minuteBucket x.startTime = .ok m ∧ minuteBucket y.startTime = .ok m

variable {s t : Segment} {inv : Inventory} {config : Config} {info : SegmentInfo} {e : Event}

theorem SameCalls.symm (same : s.SameCalls t) : t.SameCalls s where
  id := same.id.symm
  service := same.service.symm
  inst := same.inst.symm
  traceIds := same.traceIds.symm
  entries := same.entries.symm
  exits := same.exits.symm
  start := by
    rcases same.start with ⟨left, right⟩ | ⟨x, y, m, left, right, first, second⟩
    · exact Or.inl ⟨right, left⟩
    · exact Or.inr ⟨y, x, m, right, left, second, first⟩

theorem outgoing_eq :
    outgoing s.spans = (s.spansOf .exit).filter fun x => x.peerId ≠ noId := by
  unfold outgoing spansOf
  rw [List.filter_filter]
  congr 1
  funext x
  rw [Bool.and_comm, Bool.decide_and]

theorem SameCalls.minute (same : s.SameCalls t) : s.minute = t.minute := by
  unfold Segment.minute
  rcases same.start with ⟨left, right⟩ | ⟨x, y, m, left, right, first, second⟩
  · rw [left, right]
  · simp only [left, right, Option.map_some, Span.minute, first, second]

theorem SameCalls.told (same : s.SameCalls t) : ∃ info, s.info = .ok info := by
  unfold Segment.info
  rcases same.start with ⟨none, _⟩ | ⟨x, _, m, head, _, dated, _⟩
  · rw [none]
    exact ⟨_, rfl⟩
  · obtain ⟨rest, spans⟩ := List.head?_eq_some_iff.mp head
    rw [spans]
    exact bind_succeeds.mpr ⟨m, dated, _, rfl⟩

theorem SameCalls.names (same : s.SameCalls t) (names : info.Names s) : info.Names t where
  id := names.id.trans same.id
  service := by rw [names.service, same.service]
  inst := by rw [names.inst, same.inst]
  minute := by rw [names.minute, same.minute]

theorem SameCalls.records (same : s.SameCalls t) :
    s.records inv config = t.records inv config := by
  have own : s.own inv = t.own inv := by
    funext endpointId
    simp only [Segment.own, same.service, same.inst]
  have calls : incoming s.spans = incoming t.spans := same.entries
  have sent : outgoing s.spans = outgoing t.spans := by
    rw [outgoing_eq, outgoing_eq, same.exits]
  have near : s.nearEndpoint = t.nearEndpoint := by
    rw [Segment.nearEndpoint, Segment.nearEndpoint, calls]
  have traceId : s.traceId = t.traceId := by
    rw [Segment.traceId, Segment.traceId, same.traceIds]
  have entry : s.entryRecords inv = t.entryRecords inv := by
    funext span
    simp only [entryRecords, entryLegs, own, same.minute]
  have exit : s.exitRecords inv = t.exitRecords inv := by
    funext span
    simp only [exitRecords, exitLeg, own, near, same.minute]
  have slow : s.slowStatement inv config = t.slowStatement inv config := by
    funext span
    simp only [slowStatement, same.id, traceId]
  simp only [Segment.records, slowCalls, calls, sent, entry, exit, slow]

/-- Every outgoing call goes out from the endpoint of the last incoming one. -/
theorem near_records {f : Facet} {leg : Edge} {b : Value}
    (member : .leg f leg b ∈ s.records inv config) (client : leg.detectPoint = .client) :
    leg.source.endpointId = s.nearEndpoint := by
  rcases leg_cases member with ⟨span, _, origin, _, rfl⟩ | ⟨span, _, rfl⟩
  · cases client
  · rfl

theorem mem_calls :
    e ∈ s.spans.filterMap Span.event? ↔
      (∃ x ∈ s.spansOf .entry, e = .entry x) ∨ ∃ x ∈ s.spansOf .exit, e = .exit x := by
  simp only [List.mem_filterMap, spansOf, List.mem_filter, decide_eq_true_eq]
  constructor
  · rintro ⟨x, member, told⟩
    unfold Span.event? at told
    cases kind : x.kind with
    | entry =>
      rw [kind] at told
      exact Or.inl ⟨x, ⟨member, kind⟩, (Option.some.inj told).symm⟩
    | exit =>
      rw [kind] at told
      exact Or.inr ⟨x, ⟨member, kind⟩, (Option.some.inj told).symm⟩
    | inner =>
      rw [kind] at told
      cases told
  · rintro (⟨x, ⟨member, kind⟩, rfl⟩ | ⟨x, ⟨member, kind⟩, rfl⟩)
    · exact ⟨x, member, by simp only [Span.event?, kind]⟩
    · exact ⟨x, member, by simp only [Span.event?, kind]⟩

end Segment

namespace Listener

variable {inv : Inventory} {config : Config} {info other : SegmentInfo} {segment : Segment}
  {span : Span}

/-! ### Calls are heard whatever was heard before -/

theorem onEntry_blind : Step.Blind (onEntry inv info span) := by
  have legs : Step.Blind (addEntryLegs inv info span) := by
    unfold addEntryLegs
    split
    · exact Step.blind_ofExcept fun _ => Step.blind_update _
    · exact Step.blind_each fun ref => Step.blind_ofExcept fun _ => Step.blind_update _
  exact Step.blind_andThen (Step.blind_update _) (Step.blind_andThen legs (Step.blind_update _))

/-- The trace identifier is noted in a slow statement, and is not looked at. -/
theorem slowStatement?_traceId (e : Edge) (id : Option Text) :
    slowStatement? config info span e id =
      (slowStatement? config info span e none).map
        (Option.map fun s => { s with traceId := id }) := by
  unfold slowStatement?
  cases Statement.evaluate config span.tags e.latency with
  | error f => rfl
  | ok finding =>
    obtain ⟨slow, statement⟩ := finding
    cases slow with
    | false => rfl
    | true =>
      cases statementId info span with
      | error f => rfl
      | ok name =>
        cases TraceScope.minuteBucket span.startTime with
        | error f => rfl
        | ok b => rfl

theorem addSlowStatement_blind (e : Edge) :
    Step.Blind (addSlowStatement config info span e) := by
  intro l m
  unfold addSlowStatement
  by_cases database : e.requestType = .database
  · rw [if_pos database, if_pos database, slowStatement?_traceId e l.traceId,
      slowStatement?_traceId e m.traceId]
    rcases slowStatement? config info span e none with f | _ | s
    · rfl
    · rfl
    · rfl
  · rw [if_neg database, if_neg database]

theorem onExit_blind : Step.Blind (onExit inv config info span) := by
  refine Step.blind_andThen (Step.blind_update _) ?_
  split
  · exact Step.blind_skip
  · exact Step.blind_ofExcept fun e =>
      Step.blind_andThen (Step.blind_update _) (addSlowStatement_blind e)

theorem calls_blind {e : Event} (call : e ∈ segment.spans.filterMap Span.event?) :
    Step.Blind (receive inv config info e) := by
  rcases Segment.mem_calls.mp call with ⟨x, _, rfl⟩ | ⟨x, _, rfl⟩
  · exact onEntry_blind
  · exact onExit_blind

/-- A segment can be heard if its trace identifiers can, and each of its calls can on its own. -/
theorem gather_succeeds_iff :
    (gather inv config info segment.events).2 = none ↔
      (Step.each (receive inv config info) (segment.traceIds.map .traceId) {}).2 = none ∧
        ∀ e ∈ segment.spans.filterMap Span.event?, (receive inv config info e {}).2 = none := by
  have single : ∀ e ∈ segment.spans.filterMap Span.event?, ∀ l,
      (receive inv config info e l).2 = none ↔ (receive inv config info e {}).2 = none := by
    intro e call l
    rw [calls_blind call l {}]
  unfold gather Segment.events
  rw [Step.each_append]
  rcases told : Step.each (receive inv config info) (segment.traceIds.map .traceId) {} with
    ⟨l, _ | f⟩
  · rw [Step.andThen_ok told, Step.each_succeeds_iff single]
    simp
  · rw [Step.andThen_failed told]
    simp

/-- Of the segment as a whole a listener looks at its numbers and its minute only. -/
theorem receive_names (names : info.Names segment) (named : other.Names segment) :
    receive inv config info = receive inv config other := by
  obtain ⟨id, service, inst, _, _, minute, _⟩ := info
  obtain ⟨_, _, _, _, _, _, _⟩ := other
  obtain rfl := names.id.trans named.id.symm
  obtain rfl := names.service.trans named.service.symm
  obtain rfl := names.inst.trans named.inst.symm
  obtain rfl := names.minute.trans named.minute.symm
  funext e
  cases e with
  | entry span => rfl
  | exit span => rfl
  | traceId parts => rfl

end Listener

namespace Analyzer

variable {inv : Inventory} {config : Config} {s t : Segment}

theorem succeeds_iff {segment : Segment} :
    succeeds inv config segment = true ↔ ∃ info, segment.info = .ok info ∧
      (Listener.gather inv config info segment.events).2 = none := by
  constructor
  · intro alone
    obtain ⟨info, l, told, gathered, _⟩ :=
      Segment.emission_ok_iff.mp (emission_of_succeeds alone)
    exact ⟨info, told, by rw [gathered]⟩
  · rintro ⟨info, told, heard⟩
    have reached := Segment.emission_ok_iff.mpr ⟨info, _, told, Prod.ext rfl heard, rfl⟩
    exact (alone_ok reached).1

theorem succeeds_same (same : s.SameCalls t) (alone : succeeds inv config s = true) :
    succeeds inv config t = true := by
  obtain ⟨info, told, heard⟩ := succeeds_iff.mp alone
  obtain ⟨other, toldOther⟩ := same.symm.told
  -- Both segments may reach over different times, but a listener looks at the minute only.
  have alike : Listener.receive inv config info = Listener.receive inv config other :=
    Listener.receive_names (same.names (Segment.info_names told)) (Segment.info_names toldOther)
  obtain ⟨ids, calls⟩ := Listener.gather_succeeds_iff.mp heard
  refine succeeds_iff.mpr ⟨other, toldOther, Listener.gather_succeeds_iff.mpr ⟨?_, ?_⟩⟩
  · rw [← alike, ← same.traceIds]
    exact ids
  · intro e call
    rw [← alike]
    refine calls e ?_
    rw [Segment.mem_calls, ← same.entries, ← same.exits, ← Segment.mem_calls] at call
    exact call

/-- How incoming and outgoing calls take turns makes no difference, and neither does the work in
between: of two segments with the same calls either both fail, or both publish the same records in
the same order. Outgoing calls go out from the endpoint of the last incoming one, before it or
after it. -/
theorem alone_interleaved (same : s.SameCalls t) :
    ((alone inv config s).2 = none ↔ (alone inv config t).2 = none) ∧
      output inv config s = output inv config t ∧
      ∀ f e b, .leg f e b ∈ output inv config t → e.detectPoint = .client →
        e.source.endpointId =
          ((s.spansOf .entry).getLast?.map (·.operationId)).getD userId := by
  have both : succeeds inv config s = succeeds inv config t :=
    Bool.eq_iff_iff.mpr ⟨succeeds_same same, succeeds_same same.symm⟩
  have alike : output inv config s = output inv config t := by
    rw [output_eq, output_eq, both, same.records]
  refine ⟨?_, alike, ?_⟩
  · rw [← Option.isNone_iff_eq_none, ← Option.isNone_iff_eq_none]
    exact Bool.eq_iff_iff.mp both
  · intro f e b member client
    rw [← alike, output_eq] at member
    split at member
    · exact Segment.near_records member client
    · cases member

/-- The slow query, asked before the call came in and some work was done. -/
def hastyQuery : Segment :=
  { slowQuery with
    spans := match slowQuery.spans with
      | [entry, exit] => [exit, { entry with kind := .inner, startTime := 70000 }, entry]
      | spans => spans }

theorem hastyQuery_same : slowQuery.SameCalls hastyQuery where
  id := rfl
  service := rfl
  inst := rfl
  traceIds := rfl
  entries := rfl
  exits := rfl
  start := by
    obtain ⟨m, dated⟩ := minuteBucket_zero
    exact Or.inr ⟨_, _, m, rfl, rfl, dated, dated⟩

theorem alone_hastyQuery :
    slowQuery.SameCalls hastyQuery ∧
      (alone impatient.inventory impatient.config hastyQuery).2 = none ∧
        (output impatient.inventory impatient.config hastyQuery).length = 11 := by
  obtain ⟨outcome, records, _⟩ :=
    @alone_interleaved impatient.inventory impatient.config _ _ hastyQuery_same
  refine ⟨hastyQuery_same, outcome.mp ?_, ?_⟩
  · rw [← Option.isNone_iff_eq_none]
    decide +kernel
  · rw [← records]
    decide +kernel

end Analyzer

end TraceScope
