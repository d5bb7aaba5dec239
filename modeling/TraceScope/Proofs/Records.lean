import TraceScope.Proofs.Emission
import TraceScope.Proofs.Specification

/-!
# What is published

A segment that is processed without a fault publishes its records, in their order. A listener that
was told some spans holds the legs and the slow statements of these spans; the records of all spans
are what it has at the end.
-/

namespace TraceScope

/-! ### Legs as they are made -/

namespace Edge

variable {inv : Inventory} {info : SegmentInfo} {segment : Segment} {span : Span} {e : Edge}

theorem caller_done {layer : SpanLayer} {ref : Reference} {service inst : Int}
    (called : caller inv layer ref = .ok (service, inst)) :
    ref.origin inv layer = inv.named service inst ref.parentEndpointId
      (inv.operationName? ref.parentEndpointId) := by
  have found := caller_ok_iff.mp called
  by_cases queue : layer = .messageQueue
  · rw [if_pos queue] at found
    obtain ⟨address, located⟩ := found
    simp only [Reference.origin, queue, if_true, address, located, Option.getD_some]
  · rw [if_neg queue] at found
    obtain ⟨⟨parent, present, rfl⟩, rfl⟩ := found
    simp only [Reference.origin, queue, if_false, present, Option.map_some, Option.getD_some]

theorem ofReference_done {ref : Reference} (names : info.Names segment)
    (made : ofReference inv info span ref = .ok e) :
    e = ofSpan span .server (ref.origin inv span.layer) (segment.own inv span.operationId) := by
  obtain ⟨service, inst, called, source, near, dest, own, rfl⟩ := ofReference_ok_iff.mp made
  obtain ⟨_, _, name, found, rfl⟩ := Inventory.party_ok_iff.mp near
  obtain ⟨_, rfl⟩ := (entryParty_ok_iff names).mp own
  rw [caller_done called, (Inventory.endpointName?_ok_iff.mp found).2]

theorem ofUser_done (names : info.Names segment) (made : ofUser inv info span = .ok e) :
    e = ofSpan span .server (inv.named userId userId userId (inv.operationName userId))
      (segment.own inv span.operationId) := by
  obtain ⟨source, near, dest, own, rfl⟩ := ofUser_ok_iff.mp made
  obtain ⟨_, _, name, found, rfl⟩ := Inventory.party_ok_iff.mp near
  obtain ⟨_, rfl⟩ := (entryParty_ok_iff names).mp own
  rw [(Inventory.endpointName_ok_iff.mp found).2]

theorem ofExit_done (names : info.Names segment) (made : ofExit inv info span = .ok e) :
    e = segment.exitLeg inv userId span := by
  obtain ⟨peer, address, s, service, inst, located, source, near, dest, far, rfl⟩ :=
    ofExit_ok_iff.mp made
  rw [names.service, names.inst] at near
  obtain ⟨_, _, name, found, rfl⟩ := Inventory.party_ok_iff.mp near
  obtain ⟨_, _, name', found', rfl⟩ := Inventory.party_ok_iff.mp far
  rw [(Inventory.endpointName_ok_iff.mp found).2, (Inventory.endpointName_ok_iff.mp found').2]
  simp only [Segment.exitLeg, Segment.own, Span.target, address, service, located, Option.map_some,
    Option.getD_some]

end Edge

/-! ### Slow statements as they are found -/

namespace Statement

variable {config : Config}

theorem keep_done {limit : LengthLimit} {v w : Value} (kept : keep limit v = .ok w)
    (long : ∃ n, length v = .ok n ∧ limit.exceededBy n = true) : w = limit.shorten v := by
  obtain ⟨n, counted, exceeded⟩ := long
  cases v with
  | text t =>
    obtain ⟨m, cut, kept⟩ := bind_ok_iff.mp kept
    obtain rfl := pure_ok_iff.mp kept
    cases counted
    simp only [LengthLimit.shorten, exceeded, if_true, LengthLimit.kept, cut]
    rfl
  | list items =>
    obtain ⟨m, cut, kept⟩ := bind_ok_iff.mp kept
    obtain rfl := pure_ok_iff.mp kept
    cases counted
    simp only [LengthLimit.shorten, exceeded, if_true, LengthLimit.kept, cut]
    rfl
  | _ => cases kept

theorem shorten_short {limit : LengthLimit} {v : Value}
    (short : ∀ n, length v = .ok n → limit.exceededBy n = false) : limit.shorten v = v := by
  cases v with
  | text t =>
    rw [LengthLimit.shorten, short _ rfl]
    rfl
  | list items =>
    rw [LengthLimit.shorten, short _ rfl]
    rfl
  | _ => rfl

theorem shorten_empty {limit : LengthLimit} {v : Value} (empty : v.truthy = false) :
    limit.shorten v = v := by
  cases v with
  | text t =>
    obtain ⟨letters⟩ := t
    cases letters with
    | nil => simp [LengthLimit.shorten]
    | cons l rest => cases empty
  | list items =>
    cases items with
    | nil => simp [LengthLimit.shorten]
    | cons v rest => cases empty
  | _ => rfl

theorem truncate_done {limit : LengthLimit} {v w : Value} (done : truncate limit v = .ok w) :
    w = limit.shorten v := by
  unfold truncate at done
  by_cases full : v.truthy = true
  · rw [if_pos full] at done
    obtain ⟨n, counted, done⟩ := bind_ok_iff.mp done
    by_cases long : limit.exceededBy n = true
    · rw [if_pos long] at done
      exact keep_done done ⟨n, counted, long⟩
    · rw [if_neg long] at done
      obtain rfl := pure_ok_iff.mp done
      refine (shorten_short fun m counted' => ?_).symm
      rw [counted] at counted'
      cases counted'
      exact Bool.not_eq_true _ ▸ long
  · rw [if_neg full] at done
    obtain rfl := pure_ok_iff.mp done
    exact (shorten_empty (Bool.not_eq_true _ ▸ full)).symm

theorem forType_done {thresholds : Thresholds} {v : Value} {n : Int}
    (found : thresholds.forType v = .ok n) : n = thresholds.millis v := by
  cases v with
  | text name =>
    cases found
    rfl
  | _ =>
    simp only [Thresholds.forType] at found
    split at found
    · cases found
    · cases found
      rfl

theorem statementKey_ne_typeKey : statementKey ≠ typeKey := by decide

theorem look_done {latency : Int} {f g : Finding} {t : Tag}
    (done : look config (fun threshold => .ok (decide (threshold < latency))) f t = .ok g) :
    g.slow = (f.slow || t.isNamed typeKey && decide (config.thresholds.millis t.value < latency)) ∧
      g.statement =
        if t.isNamed statementKey then config.limit.shorten t.value else f.statement := by
  -- No key names both, so a tag changes one of the two parts at most.
  obtain ⟨key, value⟩ := t
  cases key with
  | text key =>
    simp only [look] at done
    by_cases statement : key = statementKey
    · subst statement
      obtain ⟨w, truncated, done⟩ := bind_ok_iff.mp done
      obtain rfl := pure_ok_iff.mp done
      simp [Tag.isNamed, truncate_done truncated, statementKey_ne_typeKey]
    by_cases type : key = typeKey
    · subst type
      rw [if_neg statement] at done
      obtain ⟨threshold, found, done⟩ := bind_ok_iff.mp done
      obtain ⟨slow, compared, done⟩ := bind_ok_iff.mp done
      cases compared
      obtain rfl := forType_done found
      by_cases exceeded : config.thresholds.millis value < latency
      · rw [if_pos (decide_eq_true exceeded)] at done
        obtain rfl := pure_ok_iff.mp done
        simp [Tag.isNamed, exceeded, statement]
      · rw [if_neg (by simpa using exceeded)] at done
        obtain rfl := pure_ok_iff.mp done
        simp [Tag.isNamed, exceeded, statement]
    · rw [if_neg statement, if_neg type] at done
      obtain rfl := pure_ok_iff.mp done
      simp [Tag.isNamed, statement, type]
  | _ =>
    obtain rfl := pure_ok_iff.mp done
    simp [Tag.isNamed]

/-- What the tags tell, with what was known before them. -/
theorem foldlM_look_done {latency : Int} {tags : List Tag} {f g : Finding}
    (done : tags.foldlM (look config fun threshold => .ok (decide (threshold < latency))) f =
      .ok g) :
    g.slow = (f.slow || tags.any fun t =>
        t.isNamed typeKey && decide (config.thresholds.millis t.value < latency)) ∧
      g.statement = ((tags.filter (·.isNamed statementKey)).getLast?.map fun t =>
        config.limit.shorten t.value).getD f.statement := by
  induction tags generalizing f with
  | nil =>
    obtain rfl := pure_ok_iff.mp done
    simp
  | cons t rest ih =>
    rw [List.foldlM_cons] at done
    obtain ⟨u, first, later⟩ := bind_ok_iff.mp done
    obtain ⟨slow, statement⟩ := look_done first
    obtain ⟨slow', statement'⟩ := ih later
    refine ⟨by rw [slow', slow, List.any_cons, Bool.or_assoc], ?_⟩
    rw [statement', statement]
    by_cases named : t.isNamed statementKey = true
    · rw [if_pos named, List.filter_cons_of_pos named, List.getLast?_cons]
      cases (rest.filter (·.isNamed statementKey)).getLast? <;> rfl
    · rw [if_neg named, List.filter_cons_of_neg named]

theorem evaluate_done {span : Span} {f : Finding}
    (done : evaluate config span.tags span.latency = .ok f) :
    f.slow = span.isSlow config.thresholds ∧ f.statement = span.statement config.limit :=
  foldlM_look_done done

end Statement

/-! ### What a listener has heard -/

namespace Listener

/-- What a listener holds once it was told the trace identifiers of a segment and some of its
spans. -/
structure Heard (inv : Inventory) (config : Config) (segment : Segment) (spans : List Span)
    (l : Listener) : Prop where
  entryLegs : l.entryLegs =
    (incoming spans).flatMap fun span => (segment.entryLegs inv span).map fun e => { edge := e }
  exitLegs : l.exitLegs =
    (outgoing spans).map fun span => { edge := segment.exitLeg inv userId span }
  slowStatements : l.slowStatements =
    (Segment.slowCalls config spans).map (segment.slowStatement inv config)
  entrySpan : l.entrySpan = (incoming spans).getLast?
  minuteBucket : l.minuteBucket = none ∨ l.minuteBucket = some (.int segment.minute)
  traceId : l.traceId = segment.traceId

variable {inv : Inventory} {config : Config} {info : SegmentInfo} {segment : Segment}
  {spans : List Span} {span : Span} {l t : Listener}

theorem told_done {stack : Stack} {use : Telling} (v : Value) (text : Text)
    (told : v.told stack use = .ok text) : text = v.display := by
  unfold Value.told at told
  split at told
  · exact (Except.ok.inj told).symm
  · cases told

theorem onTraceId_done {parts : List Value} (done : onTraceId config parts l = (t, none)) :
    t = { l with
      traceId := l.traceId.or (some (Text.intercalate "." (parts.map Value.display))) } := by
  unfold onTraceId at done
  cases known : l.traceId with
  | some id =>
    rw [known] at done
    obtain ⟨rfl, _⟩ := Prod.mk.inj done
    rfl
  | none =>
    rw [known] at done
    cases accepted : TraceId.accept config.stack none parts with
    | error f =>
      rw [accepted] at done
      cases (Prod.mk.inj done).2
    | ok id =>
      rw [accepted] at done
      obtain ⟨rfl, _⟩ := Prod.mk.inj done
      obtain ⟨text, joined, rfl⟩ := map_ok_iff.mp accepted
      obtain ⟨texts, told, rfl⟩ := map_ok_iff.mp joined
      rw [mapM_done told_done told]
      rfl

theorem traceIds_done {ids : List (List Value)}
    (done : Step.each (receive inv config info) (ids.map .traceId) l = (t, none)) :
    t = { l with traceId := l.traceId.or (ids.head?.map fun parts =>
      Text.intercalate "." (parts.map Value.display)) } := by
  induction ids generalizing l with
  | nil =>
    obtain ⟨rfl, _⟩ := Prod.mk.inj done
    simp
  | cons parts rest ih =>
    obtain ⟨u, first, later⟩ := Step.andThen_eq_none.mp done
    rw [ih later, onTraceId_done first]
    cases l.traceId <;> rfl

theorem addReferenceLegs_done {refs : List Reference} (names : info.Names segment)
    (done : Step.each (fun ref => .ofExcept (Edge.ofReference inv info span ref) fun e =>
      .update (addEntryLeg e)) refs l = (t, none)) :
    t = { l with
      entryLegs := l.entryLegs ++ refs.map fun ref =>
        { edge := .ofSpan span .server (ref.origin inv span.layer)
            (segment.own inv span.operationId) } } := by
  induction refs generalizing l with
  | nil =>
    obtain ⟨rfl, _⟩ := Prod.mk.inj done
    simp
  | cons ref rest ih =>
    obtain ⟨u, first, later⟩ := Step.andThen_eq_none.mp done
    obtain ⟨e, made, added⟩ := Step.ofExcept_done first
    obtain rfl := Step.update_done added
    rw [ih later, Edge.ofReference_done names made]
    simp [addEntryLeg]

theorem addEntryLegs_done (names : info.Names segment)
    (done : addEntryLegs inv info span l = (t, none)) :
    t = { l with
      entryLegs := l.entryLegs ++ (segment.entryLegs inv span).map fun e => { edge := e } } := by
  cases refs : span.references with
  | nil =>
    simp only [addEntryLegs, refs] at done
    obtain ⟨e, made, added⟩ := Step.ofExcept_done done
    obtain rfl := Step.update_done added
    rw [Edge.ofUser_done names made]
    simp [Segment.entryLegs, Span.origins, refs, addEntryLeg]
  | cons ref rest =>
    simp only [addEntryLegs, refs] at done
    rw [addReferenceLegs_done names done]
    simp [Segment.entryLegs, Span.origins, refs]

theorem slowStatement?_done {found : Option SlowStatement} (names : info.Names segment)
    (done : slowStatement? config info span (segment.exitLeg inv userId span) segment.traceId =
      .ok found) :
    found = if span.isSlow config.thresholds then some (segment.slowStatement inv config span)
      else none := by
  obtain ⟨f, evaluated, done⟩ := bind_ok_iff.mp done
  obtain ⟨slow, statement⟩ := Statement.evaluate_done evaluated
  rw [← slow]
  cases exceeded : f.slow with
  | false =>
    rw [exceeded] at done
    exact (pure_ok_iff.mp done).symm
  | true =>
    rw [exceeded] at done
    obtain ⟨id, written, done⟩ := bind_ok_iff.mp done
    obtain ⟨b, dated, done⟩ := bind_ok_iff.mp done
    obtain rfl := pure_ok_iff.mp done
    unfold statementId at written
    split at written
    · obtain rfl := Except.ok.inj written
      simp [Segment.slowStatement, Segment.exitLeg, Edge.ofSpan, statement, Span.minute, dated,
        Except.toOption, names.id]
    · cases written

theorem addSlowStatement_done (names : info.Names segment) (told : l.traceId = segment.traceId)
    (done : addSlowStatement config info span (segment.exitLeg inv userId span) l = (t, none)) :
    t = { l with
      slowStatements := l.slowStatements ++
        if span.layer = .database ∧ span.isSlow config.thresholds then
          [segment.slowStatement inv config span] else [] } := by
  unfold addSlowStatement at done
  have layer : (segment.exitLeg inv userId span).requestType = .database ↔
      span.layer = .database := RequestType.ofLayer_eq_database
  by_cases database : span.layer = .database
  · rw [if_pos (layer.mpr database), told] at done
    cases found : slowStatement? config info span (segment.exitLeg inv userId span)
        segment.traceId with
    | error f =>
      rw [found] at done
      cases (Prod.mk.inj done).2
    | ok s =>
      rw [found] at done
      have known := slowStatement?_done names found
      by_cases slow : span.isSlow config.thresholds = true
      · rw [if_pos slow] at known
        subst known
        obtain ⟨rfl, _⟩ := Prod.mk.inj done
        rw [if_pos ⟨database, slow⟩, told]
      · rw [if_neg slow] at known
        subst known
        obtain ⟨rfl, _⟩ := Prod.mk.inj done
        rw [if_neg fun both => slow both.2, List.append_nil]
  · rw [if_neg (mt layer.mp database)] at done
    obtain ⟨rfl, _⟩ := Prod.mk.inj done
    rw [if_neg fun both => database both.1, List.append_nil]

theorem fixMinute_heard (names : info.Names segment)
    (known : l.minuteBucket = none ∨ l.minuteBucket = some (.int segment.minute)) :
    fixMinute info l = { l with minuteBucket := some (.int segment.minute) } := by
  unfold fixMinute
  rcases known with unknown | known
  · rw [unknown, names.minute]
    rfl
  · rw [known]
    rfl

theorem incoming_entry (kind : span.kind = .entry) :
    incoming (spans ++ [span]) = incoming spans ++ [span] := by
  simp [incoming, kind]

theorem incoming_other (kind : span.kind ≠ .entry) :
    incoming (spans ++ [span]) = incoming spans := by
  simp [incoming, kind]

theorem outgoing_call (kind : span.kind = .exit) (peer : span.peerId ≠ noId) :
    outgoing (spans ++ [span]) = outgoing spans ++ [span] := by
  simp [outgoing, kind, peer]

theorem outgoing_other (other : span.kind ≠ .exit ∨ span.peerId = noId) :
    outgoing (spans ++ [span]) = outgoing spans := by
  rcases other with kind | peer
  · simp [outgoing, kind]
  · simp [outgoing, peer]

theorem slowCalls_call (kind : span.kind = .exit) (peer : span.peerId ≠ noId) :
    Segment.slowCalls config (spans ++ [span]) = Segment.slowCalls config spans ++
      if span.layer = .database ∧ span.isSlow config.thresholds then [span] else [] := by
  unfold Segment.slowCalls
  rw [outgoing_call kind peer, List.filter_append, List.filter_cons, List.filter_nil]
  simp only [decide_eq_true_eq]

/-- A span that is no call of either direction changes nothing but the minute. -/
theorem silent_heard {b : Option Value} (inner : span.kind ≠ .entry)
    (other : span.kind ≠ .exit ∨ span.peerId = noId) (h : Heard inv config segment spans l)
    (minute : b = none ∨ b = some (.int segment.minute)) :
    Heard inv config segment (spans ++ [span]) { l with minuteBucket := b } where
  entryLegs := by rw [incoming_other inner]; exact h.entryLegs
  exitLegs := by rw [outgoing_other other]; exact h.exitLegs
  slowStatements := by rw [Segment.slowCalls, outgoing_other other]; exact h.slowStatements
  entrySpan := by rw [incoming_other inner]; exact h.entrySpan
  minuteBucket := minute
  traceId := h.traceId

theorem entry_heard (names : info.Names segment) (kind : span.kind = .entry)
    (h : Heard inv config segment spans l)
    (done : receive inv config info (.entry span) l = (t, none)) :
    Heard inv config segment (spans ++ [span]) t := by
  simp only [receive, onEntry] at done
  obtain ⟨u, fixed, later⟩ := Step.andThen_eq_none.mp done
  obtain ⟨v, added, remembered⟩ := Step.andThen_eq_none.mp later
  obtain rfl := Step.update_done fixed
  obtain rfl := Step.update_done remembered
  rw [addEntryLegs_done names added, fixMinute_heard names h.minuteBucket]
  have silent : outgoing (spans ++ [span]) = outgoing spans :=
    outgoing_other (Or.inl (by rw [kind]; decide))
  refine ⟨?_, ?_, ?_, ?_, Or.inr rfl, h.traceId⟩
  · rw [incoming_entry kind, List.flatMap_append, ← h.entryLegs]
    simp
  · rw [silent]
    exact h.exitLegs
  · rw [Segment.slowCalls, silent]
    exact h.slowStatements
  · rw [incoming_entry kind, List.getLast?_append]
    rfl

theorem exit_heard (names : info.Names segment) (kind : span.kind = .exit)
    (h : Heard inv config segment spans l)
    (done : receive inv config info (.exit span) l = (t, none)) :
    Heard inv config segment (spans ++ [span]) t := by
  have inner : span.kind ≠ .entry := by rw [kind]; decide
  simp only [receive, onExit] at done
  obtain ⟨u, fixed, done⟩ := Step.andThen_eq_none.mp done
  obtain rfl := Step.update_done fixed
  rw [fixMinute_heard names h.minuteBucket] at done
  -- The minute is fixed before a call without a peer is passed over.
  by_cases peer : span.peerId = noId
  · rw [if_pos peer] at done
    obtain ⟨rfl, _⟩ := Prod.mk.inj done
    exact silent_heard inner (Or.inr peer) h (Or.inr rfl)
  · rw [if_neg peer] at done
    obtain ⟨e, made, done⟩ := Step.ofExcept_done done
    obtain ⟨v, added, done⟩ := Step.andThen_eq_none.mp done
    obtain rfl := Step.update_done added
    rw [Edge.ofExit_done names made] at done
    have told : ∀ e b, (addExitLeg e { l with minuteBucket := b }).traceId = segment.traceId :=
      fun _ _ => h.traceId
    rw [addSlowStatement_done names (told _ _) done]
    refine ⟨?_, ?_, ?_, ?_, Or.inr rfl, h.traceId⟩
    · rw [incoming_other inner]
      exact h.entryLegs
    · rw [outgoing_call kind peer, List.map_append, ← h.exitLegs]
      rfl
    · rw [slowCalls_call kind peer, List.map_append, ← h.slowStatements]
      split
      · rfl
      · rfl
    · rw [incoming_other inner]
      exact h.entrySpan

theorem spans_heard {rest : List Span} (names : info.Names segment)
    (h : Heard inv config segment spans l)
    (done : Step.each (receive inv config info) (rest.filterMap Span.event?) l = (t, none)) :
    Heard inv config segment (spans ++ rest) t := by
  induction rest generalizing spans l with
  | nil =>
    obtain ⟨rfl, _⟩ := Prod.mk.inj done
    rw [List.append_nil]
    exact h
  | cons span rest ih =>
    rw [List.append_cons]
    cases kind : span.kind with
    | entry =>
      have event : span.event? = some (.entry span) := by simp only [Span.event?, kind]
      rw [List.filterMap_cons_some event] at done
      obtain ⟨u, first, later⟩ := Step.andThen_eq_none.mp done
      exact ih (entry_heard names kind h first) later
    | exit =>
      have event : span.event? = some (.exit span) := by simp only [Span.event?, kind]
      rw [List.filterMap_cons_some event] at done
      obtain ⟨u, first, later⟩ := Step.andThen_eq_none.mp done
      exact ih (exit_heard names kind h first) later
    | inner =>
      have event : span.event? = none := by simp only [Span.event?, kind]
      rw [List.filterMap_cons_none event] at done
      have other : span.kind ≠ .entry ∧ span.kind ≠ .exit := by rw [kind]; decide
      exact ih (silent_heard other.1 (Or.inl other.2) h h.minuteBucket) done

/-- A listener that was told a whole segment without a fault holds its calls and statements. -/
theorem gather_heard (names : info.Names segment)
    (done : gather inv config info segment.events = (l, none)) :
    Heard inv config segment segment.spans l := by
  unfold gather Segment.events at done
  rw [Step.each_append] at done
  obtain ⟨u, ids, spans⟩ := Step.andThen_eq_none.mp done
  have told := traceIds_done ids
  have before : Heard inv config segment [] u := by
    rw [told]
    exact ⟨rfl, rfl, rfl, rfl, Or.inl rfl, rfl⟩
  exact spans_heard names before spans

/-! ### What comes of it -/

theorem sourceEndpoint_heard (h : Heard inv config segment segment.spans l) :
    l.sourceEndpoint = segment.nearEndpoint := by
  unfold sourceEndpoint Segment.nearEndpoint
  rw [h.entrySpan]
  cases (incoming segment.spans).getLast? with
  | none => rfl
  | some span => rfl

/-- Once there are legs, the minute is that of the segment. -/
theorem minute_heard (sound : Sound inv l) (h : Heard inv config segment spans l)
    (legs : l.entryLegs ≠ [] ∨ l.exitLegs ≠ []) :
    l.minuteBucket = some (.int segment.minute) := by
  obtain ⟨b, fixed, _⟩ := minute_fixed sound legs
  rcases h.minuteBucket with unknown | known
  · rw [fixed] at unknown
    cases unknown
  · exact known

theorem entryRecords_heard (sound : Sound inv l) (h : Heard inv config segment spans l) :
    l.entryRecords = (incoming spans).flatMap (segment.entryRecords inv) := by
  have filed : ∀ leg ∈ l.entryLegs, (leg.file l.minuteBucket).records Edge.entryFacets =
      (leg.file (some (.int segment.minute))).records Edge.entryFacets := by
    intro leg member
    rw [minute_heard sound h (Or.inl (List.ne_nil_of_mem member))]
  unfold entryRecords
  rw [List.flatMap_def, List.map_congr_left filed, ← List.flatMap_def, h.entryLegs,
    List.flatMap_assoc]
  congr 1
  funext span
  rw [List.flatMap_map]
  rfl

theorem exitRecords_heard (sound : Sound inv l) (h : Heard inv config segment segment.spans l) :
    l.exitRecords inv = (outgoing segment.spans).flatMap (segment.exitRecords inv) := by
  have filed : ∀ leg ∈ l.exitLegs, (filedExit inv l leg).records Edge.exitFacets =
      (Leg.mk (leg.edge.withSourceEndpoint segment.nearEndpoint
        (inv.operationName segment.nearEndpoint)) (some (.int segment.minute))).records
          Edge.exitFacets := by
    intro leg member
    unfold filedExit
    rw [minute_heard sound h (Or.inr (List.ne_nil_of_mem member)), sourceEndpoint_heard h]
  unfold exitRecords
  rw [List.flatMap_def, List.map_congr_left filed, ← List.flatMap_def, h.exitLegs,
    List.flatMap_map]
  congr 1
  funext span
  have layer : (segment.exitLeg inv segment.nearEndpoint span).requestType = .database ↔
      span.layer = .database := RequestType.ofLayer_eq_database
  unfold Segment.exitRecords
  simp only [← layer]
  rfl

theorem records_heard (sound : Sound inv l) (h : Heard inv config segment segment.spans l) :
    l.records inv = segment.records inv config := by
  unfold records Segment.records
  rw [entryRecords_heard sound h, exitRecords_heard sound h, h.slowStatements, List.map_map,
    List.append_assoc]
  rfl

end Listener

namespace Analyzer

def slowQuery : Segment :=
  let entry : Span :=
    { id := 0, parentId := -1, kind := .entry, layer := .http, startTime := 0, endTime := 900
      isError := false, operationId := 1, peerId := 0, componentId := 0, tags := []
      references := [] }
  let exit : Span :=
    { entry with
      id := 1, kind := .exit, layer := .database, peerId := 9
      tags := [{ key := .text Statement.typeKey, value := .text "redis" },
        { key := .text Statement.statementKey, value := .text "GET cart" }] }
  { id := "s", serviceId := 1, instanceId := 1, traceIds := [[.int 7, .text "a"]]
    spans := [entry, exit] }

def impatient : Analyzer :=
  { withDatabase with
    config := { limit := .chars 3, thresholds := { table := .ofList [("default", 500)] } } }

end Analyzer

end TraceScope
