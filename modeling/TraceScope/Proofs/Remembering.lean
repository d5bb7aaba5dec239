import TraceScope.Proofs.Finalization

/-!
# What a listener remembers

Beside its legs a listener remembers its minute, an entry span, a trace identifier and the slow
statements, by different rules. The minute is that of the first call it was told of, also if that
call was passed over or failed; the entry span is the last that was taken in; the identifier is the
first that was told. A slow statement has the identifier that was known when its call was told.
-/

namespace TraceScope

namespace Listener

structure Memory where
  minuteBucket : Option Value
  entrySpan : Option Span
  traceId : Option Text
  slowStatements : List SlowStatement

def memory (l : Listener) : Memory :=
  ⟨l.minuteBucket, l.entrySpan, l.traceId, l.slowStatements⟩

variable {inv : Inventory} {config : Config} {info : SegmentInfo} {l t : Listener}

/-! ### One event -/

theorem addEntryLegs_memory (inv : Inventory) (info : SegmentInfo) (span : Span) (m : Memory) :
    Step.Keeps (fun l => l.memory = m) (addEntryLegs inv info span) := by
  unfold addEntryLegs
  split
  · apply Step.keeps_ofExcept
    exact fun e _ => Step.keeps_update fun _ same => same
  · apply Step.keeps_each
    intro ref _
    apply Step.keeps_ofExcept
    exact fun e _ => Step.keeps_update fun _ same => same

theorem onEntry_memory (inv : Inventory) (info : SegmentInfo) (span : Span) (l : Listener) :
    (onEntry inv info span l).1.memory =
      { l.memory with
        minuteBucket := l.minuteBucket.or info.minuteBucket
        entrySpan := if (onEntry inv info span l).2.isNone then some span else l.entrySpan } := by
  have kept := addEntryLegs_memory inv info span (fixMinute info l).memory (fixMinute info l) rfl
  unfold onEntry
  rw [Step.andThen_ok (t := fixMinute info l) rfl]
  rcases done : addEntryLegs inv info span (fixMinute info l) with ⟨t, _ | f⟩
  · rw [done] at kept
    rw [Step.andThen_ok done]
    exact congrArg (fun m : Memory => { m with entrySpan := some span }) kept
  · rw [done] at kept
    rw [Step.andThen_failed done]
    exact kept

theorem slowStatement?_keeps {span : Span} {e : Edge} {id : Option Text} {x : SlowStatement}
    (found : slowStatement? config info span e id = .ok (some x)) : x.traceId = id := by
  obtain ⟨finding, _, found⟩ := bind_ok_iff.mp found
  split at found
  · obtain ⟨_, _, found⟩ := bind_ok_iff.mp found
    obtain ⟨_, _, found⟩ := bind_ok_iff.mp found
    obtain rfl := Option.some.inj (pure_ok_iff.mp found)
    rfl
  · cases pure_ok_iff.mp found

theorem addSlowStatement_memory (span : Span) (e : Edge) :
    ∃ added : Option SlowStatement,
      (addSlowStatement config info span e l).1.memory =
        { l.memory with slowStatements := l.slowStatements ++ added.toList } ∧
      ∀ x ∈ added, x.traceId = l.traceId := by
  have nothing : ∃ added : Option SlowStatement,
      l.memory = { l.memory with slowStatements := l.slowStatements ++ added.toList } ∧
        ∀ x ∈ added, x.traceId = l.traceId := by
    refine ⟨none, ?_, fun x member => by cases member⟩
    rw [Option.toList_none, List.append_nil]
    rfl
  unfold addSlowStatement
  split
  · split
    · exact nothing
    · rename_i x found
      refine ⟨some x, rfl, ?_⟩
      intro y same
      obtain rfl := Option.some.inj same
      exact slowStatement?_keeps found
    · exact nothing
  · exact nothing

theorem onExit_memory (inv : Inventory) (config : Config) (info : SegmentInfo) (span : Span)
    (l : Listener) :
    ∃ added : Option SlowStatement,
      (onExit inv config info span l).1.memory =
        { l.memory with
          minuteBucket := l.minuteBucket.or info.minuteBucket
          slowStatements := l.slowStatements ++ added.toList } ∧
      ∀ x ∈ added, x.traceId = l.traceId := by
  have nothing : ∃ added : Option SlowStatement,
      (fixMinute info l).memory =
        { l.memory with
          minuteBucket := l.minuteBucket.or info.minuteBucket
          slowStatements := l.slowStatements ++ added.toList } ∧
        ∀ x ∈ added, x.traceId = l.traceId := by
    refine ⟨none, ?_, fun x member => by cases member⟩
    rw [Option.toList_none, List.append_nil]
    rfl
  unfold onExit
  rw [Step.andThen_ok (t := fixMinute info l) rfl]
  split
  · exact nothing
  · cases made : Edge.ofExit inv info span with
    | error f => exact nothing
    | ok e =>
      exact addSlowStatement_memory (l := addExitLeg e (fixMinute info l)) span e

theorem onTraceId_memory (parts : List Value) :
    (onTraceId config parts l).1.memory =
      { l.memory with traceId := l.traceId.or (TraceId.join config.stack parts).toOption } := by
  unfold onTraceId
  cases known : l.traceId with
  | some id => rfl
  | none =>
    cases joined : TraceId.join config.stack parts with
    | error f =>
      have accepted : TraceId.accept config.stack none parts = .error f :=
        map_error_iff.mpr joined
      rw [accepted]
      exact congrArg (fun id => { l.memory with traceId := id }) known
    | ok id =>
      have accepted : TraceId.accept config.stack none parts = .ok (some id) :=
        map_ok_iff.mpr ⟨id, joined, rfl⟩
      rw [accepted]
      rfl

/-! ### Publication -/

section

variable {ρ : Type} {offer : Record → Step ρ} {r r' : ρ}

theorem publishEntries_memory (offer : Record → Step ρ) (m : Memory) :
    Step.Keeps (fun s : Listener × ρ => s.1.memory = m) (publishEntries offer) :=
  fun _ same => same

theorem publishExits_memory (offer : Record → Step ρ) (m : Memory) :
    Step.Keeps (fun s : Listener × ρ => s.1.memory = m) (publishExits inv offer) :=
  fun _ same => same

theorem build_memory : (build inv offer (l, r)).1.1.memory = l.memory :=
  Step.keeps_andThen (publishEntries_memory offer l.memory)
    (Step.keeps_andThen (publishExits_memory offer l.memory) fun _ same => same) (l, r) rfl

theorem publishLegs_done {prepare : Leg → Except Fault Leg} {publish : Leg → Step ρ}
    {legs before after : List Leg}
    (done : publishLegs prepare publish legs (before, r) = ((after, r'), none)) :
    ∀ leg ∈ after, ∃ old ∈ legs, prepare old = .ok leg := by
  induction legs generalizing before after r with
  | nil =>
    obtain ⟨rfl, _⟩ := Prod.mk.inj (Prod.mk.inj done).1
    exact fun leg member => by cases member
  | cons leg rest ih =>
    unfold publishLegs at done
    cases prepared : prepare leg with
    | error f =>
      rw [prepared] at done
      cases (Prod.mk.inj done).2
    | ok filed =>
      rw [prepared] at done
      dsimp only at done
      rcases published : publish filed r with ⟨u, _ | f⟩
      · rw [published] at done
        dsimp only at done
        rcases more : publishLegs prepare publish rest (rest, u) with ⟨⟨later, v⟩, g⟩
        rw [more] at done
        obtain ⟨same, rfl⟩ := Prod.mk.inj done
        obtain ⟨rfl, rfl⟩ := Prod.mk.inj same
        intro x member
        rcases List.mem_cons.mp member with rfl | member
        · exact ⟨leg, List.mem_cons_self, prepared⟩
        · obtain ⟨old, present, made⟩ := ih more x member
          exact ⟨old, List.mem_cons_of_mem leg present, made⟩
      · rw [published] at done
        cases (Prod.mk.inj done).2

/-- After a publication outgoing legs start at the endpoint of the remembered entry span. -/
theorem build_exits (done : build inv offer (l, r) = ((t, r'), none)) :
    ∀ leg ∈ t.exitLegs, leg.edge.source.endpointId = l.sourceEndpoint := by
  obtain ⟨⟨l₁, r₁⟩, entries, done⟩ := Step.andThen_eq_none.mp done
  obtain ⟨⟨l₂, r₂⟩, exits, slow⟩ := Step.andThen_eq_none.mp done
  have start : l₁.sourceEndpoint = l.sourceEndpoint := by
    have same := publishEntries_memory offer l.memory (l, r) rfl
    rw [entries] at same
    have same : l₁.entrySpan = l.entrySpan := congrArg Memory.entrySpan same
    rw [sourceEndpoint, sourceEndpoint, same]
  have filed : t = l₂ := (Prod.mk.inj (Prod.mk.inj slow).1).1.symm
  subst filed
  intro leg member
  unfold publishExits at exits
  rcases published : publishLegs (fileExit inv l₁.sourceEndpoint l₁.minuteBucket)
    (publishLeg offer Edge.exitFacets) l₁.exitLegs (l₁.exitLegs, r₁) with ⟨⟨legs, u⟩, f⟩
  simp only [published] at exits
  obtain ⟨same, rfl⟩ := Prod.mk.inj exits
  obtain ⟨rfl, rfl⟩ := Prod.mk.inj same
  obtain ⟨old, _, made⟩ := publishLegs_done published leg member
  obtain ⟨name, _, made⟩ := bind_ok_iff.mp made
  obtain rfl := pure_ok_iff.mp made
  exact start

/-- A published leg is filed under the minute that is remembered. -/
theorem mem_records_leg {f : Facet} {e : Edge} {b : Value} (sound : Sound inv l)
    (member : .leg f e b ∈ l.records inv) : l.minuteBucket = some b := by
  have filed : ∀ (facets : Edge → List Facet) (leg : Leg), leg.bucket = l.minuteBucket →
      .leg f e b ∈ leg.records facets → b = l.minuteBucket.getD .null := by
    intro facets leg same member
    obtain ⟨_, _, made⟩ := List.mem_map.mp member
    rw [← same]
    exact (Record.leg.inj made).2.2.symm
  have known : l.entryLegs ≠ [] ∨ l.exitLegs ≠ [] → b = l.minuteBucket.getD .null →
      l.minuteBucket = some b := by
    intro legs same
    obtain ⟨c, fixed, _⟩ := minute_fixed sound legs
    rw [same, fixed]
    rfl
  rcases List.mem_append.mp member with entry | other
  · obtain ⟨leg, present, member⟩ := List.mem_flatMap.mp entry
    exact known (Or.inl (List.ne_nil_of_mem present)) (filed _ (leg.file _) rfl member)
  · rcases List.mem_append.mp other with exit | slow
    · obtain ⟨leg, present, member⟩ := List.mem_flatMap.mp exit
      exact known (Or.inr (List.ne_nil_of_mem present)) (filed _ (filedExit inv l leg) rfl member)
    · obtain ⟨x, _, same⟩ := List.mem_map.mp slow
      cases same

theorem mem_records_slow {x : SlowStatement} (member : .slow x ∈ l.records inv) :
    x ∈ l.slowStatements := by
  have other : ∀ (facets : Edge → List Facet) (leg : Leg), .slow x ∉ leg.records facets := by
    intro facets leg member
    obtain ⟨_, _, made⟩ := List.mem_map.mp member
    cases made
  rcases List.mem_append.mp member with entry | rest
  · obtain ⟨leg, _, member⟩ := List.mem_flatMap.mp entry
    exact absurd member (other _ _)
  · rcases List.mem_append.mp rest with exit | slow
    · obtain ⟨leg, _, member⟩ := List.mem_flatMap.mp exit
      exact absurd member (other _ _)
    · obtain ⟨y, present, same⟩ := List.mem_map.mp slow
      obtain rfl := Record.slow.inj same
      exact present

end

end Listener

namespace Session

/-! ### What a history tells -/

/-- The segment of a call that is told of, whatever becomes of the call. -/
def Act.call? : Act → Option SegmentInfo
  | .tell info (.entry _) => some info
  | .tell info (.exit _) => some info
  | _ => none

def Act.parts? : Act → Option (List Value)
  | .tell _ (.traceId parts) => some parts
  | _ => none

/-- The trace identifier that is told, if it can be written. -/
def Act.traceId? (stack : Stack) (act : Act) : Option Text :=
  act.parts?.bind fun parts => (TraceId.join stack parts).toOption

variable {ρ : Type}

/-- The entry span that an act brings in, if it does so without a fault. -/
def takenIn? (config : Config) (s : Session ρ) : Act → Option Span
  | .tell info (.entry span) =>
    if (Listener.receive s.inventory config info (.entry span) s.listener).2.isNone then some span
    else none
  | _ => none

/-- The last entry span that was taken in. -/
def lastTaken? (config : Config) (offer : Record → Step ρ) (s : Session ρ) : List Act → Option Span
  | [] => none
  | act :: rest =>
    (lastTaken? config offer (step config offer s act) rest).or (takenIn? config s act)

variable {config : Config} {offer : Record → Step ρ} {s : Session ρ} {act : Act} {acts : List Act}

/-- What one act does to the memory of the listener. -/
theorem step_memory (config : Config) (offer : Record → Step ρ) (s : Session ρ) (act : Act) :
    ∃ added : Option SlowStatement,
      (step config offer s act).listener.memory =
        { minuteBucket := s.listener.minuteBucket.or (act.call?.bind (·.minuteBucket))
          entrySpan := (takenIn? config s act).or s.listener.entrySpan
          traceId := s.listener.traceId.or (act.traceId? config.stack)
          slowStatements := s.listener.slowStatements ++ added.toList } ∧
      ∀ x ∈ added, (∃ info span, act = .tell info (.exit span)) ∧
        x.traceId = s.listener.traceId := by
  have same : s.listener.memory =
      { minuteBucket := s.listener.minuteBucket.or none
        entrySpan := (none : Option Span).or s.listener.entrySpan
        traceId := s.listener.traceId.or none
        slowStatements := s.listener.slowStatements ++ [] } := by
    simp only [Option.or_none, Option.none_or, List.append_nil]
    rfl
  -- Registrations and publications leave the memory as it is.
  cases act with
  | register r => exact ⟨none, same, fun x member => by cases member⟩
  | build =>
    refine ⟨none, Listener.build_memory.trans same, fun x member => by cases member⟩
  | tell info e =>
    cases e with
    | entry span =>
      refine ⟨none, ?_, fun x member => by cases member⟩
      have told := Listener.onEntry_memory s.inventory info span s.listener
      have taken : (takenIn? config s (.tell info (.entry span))).or s.listener.entrySpan =
          if (Listener.onEntry s.inventory info span s.listener).2.isNone then some span
          else s.listener.entrySpan := by
        change (if (Listener.onEntry s.inventory info span s.listener).2.isNone then some span
          else none : Option Span).or s.listener.entrySpan = _
        split <;> rfl
      rw [taken]
      refine told.trans ?_
      simp only [Act.traceId?, Act.parts?, Act.call?, Option.bind_none, Option.bind_some,
        Option.or_none, Option.toList_none, List.append_nil]
      rfl
    | exit span =>
      obtain ⟨added, told, known⟩ :=
        Listener.onExit_memory s.inventory config info span s.listener
      refine ⟨added, told.trans ?_, fun x member => ⟨⟨info, span, rfl⟩, known x member⟩⟩
      simp only [Act.traceId?, Act.parts?, Act.call?, takenIn?, Option.bind_none, Option.bind_some,
        Option.or_none, Option.none_or]
      rfl
    | traceId parts =>
      refine ⟨none, (Listener.onTraceId_memory parts).trans ?_, fun x member => by cases member⟩
      simp only [Act.traceId?, Act.parts?, Act.call?, takenIn?, Option.bind_none, Option.bind_some,
        Option.or_none, Option.none_or, Option.toList_none, List.append_nil]
      rfl

theorem step_minute :
    (step config offer s act).listener.minuteBucket =
      s.listener.minuteBucket.or (act.call?.bind (·.minuteBucket)) := by
  obtain ⟨_, told, _⟩ := step_memory config offer s act
  exact congrArg Listener.Memory.minuteBucket told

theorem step_entrySpan :
    (step config offer s act).listener.entrySpan =
      (takenIn? config s act).or s.listener.entrySpan := by
  obtain ⟨_, told, _⟩ := step_memory config offer s act
  exact congrArg Listener.Memory.entrySpan told

theorem step_traceId :
    (step config offer s act).listener.traceId =
      s.listener.traceId.or (act.traceId? config.stack) := by
  obtain ⟨_, told, _⟩ := step_memory config offer s act
  exact congrArg Listener.Memory.traceId told

theorem step_slow (config : Config) (offer : Record → Step ρ) (s : Session ρ) (act : Act) :
    ∃ added : Option SlowStatement,
      (step config offer s act).listener.slowStatements =
        s.listener.slowStatements ++ added.toList ∧
      ∀ x ∈ added, (∃ info span, act = .tell info (.exit span)) ∧
        x.traceId = s.listener.traceId := by
  obtain ⟨added, told, known⟩ := step_memory config offer s act
  exact ⟨added, congrArg Listener.Memory.slowStatements told, known⟩

/-! ### Whole histories -/

theorem run_append (config : Config) (offer : Record → Step ρ) (s : Session ρ)
    (before after : List Act) :
    run config offer s (before ++ after) = run config offer (run config offer s before) after :=
  List.foldl_append

/-- The minute is that of the first call. -/
theorem run_minute (dated : ∀ act ∈ acts, act.Dated) :
    (run config offer s acts).listener.minuteBucket =
      s.listener.minuteBucket.or ((acts.findSome? Act.call?).bind (·.minuteBucket)) := by
  induction acts generalizing s with
  | nil => exact (Option.or_none).symm
  | cons act rest ih =>
    have later := ih (s := step config offer s act) fun x member =>
      dated x (List.mem_cons_of_mem act member)
    refine later.trans ?_
    rw [step_minute, Option.or_assoc]
    cases call : act.call? with
    | none =>
      rw [List.findSome?_cons, call]
      rfl
    | some info =>
      have told : ∃ n, info.minuteBucket = some (.int n) := by
        have here := dated act List.mem_cons_self
        unfold Act.call? at call
        split at call
        · cases call
          exact here
        · cases call
          exact here
        · cases call
      obtain ⟨n, told⟩ := told
      have first : (act :: rest).findSome? Act.call? = some info := by
        rw [List.findSome?_cons, call]
      rw [first, Option.bind_some, told, Option.some_or]

/-- The entry span is the last one that was taken in. -/
theorem run_entrySpan (config : Config) (offer : Record → Step ρ) (s : Session ρ)
    (acts : List Act) :
    (run config offer s acts).listener.entrySpan =
      (lastTaken? config offer s acts).or s.listener.entrySpan := by
  induction acts generalizing s with
  | nil => rfl
  | cons act rest ih =>
    refine (ih (step config offer s act)).trans ?_
    rw [step_entrySpan, lastTaken?, Option.or_assoc]

/-- The trace identifier is the first one that could be written. -/
theorem run_traceId :
    (run config offer s acts).listener.traceId =
      s.listener.traceId.or (acts.findSome? (Act.traceId? config.stack)) := by
  induction acts generalizing s with
  | nil => exact (Option.or_none).symm
  | cons act rest ih =>
    refine (ih (s := step config offer s act)).trans ?_
    rw [step_traceId, Option.or_assoc, List.findSome?_cons]
    cases act.traceId? config.stack <;> rfl

theorem run_keeps_slow (config : Config) (offer : Record → Step ρ) (s : Session ρ)
    (acts : List Act) :
    s.listener.slowStatements <+: (run config offer s acts).listener.slowStatements := by
  induction acts generalizing s with
  | nil => exact List.prefix_refl _
  | cons act rest ih =>
    obtain ⟨added, told, _⟩ := step_slow config offer s act
    have here : s.listener.slowStatements <+: (step config offer s act).listener.slowStatements :=
      ⟨added.toList, told.symm⟩
    exact here.trans (ih (step config offer s act))

/-- Each slow statement was added when an outgoing call was told, with the identifier of then. -/
theorem run_slow {k : Nat} {x : SlowStatement} (fresh : s.listener.slowStatements.length ≤ k)
    (known : (run config offer s acts).listener.slowStatements[k]? = some x) :
    ∃ before info span after, acts = before ++ .tell info (.exit span) :: after ∧
      (run config offer s before).listener.slowStatements.length = k ∧
      (run config offer s (before ++ [.tell info (.exit span)])).listener.slowStatements =
        (run config offer s before).listener.slowStatements ++ [x] ∧
      x.traceId = (run config offer s before).listener.traceId := by
  -- The induction stops at the first act after which there are more than `k` statements.
  induction acts generalizing s with
  | nil =>
    have short : s.listener.slowStatements[k]? = none := List.getElem?_eq_none fresh
    rw [show (run config offer s []) = s from rfl, short] at known
    cases known
  | cons act rest ih =>
    obtain ⟨added, told, origin⟩ := step_slow config offer s act
    by_cases old : (step config offer s act).listener.slowStatements.length ≤ k
    · obtain ⟨before, info, span, after, same, there⟩ := ih old known
      exact ⟨act :: before, info, span, after, congrArg (act :: ·) same, there⟩
    · -- the statement is the one that this act adds
      cases added with
      | none =>
        rw [told, Option.toList_none, List.append_nil] at old
        exact absurd fresh old
      | some y =>
        have size := congrArg List.length told
        rw [List.length_append, Option.toList_some, List.length_singleton] at size
        have place : k = s.listener.slowStatements.length := by omega
        have here : (step config offer s act).listener.slowStatements[k]? = some y := by
          rw [told, place, Option.toList_some, List.getElem?_concat_length]
        have kept : (run config offer s (act :: rest)).listener.slowStatements[k]? = some y := by
          obtain ⟨within, _⟩ := List.getElem?_eq_some_iff.mp here
          obtain ⟨later, whole⟩ := run_keeps_slow config offer (step config offer s act) rest
          change (run config offer (step config offer s act) rest).listener.slowStatements[k]? = _
          rw [← whole, List.getElem?_append_left within, here]
        obtain rfl : y = x := Option.some.inj (kept.symm.trans known)
        obtain ⟨⟨info, span, rfl⟩, id⟩ := origin y rfl
        exact ⟨[], info, span, rest, rfl, place.symm, told, id⟩

theorem findSome?_traceId {stack : Stack} {parts : List Value} {id : Text}
    (told : acts.findSome? Act.parts? = some parts) (joined : TraceId.join stack parts = .ok id) :
    acts.findSome? (Act.traceId? stack) = some id := by
  induction acts with
  | nil => cases told
  | cons act rest ih =>
    rw [List.findSome?_cons] at told ⊢
    cases here : act.parts? with
    | none =>
      rw [here] at told
      rw [Act.traceId?, here]
      exact ih told
    | some first =>
      rw [here] at told
      obtain rfl := Option.some.inj told
      rw [Act.traceId?, here, Option.bind_some, joined]
      rfl

theorem findSome?_silent {stack : Stack} (silent : acts.findSome? Act.parts? = none) :
    acts.findSome? (Act.traceId? stack) = none := by
  rw [List.findSome?_eq_none_iff] at silent ⊢
  intro act member
  rw [Act.traceId?, silent act member]
  rfl

/-! ### What the sink has -/

/-- A sink that never refuses has all it was offered, and every record in it agrees with what the
listener remembers. -/
structure Recorded (s : Session Sink) : Prop where
  accepting : ∀ k, s.sink.refuses k = none
  legs : ∀ f e b, .leg f e b ∈ s.sink.records → s.listener.minuteBucket = some b
  slow : ∀ x, .slow x ∈ s.sink.records → x ∈ s.listener.slowStatements

theorem each_offer_accepted {sink : Sink} (rs : List Record)
    (accepting : ∀ k, sink.refuses k = none) :
    (Step.each Sink.offer rs sink).2 = none ∧
      (Step.each Sink.offer rs sink).1.records = sink.records ++ rs ∧
      ∀ k, (Step.each Sink.offer rs sink).1.refuses k = none := by
  induction rs generalizing sink with
  | nil => exact ⟨rfl, (List.append_nil _).symm, accepting⟩
  | cons r rest ih =>
    have stored : (Sink.offer r sink).1.records = sink.records ++ [r] := by
      rw [Sink.records_offer, accepting]
    have done : Sink.offer r sink = ((Sink.offer r sink).1, none) := by
      refine Prod.ext rfl ?_
      rw [Sink.offer_snd, accepting]
    have still : ∀ k, (Sink.offer r sink).1.refuses k = none := by
      rw [Sink.refuses_offer]
      exact accepting
    obtain ⟨fault, records, refuses⟩ := ih still
    rw [Step.each_cons, Step.andThen_ok done]
    refine ⟨fault, ?_, refuses⟩
    rw [records, stored, List.append_assoc, List.singleton_append]

theorem step_recorded {s : Session Sink} (sound : s.listener.Sound s.inventory) (h : s.Recorded) :
    (step config Sink.offer s act).Recorded := by
  have minute : ∀ b, s.listener.minuteBucket = some b →
      (step config Sink.offer s act).listener.minuteBucket = some b := by
    intro b fixed
    rw [step_minute, fixed, Option.some_or]
  have slow : ∀ x ∈ s.listener.slowStatements,
      x ∈ (step config Sink.offer s act).listener.slowStatements := fun x member =>
    (run_keeps_slow config Sink.offer s [act]).subset member
  -- Only a publication adds records, and what it adds is the listener's own.
  cases act with
  | register r => exact ⟨h.accepting, h.legs, h.slow⟩
  | tell info e =>
    exact ⟨h.accepting, fun f e b member => minute b (h.legs f e b member),
      fun x member => slow x (h.slow x member)⟩
  | build =>
    obtain ⟨after, published, _⟩ := Listener.build_offers Sink.offer sound s.sink
    obtain ⟨_, records, accepting⟩ :=
      each_offer_accepted (s.listener.records s.inventory) h.accepting
    have filled : (step config Sink.offer s .build).sink.records =
        s.sink.records ++ s.listener.records s.inventory := by
      simp only [step, published, records]
    refine ⟨?_, ?_, ?_⟩
    · simp only [step, published]
      exact accepting
    · intro f e b member
      rw [filled] at member
      rcases List.mem_append.mp member with old | new
      · exact minute b (h.legs f e b old)
      · exact minute b (Listener.mem_records_leg sound new)
    · intro x member
      rw [filled] at member
      rcases List.mem_append.mp member with old | new
      · exact slow x (h.slow x old)
      · exact slow x (Listener.mem_records_slow new)

theorem run_recorded (config : Config) {s : Session Sink} (dated : ∀ act ∈ acts, act.Dated)
    (sound : s.listener.Sound s.inventory) (h : s.Recorded) :
    (run config Sink.offer s acts).Recorded := by
  induction acts generalizing s with
  | nil => exact h
  | cons act rest ih =>
    have here := dated act List.mem_cons_self
    have later : ∀ act ∈ rest, act.Dated := fun x member =>
      dated x (List.mem_cons_of_mem act member)
    exact ih later (step_sound here sound) (step_recorded sound h)

/-- Of a new listener, whatever it is told in whatever order and whichever events fail. Every record
of a call is filed under the minute that came with the first call told of. After a publication every
outgoing leg starts at the operation of the last entry span that was taken in, or at the user's.
Every slow statement has the first trace identifier that was told before its call, and nothing
changes it. -/
theorem run_remembers (config : Config) (inventory : Inventory) (acts : List Act)
    (dated : ∀ act ∈ acts, act.Dated) :
    let new : Session Sink := { inventory, sink := {} }
    let history := run config Sink.offer new
    (∀ f e b, .leg f e b ∈ (history acts).sink.records →
      ∃ info, acts.findSome? Act.call? = some info ∧ info.minuteBucket = some b) ∧
    (∀ before, acts = before ++ [.build] → ∀ leg ∈ (history acts).listener.exitLegs,
      leg.edge.source.endpointId =
        ((lastTaken? config Sink.offer new before).map (·.operationId)).getD userId) ∧
    (∀ x, .slow x ∈ (history acts).sink.records → x ∈ (history acts).listener.slowStatements) ∧
    (∀ k x, (history acts).listener.slowStatements[k]? = some x →
      ∃ before info span after, acts = before ++ .tell info (.exit span) :: after ∧
        (history before).listener.slowStatements.length = k ∧
        (history (before ++ [.tell info (.exit span)])).listener.slowStatements =
          (history before).listener.slowStatements ++ [x] ∧
        x.traceId = before.findSome? (Act.traceId? config.stack) ∧
        (∀ parts, before.findSome? Act.parts? = some parts →
          ∀ id, TraceId.join config.stack parts = .ok id → x.traceId = some id) ∧
        (before.findSome? Act.parts? = none → x.traceId = none)) ∧
    ∀ further, (history acts).listener.slowStatements <+:
      (history (acts ++ further)).listener.slowStatements := by
  intro new history
  have sound : new.listener.Sound new.inventory := Listener.new_sound
  have recorded : new.Recorded :=
    ⟨fun _ => rfl, fun _ _ _ member => absurd member List.not_mem_nil,
      fun _ member => absurd member List.not_mem_nil⟩
  have kept := run_recorded config dated sound recorded
  refine ⟨?_, ?_, kept.slow, ?_, ?_⟩
  · intro f e b member
    have minute := kept.legs f e b member
    rw [run_minute dated] at minute
    exact Option.bind_eq_some_iff.mp minute
  · rintro before rfl leg member
    have earlier : ∀ act ∈ before, act.Dated := fun act present =>
      dated act (List.mem_append_left _ present)
    have whole : (history before).listener.Sound (history before).inventory :=
      run_sound earlier sound
    have clear : (history before).Recorded := run_recorded config earlier sound recorded
    -- Nothing refuses the records, so the publication goes through and prepares every leg.
    obtain ⟨after, published, _⟩ := Listener.build_offers Sink.offer whole (history before).sink
    rw [(each_offer_accepted _ clear.accepting).1] at published
    have start := Listener.build_exits published
    have legs : (history (before ++ [.build])).listener.exitLegs = after.exitLegs := by
      have last : history (before ++ [.build]) =
          step config Sink.offer (history before) .build := run_append ..
      rw [last]
      simp only [step, published]
    rw [legs] at member
    refine (start leg member).trans ?_
    have entry : (history before).listener.entrySpan = _ :=
      run_entrySpan config Sink.offer new before
    rw [Option.or_none] at entry
    rw [Listener.sourceEndpoint, entry]
    cases lastTaken? config Sink.offer new before <;> rfl
  · intro k x known
    obtain ⟨before, info, span, after, split, size, added, id⟩ := run_slow (Nat.zero_le k) known
    have id : x.traceId = before.findSome? (Act.traceId? config.stack) := by
      rw [id, run_traceId]
      rfl
    refine ⟨before, info, span, after, split, size, added, id, ?_, ?_⟩
    · intro parts told text joined
      rw [id]
      exact findSome?_traceId told joined
    · intro silent
      rw [id]
      exact findSome?_silent silent
  · intro further
    change _ <+: (run config Sink.offer new (acts ++ further)).listener.slowStatements
    rw [run_append]
    exact run_keeps_slow config Sink.offer _ further

/-- A call that is passed over, an entry that fails, a slow call between two trace identifiers, and
an entry that succeeds. -/
def restless : List Act :=
  let exit : Span :=
    { id := 0, parentId := -1, kind := .exit, layer := .database, startTime := 0, endTime := 5
      isError := false, operationId := 5, peerId := 9, componentId := 0
      tags := [{ key := .text Statement.typeKey, value := .text "redis" }], references := [] }
  let info : SegmentInfo :=
    { segmentId := "s", serviceId := .int 2, instanceId := .int 3, minuteBucket := some (.int 8) }
  [.register (.service { id := 2, name := .text "shop", addressId := 9 }),
    .register (.inst { id := 3, name := .text "shop-1", serviceId := 2, addressId := 9 }),
    .register (.endpoint { id := 5, name := .text "/pay" }),
    .tell { info with minuteBucket := some (.int 7) } (.exit { exit with peerId := 0 }),
    .tell info (.entry { exit with operationId := 6 }), .tell info (.traceId [.int 1, .int 2]),
    .tell info (.exit exit), .tell info (.traceId [.int 3]), .tell info (.entry exit)]

theorem run_restless :
    let new : Session Sink := { inventory := .initial, sink := {} }
    let config : Config :=
      { limit := .chars 2000, thresholds := { table := .ofList [("default", 2)] } }
    let s := run config Sink.offer new (restless ++ [.build])
    (∀ act ∈ restless ++ [.build], act.Dated) ∧
      s.sink.records.map (·.scope) =
        [.facet .all, .facet .service, .facet .serviceInstance, .facet .endpoint,
          .facet .serviceRelation, .facet .serviceInstanceRelation, .facet .endpointRelation,
          .facet .serviceRelation, .facet .serviceInstanceRelation, .facet .databaseAccess,
          .slowStatement] ∧
      (∀ f e b, .leg f e b ∈ s.sink.records → b = .int 7) ∧
      s.listener.exitLegs.map (·.edge.latency) = [5] ∧
      (∀ leg ∈ s.listener.exitLegs, leg.edge.source.endpointId = 5) ∧
      s.listener.slowStatements.map (·.traceId) = [some ("1.2" : Text)] := by
  intro new config s
  have dated : ∀ act ∈ restless ++ [.build], act.Dated := by simp [restless, Act.Dated]
  obtain ⟨minutes, exits, _⟩ :=
    run_remembers config .initial (restless ++ [.build]) dated
  refine ⟨dated, by decide +kernel, ?_, by decide +kernel, ?_, by decide +kernel⟩
  · intro f e b member
    obtain ⟨info, first, told⟩ := minutes f e b member
    obtain rfl := Option.some.inj first
    exact (Option.some.inj told).symm
  · have last : ((lastTaken? config Sink.offer new restless).map (·.operationId)).getD userId =
        5 := by
      decide +kernel
    dsimp only [s, new] at last ⊢
    rw [← last]
    exact exits restless rfl

end Session

end TraceScope
