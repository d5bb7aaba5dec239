import TraceScope.Proofs.Emission
import TraceScope.Proofs.Resolution

/-!
# When a segment is processed

A segment with ordinary tags, times and numbers is processed exactly if everything that it refers to
is registered, and its first trace identifier can be told. If something is not registered, the
fault is that of a search in the inventory.
-/

namespace TraceScope

/-! ### Statements and trace identifiers that cannot fail -/

/-- A tag that tells a statement or a type of database holds a text, or nothing. -/
def Tag.Legible (t : Tag) : Prop :=
  t.isNamed Statement.statementKey = true ∨ t.isNamed Statement.typeKey = true → t.value.IsName

namespace Statement

variable {config : Config}

theorem truncate_text (whole : ∀ x, config.limit ≠ .real x) (t : Text) :
    ∃ v, truncate config.limit (.text t) = .ok v := by
  have cut : ∃ n, config.limit.cut = .ok n := by
    cases limit : config.limit with
    | chars n => exact ⟨_, rfl⟩
    | flag => exact ⟨_, rfl⟩
    | real x => exact (whole x limit).elim
  obtain ⟨n, cut⟩ := cut
  unfold truncate
  split
  · by_cases long : config.limit.exceededBy t.length = true
    · refine bind_succeeds.mpr ⟨t.length, rfl, ?_⟩
      rw [if_pos long]
      exact bind_succeeds.mpr ⟨n, cut, _, rfl⟩
    · refine bind_succeeds.mpr ⟨t.length, rfl, ?_⟩
      rw [if_neg long]
      exact ⟨_, rfl⟩
  · exact ⟨_, rfl⟩

theorem truncate_name (whole : ∀ x, config.limit ≠ .real x) {v : Value} (name : v.IsName) :
    ∃ w, truncate config.limit v = .ok w := by
  cases name with
  | null => exact ⟨.null, rfl⟩
  | text t => exact truncate_text whole t

theorem forType_name (thresholds : Thresholds) {v : Value} (name : v.IsName) :
    thresholds.forType v = .ok (thresholds.millis v) := by
  cases name with
  | null => rfl
  | text t => rfl

theorem look_legible (whole : ∀ x, config.limit ≠ .real x) {t : Tag} (legible : t.Legible)
    (latency : Int) (f : Finding) :
    ∃ g, look config (fun threshold => .ok (decide (threshold < latency))) f t = .ok g := by
  obtain ⟨key, value⟩ := t
  cases key with
  | text key =>
    simp only [look]
    split
    · rename_i statement
      obtain ⟨v, cut⟩ := truncate_name whole (legible (.inl (decide_eq_true statement)))
      exact bind_succeeds.mpr ⟨v, cut, _, rfl⟩
    · split
      · rename_i type
        have known := forType_name config.thresholds (legible (.inr (decide_eq_true type)))
        refine bind_succeeds.mpr ⟨_, known, bind_succeeds.mpr ⟨_, rfl, ?_⟩⟩
        split
        · exact ⟨_, rfl⟩
        · exact ⟨_, rfl⟩
      · exact ⟨_, rfl⟩
  | _ => exact ⟨_, rfl⟩

theorem evaluate_legible (whole : ∀ x, config.limit ≠ .real x) {tags : List Tag}
    (legible : ∀ t ∈ tags, t.Legible) (latency : Int) :
    ∃ f, evaluate config tags latency = .ok f := by
  have folded : ∀ f, ∃ g, tags.foldlM
      (look config fun threshold => .ok (decide (threshold < latency))) f = .ok g := by
    induction tags with
    | nil => exact fun f => ⟨f, rfl⟩
    | cons t rest ih =>
      intro f
      obtain ⟨here, later⟩ := List.forall_mem_cons.mp legible
      obtain ⟨g, first⟩ := look_legible whole here latency f
      obtain ⟨h, last⟩ := ih later g
      rw [List.foldlM_cons]
      exact ⟨h, bind_ok_iff.mpr ⟨g, first, last⟩⟩
  exact folded {}

end Statement

namespace Value

mutual

theorem isWritable_of_mentions (v : Value)
    (short : ∀ n, v.Mentions n → Integer.isWritable n = true) : v.isWritable = true := by
  cases v with
  | int n => exact short n .int
  | list items =>
    exact areWritable_of_mentions items fun w member n within => short n (.item member within)
  | object members =>
    exact haveWritable_of_mentions members fun m member n within => short n (.field member within)
  | _ => rfl

theorem areWritable_of_mentions (vs : List Value)
    (short : ∀ v ∈ vs, ∀ n, v.Mentions n → Integer.isWritable n = true) :
    areWritable vs = true := by
  cases vs with
  | nil => rfl
  | cons v rest =>
    rw [areWritable, isWritable_of_mentions v (short v List.mem_cons_self), Bool.true_and]
    exact areWritable_of_mentions rest fun w member => short w (List.mem_cons_of_mem v member)

theorem haveWritable_of_mentions (members : List (Text × Value))
    (short : ∀ m ∈ members, ∀ n, m.2.Mentions n → Integer.isWritable n = true) :
    haveWritable members = true := by
  cases members with
  | nil => rfl
  | cons m rest =>
    rw [haveWritable, isWritable_of_mentions m.2 (short m List.mem_cons_self), Bool.true_and]
    exact haveWritable_of_mentions rest fun w member => short w (List.mem_cons_of_mem m member)

end

theorem told_succeeds {stack : Stack} {use : Telling} {v : Value}
    (short : ∀ n, v.Mentions n → Integer.isWritable n = true) :
    (∃ t, v.told stack use = .ok t) ↔ stack.canTell use v = true := by
  unfold told tellingFault?
  rw [isWritable_of_mentions v short]
  cases stack.canTell use v with
  | true => simp
  | false => simp

end Value

theorem TraceId.join_succeeds {stack : Stack} {parts : List Value}
    (short : ∀ v ∈ parts, ∀ n, v.Mentions n → Integer.isWritable n = true) :
    (∃ t, join stack parts = .ok t) ↔ ∀ v ∈ parts, stack.canTell .traceIdPart v = true := by
  have told : (∃ texts, parts.mapM (Value.told stack .traceIdPart) = .ok texts) ↔
      ∀ v ∈ parts, stack.canTell .traceIdPart v = true := by
    rw [mapM_succeeds]
    exact forall₂_congr fun v member => Value.told_succeeds (short v member)
  rw [← told]
  constructor
  · rintro ⟨t, joined⟩
    obtain ⟨texts, each, _⟩ := map_ok_iff.mp joined
    exact ⟨texts, each⟩
  · rintro ⟨texts, each⟩
    exact ⟨_, map_ok_iff.mpr ⟨texts, each, rfl⟩⟩

/-! ### Events -/

/-- Everything that one span of a segment refers to is registered. -/
def Span.Resolvable (inv : Inventory) (segment : Segment) (span : Span) : Prop :=
  match span.kind with
  | .entry => segment.Hosts inv span.operationId ∧
    ∀ ref ∈ span.references, ref.Resolvable inv span.layer
  | .exit => span.peerId = noId ∨
    segment.Hosts inv span.operationId ∧ span.PeerResolvable inv
  | .inner => True

theorem mem_incoming {spans : List Span} {span : Span} :
    span ∈ incoming spans ↔ span ∈ spans ∧ span.kind = .entry := by
  simp [incoming]

theorem mem_outgoing {spans : List Span} {span : Span} :
    span ∈ outgoing spans ↔ span ∈ spans ∧ span.kind = .exit ∧ span.peerId ≠ noId := by
  simp [outgoing]

/-- A segment is resolved span by span. -/
theorem Segment.resolvable_iff {inv : Inventory} {s : Segment} :
    s.Resolvable inv ↔ ∀ span ∈ s.spans, span.Resolvable inv s := by
  -- The names of the segment itself are needed as soon as there is a call of either direction.
  constructor
  · intro h span member
    unfold Span.Resolvable
    cases kind : span.kind with
    | entry =>
      have call : span ∈ incoming s.spans := mem_incoming.mpr ⟨member, kind⟩
      obtain ⟨service, inst⟩ := h.own (Or.inl (List.ne_nil_of_mem call))
      have operation := h.operations span (List.mem_append_left _ call)
      exact ⟨⟨service, inst, operation⟩, h.callers span call⟩
    | exit =>
      by_cases peer : span.peerId = noId
      · exact Or.inl peer
      · have call : span ∈ outgoing s.spans := mem_outgoing.mpr ⟨member, kind, peer⟩
        obtain ⟨service, inst⟩ := h.own (Or.inr (List.ne_nil_of_mem call))
        have operation := h.operations span (List.mem_append_right _ call)
        exact Or.inr ⟨⟨service, inst, operation⟩, h.peers span call⟩
    | inner => trivial
  · intro h
    have entries : ∀ span ∈ incoming s.spans, s.Hosts inv span.operationId ∧
        ∀ ref ∈ span.references, ref.Resolvable inv span.layer := by
      intro span call
      obtain ⟨member, kind⟩ := mem_incoming.mp call
      simpa only [Span.Resolvable, kind] using h span member
    have exits : ∀ span ∈ outgoing s.spans,
        s.Hosts inv span.operationId ∧ span.PeerResolvable inv := by
      intro span call
      obtain ⟨member, kind, peer⟩ := mem_outgoing.mp call
      have resolved := h span member
      simp only [Span.Resolvable, kind] at resolved
      exact resolved.resolve_left peer
    refine ⟨?_, ?_, fun span call => (entries span call).2, fun span call => (exits span call).2⟩
    · rintro (some | some)
      · obtain ⟨span, call⟩ := List.exists_mem_of_ne_nil _ some
        obtain ⟨⟨service, inst, _⟩, _⟩ := entries span call
        exact ⟨service, inst⟩
      · obtain ⟨span, call⟩ := List.exists_mem_of_ne_nil _ some
        obtain ⟨⟨service, inst, _⟩, _⟩ := exits span call
        exact ⟨service, inst⟩
    · intro span call
      rcases List.mem_append.mp call with entry | exit
      · exact (entries span entry).1.2.2
      · exact (exits span exit).1.2.2

namespace Listener

variable {inv : Inventory} {config : Config} {info : SegmentInfo} {segment : Segment} {span : Span}
  {l : Listener}

theorem addEntryLegs_succeeds (indexed : inv.Indexed) (names : info.Names segment) :
    (addEntryLegs inv info span l).2 = none ↔
      segment.Hosts inv span.operationId ∧
        ∀ ref ∈ span.references, ref.Resolvable inv span.layer := by
  cases refs : span.references with
  | nil =>
    simp only [addEntryLegs, refs]
    rw [Step.ofExcept_succeeds fun _ _ => rfl, Edge.ofUser_resolves indexed names]
    simp
  | cons ref rest =>
    simp only [addEntryLegs, refs]
    have single : ∀ r ∈ ref :: rest, ∀ s, (Step.ofExcept (Edge.ofReference inv info span r)
        (fun e => .update (addEntryLeg e)) s).2 = none ↔
          r.Resolvable inv span.layer ∧ segment.Hosts inv span.operationId := by
      intro r _ s
      rw [Step.ofExcept_succeeds fun _ _ => rfl, Edge.ofReference_resolves indexed names]
    rw [Step.each_succeeds_iff single]
    constructor
    · intro all
      exact ⟨(all ref List.mem_cons_self).2, fun r member => (all r member).1⟩
    · rintro ⟨hosts, all⟩ r member
      exact ⟨all r member, hosts⟩

theorem onEntry_succeeds (indexed : inv.Indexed) (names : info.Names segment) :
    (onEntry inv info span l).2 = none ↔
      segment.Hosts inv span.operationId ∧
        ∀ ref ∈ span.references, ref.Resolvable inv span.layer := by
  unfold onEntry
  rw [Step.update_andThen, Step.andThen_update_succeeds, addEntryLegs_succeeds indexed names]

theorem addSlowStatement_succeeds (whole : ∀ x, config.limit ≠ .real x)
    (texts : ∀ t ∈ span.tags, ∃ x, t.value = .text x)
    (dated : ∃ b, TraceScope.minuteBucket span.startTime = .ok b)
    (short : Integer.isWritable span.id = true) (e : Edge) :
    (addSlowStatement config info span e l).2 = none := by
  have legible : ∀ t ∈ span.tags, t.Legible := by
    intro t member _
    obtain ⟨x, text⟩ := texts t member
    exact text ▸ .text x
  obtain ⟨f, evaluated⟩ := Statement.evaluate_legible whole legible e.latency
  obtain ⟨b, dated⟩ := dated
  have written : ∃ id, statementId info span = .ok id := ⟨_, if_pos short⟩
  obtain ⟨id, written⟩ := written
  have found : ∃ s, slowStatement? config info span e l.traceId = .ok s := by
    refine bind_succeeds.mpr ⟨f, evaluated, ?_⟩
    split
    · exact bind_succeeds.mpr ⟨id, written, bind_succeeds.mpr ⟨b, dated, _, rfl⟩⟩
    · exact ⟨_, rfl⟩
  obtain ⟨s, found⟩ := found
  unfold addSlowStatement
  split
  · rw [found]
    cases s with
    | none => rfl
    | some s => rfl
  · rfl

theorem addSlowStatement_ordinary (whole : ∀ x, config.limit ≠ .real x)
    (ordinary : segment.Ordinary) (member : span ∈ segment.spans) (kind : span.kind = .exit)
    (e : Edge) (l : Listener) : (addSlowStatement config info span e l).2 = none := by
  have short : Integer.isWritable span.id = true :=
    ordinary.integers span member _ (by simp [Span.integers])
  exact addSlowStatement_succeeds whole (ordinary.texts span member)
    (ordinary.exits span member kind) short e

theorem onExit_succeeds (indexed : inv.Indexed) (names : info.Names segment)
    (slow : ∀ e l, (addSlowStatement config info span e l).2 = none) :
    (onExit inv config info span l).2 = none ↔
      span.peerId = noId ∨ segment.Hosts inv span.operationId ∧ span.PeerResolvable inv := by
  unfold onExit
  rw [Step.update_andThen]
  by_cases peer : span.peerId = noId
  · rw [if_pos peer]
    exact iff_of_true rfl (Or.inl peer)
  · have always : ∀ e, Edge.ofExit inv info span = .ok e →
        ((Step.update (addExitLeg e)).andThen (addSlowStatement config info span e)
          (fixMinute info l)).2 = none := fun e _ => slow e _
    rw [if_neg peer, Step.ofExcept_succeeds always, Edge.ofExit_resolves indexed names]
    exact ⟨Or.inr, fun resolved => resolved.resolve_left peer⟩

theorem span_succeeds (indexed : inv.Indexed) (names : info.Names segment)
    (whole : ∀ x, config.limit ≠ .real x) (ordinary : segment.Ordinary)
    (member : span ∈ segment.spans) :
    (span.event?.elim .skip (receive inv config info) l).2 = none ↔
      span.Resolvable inv segment := by
  unfold Span.Resolvable Span.event?
  cases kind : span.kind with
  | entry => exact onEntry_succeeds indexed names
  | exit =>
    exact onExit_succeeds indexed names (addSlowStatement_ordinary whole ordinary member kind)
  | inner => exact iff_of_true rfl trivial

theorem traceIds_known {id : Text} {ids : List (List Value)} (known : l.traceId = some id) :
    Step.each (receive inv config info) (ids.map .traceId) l = (l, none) := by
  induction ids with
  | nil => rfl
  | cons parts rest ih =>
    have same : receive inv config info (.traceId parts) l = (l, none) := by
      obtain ⟨_, _, _, _, _, _⟩ := l
      cases known
      rfl
    rw [List.map_cons, Step.each_cons, Step.andThen_ok same, ih]

theorem traceIds_succeed (ordinary : segment.Ordinary) :
    (Step.each (receive inv config info) (segment.traceIds.map .traceId) {}).2 = none ↔
      segment.Tellable config.stack := by
  unfold Segment.Tellable
  cases ids : segment.traceIds with
  | nil => simp [Step.skip]
  | cons parts rest =>
    have short : ∀ v ∈ parts, ∀ n, v.Mentions n → Integer.isWritable n = true :=
      ordinary.parts parts (by rw [ids]; exact List.mem_cons_self)
    have first : (∃ t, TraceId.join config.stack parts = .ok t) ↔
        ∀ v ∈ parts, config.stack.canTell .traceIdPart v = true := TraceId.join_succeeds short
    rw [List.map_cons, Step.each_cons]
    cases joined : TraceId.join config.stack parts with
    | error f =>
      have failed : receive inv config info (.traceId parts) {} = (({} : Listener), some f) := by
        simp only [receive, onTraceId, TraceId.accept, joined, Except.map]
      rw [Step.andThen_failed failed]
      simp only [joined, reduceCtorEq, exists_false, false_iff] at first
      simpa using first
    | ok t =>
      have done : receive inv config info (.traceId parts) {} =
          ({ traceId := some t }, none) := by
        simp only [receive, onTraceId, TraceId.accept, joined, Except.map]
      rw [Step.andThen_ok done, traceIds_known rfl]
      have told := first.mp ⟨t, joined⟩
      simpa using told

/-- A listener can be told a segment exactly if the segment can be resolved and told. -/
theorem gather_succeeds (indexed : inv.Indexed) (names : info.Names segment)
    (whole : ∀ x, config.limit ≠ .real x) (ordinary : segment.Ordinary) :
    (gather inv config info segment.events).2 = none ↔
      segment.Resolvable inv ∧ segment.Tellable config.stack := by
  unfold gather Segment.events
  rw [Step.each_append, Segment.resolvable_iff, ← traceIds_succeed ordinary]
  rcases done : Step.each (receive inv config info) (segment.traceIds.map .traceId) {} with
    ⟨l, _ | f⟩
  · have single : ∀ span ∈ segment.spans, ∀ l,
        (span.event?.elim .skip (receive inv config info) l).2 = none ↔
          span.Resolvable inv segment :=
      fun span member l => span_succeeds indexed names whole ordinary member
    rw [Step.andThen_ok done, Step.each_filterMap, Step.each_succeeds_iff single]
    simp
  · rw [Step.andThen_failed done]
    simp

/-! ### Faults of events -/

theorem searchable (ordinary : segment.Ordinary) (member : span ∈ segment.spans) :
    Edge.Searchable segment span := by
  have numbers := ordinary.integers span member
  refine ⟨ordinary.service, ordinary.inst, numbers _ (by simp [Span.integers]),
    numbers _ (by simp [Span.integers]), ?_⟩
  intro ref present n within
  exact numbers n (List.mem_append_right _ (List.mem_flatMap.mpr ⟨ref, present, within⟩))

theorem addEntryLegs_fault {f : Fault} (names : info.Names segment)
    (start : Edge.Searchable segment span) (leads : inv.LeadsTo Inventory.Short)
    (failed : (addEntryLegs inv info span l).2 = some f) : f.kind = .lookup := by
  cases refs : span.references with
  | nil =>
    simp only [addEntryLegs, refs] at failed
    rcases Step.ofExcept_fault failed with unmade | ⟨_, _, impossible⟩
    · exact Edge.ofUser_fault names start unmade
    · cases impossible
  | cons ref rest =>
    simp only [addEntryLegs, refs] at failed
    obtain ⟨r, member, t, failed⟩ := Step.each_fault failed
    rw [← refs] at member
    rcases Step.ofExcept_fault failed with unmade | ⟨_, _, impossible⟩
    · exact Edge.ofReference_fault names start leads (start.references r member) unmade
    · cases impossible

theorem onExit_fault {f : Fault} (names : info.Names segment)
    (start : Edge.Searchable segment span) (leads : inv.LeadsTo Inventory.Short)
    (slow : ∀ e l, (addSlowStatement config info span e l).2 = none)
    (failed : (onExit inv config info span l).2 = some f) : f.kind = .lookup := by
  unfold onExit at failed
  rw [Step.update_andThen] at failed
  split at failed
  · cases failed
  · rcases Step.ofExcept_fault failed with unmade | ⟨e, _, impossible⟩
    · exact Edge.ofExit_fault names start leads unmade
    · rw [Step.update_andThen, slow e] at impossible
      cases impossible

theorem span_fault {f : Fault} (names : info.Names segment) (leads : inv.LeadsTo Inventory.Short)
    (whole : ∀ x, config.limit ≠ .real x) (ordinary : segment.Ordinary)
    (member : span ∈ segment.spans)
    (failed : (span.event?.elim .skip (receive inv config info) l).2 = some f) :
    f.kind = .lookup := by
  have start := searchable ordinary member
  unfold Span.event? at failed
  cases kind : span.kind with
  | entry =>
    rw [kind] at failed
    change (onEntry inv info span l).2 = some f at failed
    unfold onEntry at failed
    rw [Step.update_andThen] at failed
    rcases Step.andThen_fault failed with here | ⟨_, _, impossible⟩
    · exact addEntryLegs_fault names start leads here
    · cases impossible
  | exit =>
    rw [kind] at failed
    exact onExit_fault names start leads
      (addSlowStatement_ordinary whole ordinary member kind) failed
  | inner =>
    rw [kind] at failed
    cases failed

theorem gather_fault {f : Fault} (names : info.Names segment)
    (leads : inv.LeadsTo Inventory.Short) (whole : ∀ x, config.limit ≠ .real x)
    (ordinary : segment.Ordinary) (tellable : segment.Tellable config.stack)
    (failed : (gather inv config info segment.events).2 = some f) : f.kind = .lookup := by
  unfold gather Segment.events at failed
  rw [Step.each_append] at failed
  rcases Step.andThen_fault failed with untold | ⟨l, _, failed⟩
  · rw [(traceIds_succeed ordinary).mpr tellable] at untold
    cases untold
  · rw [Step.each_filterMap] at failed
    obtain ⟨span, member, t, failed⟩ := Step.each_fault failed
    exact span_fault names leads whole ordinary member failed

end Listener

/-! ### Segments -/

namespace Analyzer

theorem emit_accepted {rs : List Record} {a : Analyzer}
    (accepts : ∀ k, a.intake.sink.refuses k = none) : (emit rs a).2 = none := by
  rcases done : emit rs a with ⟨b, _ | f⟩
  · rfl
  · obtain ⟨_, refused⟩ := emit_refused done
    rw [accepts] at refused
    cases refused

theorem info_dated {segment : Segment} (ordinary : segment.Ordinary) :
    ∃ info, segment.info = .ok info := by
  unfold Segment.info
  cases spans : segment.spans with
  | nil => exact ⟨_, rfl⟩
  | cons first rest =>
    obtain ⟨b, dated⟩ := ordinary.first first (by rw [spans]; rfl)
    exact bind_succeeds.mpr ⟨b, dated, _, rfl⟩

/-- A sink that accepts everything leaves it to the listener whether a segment fails. -/
theorem process_outcome {segment : Segment} {info : SegmentInfo} {a : Analyzer}
    (accepts : ∀ k, a.intake.sink.refuses k = none) (told : segment.info = .ok info) :
    (process segment a).2 = (Listener.gather a.inventory a.config info segment.events).2 := by
  rw [process_eq]
  rcases done : Listener.gather a.inventory a.config info segment.events with ⟨l, _ | f⟩
  · simp only [Segment.emission, told, bind, Except.bind, done, Step.ofExcept]
    exact emit_accepted accepts
  · simp only [Segment.emission, told, bind, Except.bind, done, Step.ofExcept]
    rfl

theorem process_succeeds {segment : Segment} {a : Analyzer} (indexed : a.inventory.Indexed)
    (whole : ∀ x, a.config.limit ≠ .real x) (ordinary : segment.Ordinary)
    (accepts : ∀ k, a.intake.sink.refuses k = none) :
    (process segment a).2 = none ↔
      segment.Resolvable a.inventory ∧ segment.Tellable a.config.stack := by
  obtain ⟨info, told⟩ := info_dated ordinary
  rw [process_outcome accepts told]
  exact Listener.gather_succeeds indexed (Segment.info_names told) whole ordinary

/-- A segment is processed exactly if everything that it refers to is registered and the stack
suffices to tell its first trace identifier. If only registrations are missing, a search in the
inventory says so. -/
theorem process_succeeds_iff {entries : List Registration} {segment : Segment} {a : Analyzer}
    (registered : a.inventory = .ofRegistrations entries)
    (numbers : ∀ r ∈ entries, ∀ n ∈ r.integers, Integer.isWritable n = true)
    (whole : ∀ x, a.config.limit ≠ .real x) (ordinary : segment.Ordinary)
    (accepts : ∀ k, a.intake.sink.refuses k = none) :
    ((process segment a).2 = none ↔
        segment.Resolvable a.inventory ∧ segment.Tellable a.config.stack) ∧
      (segment.Tellable a.config.stack →
        ∀ f, (process segment a).2 = some f → f.kind = .lookup) := by
  have indexed : a.inventory.Indexed := registered ▸ Inventory.ofRegistrations_indexed entries
  refine ⟨process_succeeds indexed whole ordinary accepts, ?_⟩
  intro tellable f failed
  have absent : Inventory.Short noId := by
    show Integer.isWritable noId = true
    decide +kernel
  have leads : a.inventory.LeadsTo Inventory.Short := by
    rw [registered]
    exact Inventory.ofRegistrations_leadsTo absent Edge.short_userId numbers
  obtain ⟨info, told⟩ := info_dated ordinary
  rw [process_outcome accepts told] at failed
  exact Listener.gather_fault (Segment.info_names told) leads whole ordinary tellable failed

def shopEntries : List Registration :=
  [.service { id := 2, name := .text "shop", addressId := 9 },
    .inst { id := 3, name := .text "shop-1", serviceId := 2, addressId := 9 },
    .endpoint { id := 5, name := .text "/pay" }]

def shop : Analyzer where
  inventory := .ofRegistrations shopEntries
  config := { limit := .chars 2000, thresholds := {} }

def shopSegment : Segment :=
  let ref : Reference :=
    { parentEndpointId := 0, parentInstanceId := 3, networkAddressId := 0, parentSpanId := 0
      parentSegmentId := "r" }
  let entry : Span :=
    { id := 0, parentId := -1, kind := .entry, layer := .http, startTime := 0, endTime := 5
      isError := false, operationId := 5, peerId := 0, componentId := 0, tags := []
      references := [ref] }
  { id := "s", serviceId := 2, instanceId := 3, traceIds := [[.text "t"]]
    spans := [entry, { entry with kind := .exit, peerId := 9, references := [] }] }

theorem minuteBucket_zero : ∃ b, minuteBucket 0 = .ok b := by
  have dated : (minuteBucket 0).toOption.isSome = true := by decide +kernel
  cases known : minuteBucket 0 with
  | ok b => exact ⟨b, rfl⟩
  | error f =>
    rw [known] at dated
    cases dated

theorem shopSegment_ordinary : shopSegment.Ordinary where
  first span head := by
    obtain rfl := Option.some.inj head
    exact minuteBucket_zero
  exits span member _ := by
    have start : ∀ x ∈ shopSegment.spans, x.startTime = 0 := by decide
    rw [start span member]
    exact minuteBucket_zero
  texts span member t tagged := by
    have untagged : ∀ x ∈ shopSegment.spans, x.tags.length = 0 := by decide
    rw [List.eq_nil_of_length_eq_zero (untagged span member)] at tagged
    cases tagged
  service := Integer.isWritable_of_lt (by decide)
  inst := Integer.isWritable_of_lt (by decide)
  integers span member n within := by
    have small : ∀ x ∈ shopSegment.spans, ∀ k ∈ x.integers, k.natAbs < 10 := by decide
    exact Integer.isWritable_of_lt (small span member n within)
  parts parts member v part n within := by
    obtain rfl := List.mem_singleton.mp member
    obtain rfl := List.mem_singleton.mp part
    cases within

theorem process_shopSegment :
    (∀ r ∈ shopEntries, ∀ n ∈ r.integers, Integer.isWritable n = true) ∧
      shopSegment.Ordinary ∧ (process shopSegment shop).2 = none ∧
        shopSegment.Resolvable shop.inventory ∧ shopSegment.Tellable shop.config.stack := by
  have numbers : ∀ r ∈ shopEntries, ∀ n ∈ r.integers, Integer.isWritable n = true := by
    decide +kernel
  have whole : ∀ x, shop.config.limit ≠ .real x := nofun
  have succeeds : (process shopSegment shop).2 = none := by
    rw [← Option.isNone_iff_eq_none]
    decide +kernel
  have condition := process_succeeds_iff rfl numbers whole shopSegment_ordinary fun _ => rfl
  exact ⟨numbers, shopSegment_ordinary, succeeds, condition.1.mp succeeds⟩

def nested : Nat → Value
  | 0 => .list []
  | depth + 1 => .list [nested depth]

theorem fits_nested (limit more : Nat) : (nested (limit + more)).fits limit = false := by
  induction limit with
  | zero => cases more <;> rfl
  | succ limit ih =>
    rw [Nat.succ_add_eq_add_succ]
    change [nested (limit + more)].all (Value.fits limit) = false
    rw [List.all_cons, ih, Bool.false_and]

theorem nested_silent {depth : Nat} {n : Int} : ¬(nested depth).Mentions n := by
  induction depth with
  | zero =>
    intro within
    cases within with
    | item member _ => cases member
  | succ depth ih =>
    intro within
    cases within with
    | item member within =>
      obtain rfl := List.mem_singleton.mp member
      exact ih within

def nestedSegment (depth : Nat) : Segment :=
  { id := "s", serviceId := 1, instanceId := 1, traceIds := [[nested depth]], spans := [] }

theorem nestedSegment_spans {depth : Nat} : (nestedSegment depth).spans = [] := rfl

theorem nestedSegment_ordinary {depth : Nat} : (nestedSegment depth).Ordinary where
  first span head := by
    rw [nestedSegment_spans] at head
    cases head
  exits span member := by
    rw [nestedSegment_spans] at member
    cases member
  texts span member := by
    rw [nestedSegment_spans] at member
    cases member
  service := Integer.isWritable_of_lt (n := 1) (by decide)
  inst := Integer.isWritable_of_lt (n := 1) (by decide)
  integers span member := by
    rw [nestedSegment_spans] at member
    cases member
  parts parts member v part n within := by
    obtain rfl := List.mem_singleton.mp member
    obtain rfl := List.mem_singleton.mp part
    exact (nested_silent within).elim

theorem nestedSegment_resolvable {inv : Inventory} {depth : Nat} :
    (nestedSegment depth).Resolvable inv := by
  rw [Segment.resolvable_iff, nestedSegment_spans]
  intro span member
  cases member

/-- The shop on a stack on which a value of so many levels is told. -/
def shopOn (levels : Nat) : Analyzer :=
  { shop with config := { shop.config with stack := .limited levels } }

/-- Whatever the stack suffices for, lists that go deeper are not told. -/
theorem process_deeper (levels more : Nat) :
    (process (nestedSegment (levels + more)) (shopOn levels)).2 ≠ none := by
  intro succeeds
  have whole : ∀ x, (shopOn levels).config.limit ≠ .real x := nofun
  obtain ⟨_, tellable⟩ := (process_succeeds (Inventory.ofRegistrations_indexed shopEntries) whole
    nestedSegment_ordinary fun _ => rfl).mp succeeds
  have told := tellable _ rfl (nested (levels + more)) List.mem_cons_self
  have same : (shopOn levels).config.stack.canTell .traceIdPart (nested (levels + more)) =
      (nested (levels + more)).fits levels := by
    cases levels + more <;> exact Bool.false_or _
  rw [same, fits_nested] at told
  cases told

/-- To be registered is not enough. -/
theorem process_nestedSegment :
    (nestedSegment 2000).Ordinary ∧ (nestedSegment 2000).Resolvable (shopOn 1000).inventory ∧
      (process (nestedSegment 2000) (shopOn 1000)).2 ≠ none :=
  ⟨nestedSegment_ordinary, nestedSegment_resolvable, process_deeper 1000 1000⟩

end Analyzer

end TraceScope

