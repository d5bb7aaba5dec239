import TraceScope.Config
import TraceScope.Proofs.Legs
import TraceScope.Record

/-!
# The records of a segment

What a segment publishes, told from its spans and the inventory alone: the incoming calls, the
outgoing calls, then the slow statements, each in the order of the spans. Numbers that lead nowhere
count as 0 and names that are not registered are null; nothing of the kind occurs in a segment that
is processed without a fault.
-/

namespace TraceScope

/-- A name, or null in its place. -/
inductive Value.IsName : Value → Prop
  | null : IsName .null
  | text (t : Text) : IsName (.text t)

/-! ### Ends of calls -/

/-- Where a call came from: for a message, the queue at the network address; otherwise the parent
instance and its service. A parent endpoint without a number has no name. -/
def Reference.origin (inv : Inventory) (layer : SpanLayer) (ref : Reference) : Party :=
  let name := inv.operationName? ref.parentEndpointId
  if layer = .messageQueue then
    let service := (inv.serviceIds.get? ref.networkAddressId).getD noId
    let inst := (inv.instanceIds.get? (service, ref.networkAddressId)).getD noId
    inv.named service inst ref.parentEndpointId name
  else
    let service := ((inv.instances.get? ref.parentInstanceId).map (·.serviceId)).getD noId
    inv.named service ref.parentInstanceId ref.parentEndpointId name

namespace Span

/-- Where an incoming call came from, by each of its references; from the user without any. -/
def origins (inv : Inventory) (span : Span) : List Party :=
  match span.references with
  | [] => [inv.named userId userId userId (inv.operationName userId)]
  | refs => refs.map (Reference.origin inv span.layer)

/-- Where an outgoing call went to: the instance of the peer at its address, under the service that
the peer is mapped to, if it is mapped. -/
def target (inv : Inventory) (span : Span) : Party :=
  let peer := (inv.serviceIds.get? span.peerId).getD noId
  let mapped := ((inv.services.get? peer).map (·.mappingId)).getD noId
  let inst := (inv.instanceIds.get? (peer, span.peerId)).getD noId
  inv.named (if mapped = noId then peer else mapped) inst span.operationId
    (inv.operationName span.operationId)

def minute (span : Span) : Int := (minuteBucket span.startTime).toOption.getD 0

end Span

/-! ### Slow statements -/

def Tag.isNamed (key : Text) (t : Tag) : Bool :=
  match t.key with
  | .text k => k = key
  | _ => false

def LengthLimit.kept (limit : LengthLimit) : Nat := limit.cut.toOption.getD 0

/-- A statement without what exceeds a limit. -/
def LengthLimit.shorten (limit : LengthLimit) : Value → Value
  | .text t => if limit.exceededBy t.length then .text ⟨t.letters.take limit.kept⟩ else .text t
  | .list items =>
    if limit.exceededBy items.length then .list (items.take limit.kept) else .list items
  | v => v

def Thresholds.millis (t : Thresholds) : Value → Int
  | .text name => t.forName name
  | _ => t.forOthers

namespace Span

/-- Whether some type of database in the tags has a threshold below the latency. -/
def isSlow (thresholds : Thresholds) (span : Span) : Bool :=
  span.tags.any fun t =>
    t.isNamed Statement.typeKey && decide (thresholds.millis t.value < span.latency)

/-- The last statement in the tags, shortened, or null if there is none. -/
def statement (limit : LengthLimit) (span : Span) : Value :=
  ((span.tags.filter (·.isNamed Statement.statementKey)).getLast?.map fun t =>
    limit.shorten t.value).getD .null

end Span

/-! ### The segment as a whole -/

def incoming (spans : List Span) : List Span := spans.filter fun x => x.kind = .entry

/-- The outgoing calls with a peer among some spans. -/
def outgoing (spans : List Span) : List Span :=
  spans.filter fun x => x.kind = .exit ∧ x.peerId ≠ noId

namespace Segment

def minute (s : Segment) : Int := (s.spans.head?.map Span.minute).getD 0

def traceId (s : Segment) : Option Text :=
  s.traceIds.head?.map fun parts => Text.intercalate "." (parts.map Value.display)

def own (inv : Inventory) (s : Segment) (endpointId : Int) : Party :=
  inv.named s.serviceId s.instanceId endpointId (inv.operationName endpointId)

/-- The endpoint from which calls go out: that of the last incoming call, or the user's. -/
def nearEndpoint (s : Segment) : Int :=
  ((incoming s.spans).getLast?.map (·.operationId)).getD userId

def entryLegs (inv : Inventory) (s : Segment) (span : Span) : List Edge :=
  (span.origins inv).map fun origin => .ofSpan span .server origin (s.own inv span.operationId)

def exitLeg (inv : Inventory) (s : Segment) (endpointId : Int) (span : Span) : Edge :=
  .ofSpan span .client (s.own inv endpointId) (span.target inv)

def slowStatement (inv : Inventory) (config : Config) (s : Segment) (span : Span) :
    SlowStatement :=
  { id := s.id ++ "-" ++ Integer.text span.id
    serviceId := (span.target inv).serviceId
    statement := span.statement config.limit
    latency := span.latency
    timeBucket := span.minute
    traceId := s.traceId }

def entryRecords (inv : Inventory) (s : Segment) (span : Span) : List Record :=
  (s.entryLegs inv span).flatMap fun leg =>
    let known := leg.source.endpointName.truthy && leg.dest.endpointName.truthy
    let facets : List Facet :=
      [.all, .service, .serviceInstance, .endpoint, .serviceRelation, .serviceInstanceRelation] ++
        if known then [.endpointRelation] else []
    facets.map fun f => .leg f leg (.int s.minute)

def exitRecords (inv : Inventory) (s : Segment) (span : Span) : List Record :=
  let facets : List Facet :=
    [.serviceRelation, .serviceInstanceRelation] ++
      if span.layer = .database then [.databaseAccess] else []
  facets.map fun f => .leg f (s.exitLeg inv s.nearEndpoint span) (.int s.minute)

/-- The outgoing calls that were slow accesses to a database, among some spans. -/
def slowCalls (config : Config) (spans : List Span) : List Span :=
  (outgoing spans).filter fun x => x.layer = .database ∧ x.isSlow config.thresholds

def records (inv : Inventory) (config : Config) (s : Segment) : List Record :=
  (incoming s.spans).flatMap (s.entryRecords inv) ++
    (outgoing s.spans).flatMap (s.exitRecords inv) ++
    (slowCalls config s.spans).map fun span => .slow (s.slowStatement inv config span)

/-- The records of calls, incoming ones first. -/
def callRecords (inv : Inventory) (s : Segment) : List Record :=
  (incoming s.spans).flatMap (s.entryRecords inv) ++
    (outgoing s.spans).flatMap (s.exitRecords inv)

theorem records_eq (inv : Inventory) (config : Config) (s : Segment) :
    s.records inv config = s.callRecords inv ++
      (slowCalls config s.spans).map fun span => .slow (s.slowStatement inv config span) := rfl

variable {inv : Inventory} {config : Config} {s : Segment} {r : Record}

theorem callRecords_cases (member : r ∈ s.callRecords inv) :
    (∃ span ∈ incoming s.spans, ∃ origin ∈ span.origins inv, ∃ f,
        r = .leg f (.ofSpan span .server origin (s.own inv span.operationId)) (.int s.minute)) ∨
      ∃ span ∈ outgoing s.spans, ∃ f,
        r = .leg f (s.exitLeg inv s.nearEndpoint span) (.int s.minute) := by
  rcases List.mem_append.mp member with entry | exit
  · obtain ⟨span, call, made⟩ := List.mem_flatMap.mp entry
    obtain ⟨leg, present, made⟩ := List.mem_flatMap.mp made
    obtain ⟨f, _, rfl⟩ := List.mem_map.mp made
    obtain ⟨origin, known, rfl⟩ := List.mem_map.mp present
    exact Or.inl ⟨span, call, origin, known, f, rfl⟩
  · obtain ⟨span, call, made⟩ := List.mem_flatMap.mp exit
    obtain ⟨f, _, rfl⟩ := List.mem_map.mp made
    exact Or.inr ⟨span, call, f, rfl⟩

theorem leg_cases {f : Facet} {e : Edge} {b : Value} (member : .leg f e b ∈ s.records inv config) :
    (∃ span ∈ incoming s.spans, ∃ origin ∈ span.origins inv,
        e = .ofSpan span .server origin (s.own inv span.operationId)) ∨
      ∃ span ∈ outgoing s.spans, e = s.exitLeg inv s.nearEndpoint span := by
  rcases List.mem_append.mp member with call | slow
  · rcases callRecords_cases call with ⟨span, call, origin, known, g, same⟩ | ⟨span, call, g, same⟩
    · exact Or.inl ⟨span, call, origin, known, (Record.leg.inj same).2.1⟩
    · exact Or.inr ⟨span, call, (Record.leg.inj same).2.1⟩
  · obtain ⟨span, _, same⟩ := List.mem_map.mp slow
    cases same

theorem slow_cases {statement : SlowStatement} (member : .slow statement ∈ s.records inv config) :
    ∃ span ∈ slowCalls config s.spans, statement = s.slowStatement inv config span := by
  rcases List.mem_append.mp member with call | slow
  · rcases callRecords_cases call with ⟨_, _, _, _, _, same⟩ | ⟨_, _, _, same⟩
    · cases same
    · cases same
  · obtain ⟨span, call, same⟩ := List.mem_map.mp slow
    exact ⟨span, call, (Record.slow.inj same).symm⟩

end Segment

/-! ### What is known of a segment -/

/-- What is known of a segment as a whole is what the segment says. -/
structure SegmentInfo.Names (info : SegmentInfo) (segment : Segment) : Prop where
  id : info.segmentId = segment.id
  service : info.serviceId = .int segment.serviceId
  inst : info.instanceId = .int segment.instanceId
  minute : info.minuteBucket = some (.int segment.minute)

theorem Segment.info_names {segment : Segment} {info : SegmentInfo}
    (told : segment.info = .ok info) : info.Names segment := by
  unfold Segment.info at told
  cases spans : segment.spans with
  | nil =>
    rw [spans] at told
    cases told
    exact ⟨rfl, rfl, rfl, by simp [Segment.minute, spans]⟩
  | cons first rest =>
    rw [spans] at told
    obtain ⟨b, dated, told⟩ := bind_ok_iff.mp told
    obtain rfl := pure_ok_iff.mp told
    exact ⟨rfl, rfl, rfl, by simp [Segment.minute, spans, Span.minute, dated, Except.toOption]⟩

/-- The segment itself and one of its endpoints are registered. -/
def Segment.Hosts (inv : Inventory) (s : Segment) (endpointId : Int) : Prop :=
  inv.HasService s.serviceId ∧ inv.HasInstance s.instanceId ∧ inv.HasEndpoint endpointId

theorem Edge.entryParty_ok_iff {inv : Inventory} {info : SegmentInfo} {segment : Segment}
    {span : Span} {p : Party} (names : info.Names segment) :
    entryParty inv info span = .ok p ↔
      segment.Hosts inv span.operationId ∧ p = segment.own inv span.operationId := by
  unfold entryParty Segment.Hosts Segment.own
  rw [names.service, names.inst, Inventory.party_ok_iff]
  constructor
  · rintro ⟨service, inst, name, endpoint, rfl⟩
    obtain ⟨present, rfl⟩ := Inventory.endpointName_ok_iff.mp endpoint
    exact ⟨⟨service, inst, present⟩, rfl⟩
  · rintro ⟨⟨service, inst, present⟩, rfl⟩
    exact ⟨service, inst, _, Inventory.endpointName_ok_iff.mpr ⟨present, rfl⟩, rfl⟩

end TraceScope
