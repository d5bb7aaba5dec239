import TraceScope.Proofs.Inheritance
import TraceScope.Proofs.Reporting
import TraceScope.Proofs.Specification
import TraceScope.Report
import TraceScope.Segment.Document

/-!
# What a report inherits

Names come from the inventory and statements from the segments, and so do the texts of a report.
What the parts of the documents of both inherit, the records of the segments and the report on them
inherit as well.
-/

namespace TraceScope

variable {P : Value → Prop}

/-! ### Documents -/

namespace Value.Inherited

variable {v w default : Value} {name : Text} {vs : List Value}

theorem memberOf (inherited : Inherited P) {members : List (Text × Value)}
    (whole : P (.object members)) (found : Value.memberOf name members = some w) : P w := by
  obtain ⟨m, chosen, rfl⟩ := Option.map_eq_some_iff.mp found
  exact (inherited.members whole m (List.mem_of_find?_eq_some chosen)).2

theorem member (inherited : Inherited P) (whole : P v) (found : v.member name = .ok w) : P w := by
  cases v with
  | object members =>
    simp only [Value.member] at found
    split at found
    · rename_i known
      obtain rfl := Except.ok.inj found
      exact inherited.memberOf whole known
    · cases found
  | _ => cases found

theorem memberD (inherited : Inherited P) (whole : P v) (standard : P default)
    (found : v.memberD name default = .ok w) : P w := by
  cases v with
  | object members =>
    obtain rfl := Except.ok.inj found
    cases known : Value.memberOf name members with
    | none => exact standard
    | some x => exact inherited.memberOf whole known
  | _ => cases found

theorem elements (inherited : Inherited P) (whole : P v) (found : v.elements = .ok vs) :
    ∀ w ∈ vs, P w := by
  cases v with
  | list items =>
    obtain rfl := Except.ok.inj found
    exact inherited.list.mp whole
  | text t =>
    obtain rfl := Except.ok.inj found
    intro w member
    obtain ⟨l, present, rfl⟩ := List.mem_map.mp member
    exact inherited.letters whole l present
  | object members =>
    obtain rfl := Except.ok.inj found
    intro w member
    obtain ⟨m, present, rfl⟩ := List.mem_map.mp member
    exact (inherited.members whole m present).1
  | _ => cases found

theorem listD (inherited : Inherited P) {α : Type} {read : Value → Except Fault α} {as : List α}
    (whole : P v) (done : v.listD read name = .ok as) : ∀ a ∈ as, ∃ w, P w ∧ read w = .ok a := by
  obtain ⟨items, found, done⟩ := bind_ok_iff.mp done
  obtain ⟨listed, opened, done⟩ := bind_ok_iff.mp done
  have items := inherited.memberD whole (inherited.list.mpr fun w none =>
    absurd none List.not_mem_nil) found
  intro a member
  obtain ⟨w, present, made⟩ := mem_mapM done a member
  exact ⟨w, inherited.elements items opened w present, made⟩

end Value.Inherited

/-! ### Inventories -/

theorem Service.ofValue_holds (inherited : Value.Inherited P) {v : Value} {s : Service}
    (whole : P v) (made : Service.ofValue v = .ok s) : P s.name := by
  obtain ⟨_, _, made⟩ := bind_ok_iff.mp made
  obtain ⟨id, _, made⟩ := bind_ok_iff.mp made
  obtain ⟨name, found, made⟩ := bind_ok_iff.mp made
  obtain ⟨mapping, _, made⟩ := bind_ok_iff.mp made
  obtain ⟨address, _, made⟩ := bind_ok_iff.mp made
  obtain rfl := pure_ok_iff.mp made
  exact inherited.member whole found

theorem Instance.ofValue_holds (inherited : Value.Inherited P) {v : Value} {i : Instance}
    (whole : P v) (made : Instance.ofValue v = .ok i) : P i.name := by
  obtain ⟨_, _, made⟩ := bind_ok_iff.mp made
  obtain ⟨id, _, made⟩ := bind_ok_iff.mp made
  obtain ⟨name, found, made⟩ := bind_ok_iff.mp made
  obtain ⟨_, _, made⟩ := bind_ok_iff.mp made
  obtain ⟨service, _, made⟩ := bind_ok_iff.mp made
  obtain ⟨address, _, made⟩ := bind_ok_iff.mp made
  obtain rfl := pure_ok_iff.mp made
  exact inherited.member whole found

theorem Endpoint.ofValue_holds (inherited : Value.Inherited P) {v : Value} {e : Endpoint}
    (whole : P v) (made : Endpoint.ofValue v = .ok e) : P e.name := by
  obtain ⟨_, _, made⟩ := bind_ok_iff.mp made
  obtain ⟨id, _, made⟩ := bind_ok_iff.mp made
  obtain ⟨name, found, made⟩ := bind_ok_iff.mp made
  obtain ⟨service, _, made⟩ := bind_ok_iff.mp made
  obtain rfl := pure_ok_iff.mp made
  exact inherited.member whole found

namespace Inventory

/-- All names have the property. -/
structure Holds (P : Value → Prop) (inv : Inventory) : Prop where
  services : ∀ id s, inv.services.get? id = some s → P s.name
  instances : ∀ id i, inv.instances.get? id = some i → P i.name
  endpoints : ∀ id e, inv.endpoints.get? id = some e → P e.name

variable {inv : Inventory} {doc : Value}

theorem addService_holds {s : Service} (name : P s.name) (h : inv.Holds P) :
    (inv.addService s).Holds P := by
  refine { h with services := fun id found known => ?_ }
  rw [services_addService, Table.get?_insert] at known
  split at known
  · obtain rfl := Option.some.inj known
    exact name
  · exact h.services id found known

theorem addInstance_holds {i : Instance} (name : P i.name) (h : inv.Holds P) :
    (inv.addInstance i).Holds P := by
  refine { h with instances := fun id found known => ?_ }
  rw [instances_addInstance, Table.get?_insert] at known
  split at known
  · obtain rfl := Option.some.inj known
    exact name
  · exact h.instances id found known

theorem addEndpoint_holds {e : Endpoint} (name : P e.name) (h : inv.Holds P) :
    (inv.addEndpoint e).Holds P := by
  refine { h with endpoints := fun id found known => ?_ }
  rw [endpoints_addEndpoint, Table.get?_insert] at known
  split at known
  · obtain rfl := Option.some.inj known
    exact name
  · exact h.endpoints id found known

theorem initial_holds (inherited : Value.Inherited P) : Holds P initial := by
  have none : ({} : Inventory).Holds P := by constructor <;> simp
  exact addEndpoint_holds (inherited.string _) (addInstance_holds (inherited.string _)
    (addService_holds (inherited.string _) none))

theorem ofEntries_holds (inherited : Value.Inherited P) (whole : P doc)
    (done : ofEntries doc = .ok inv) : inv.Holds P := by
  obtain ⟨services, readServices, done⟩ := bind_ok_iff.mp done
  obtain ⟨instances, readInstances, done⟩ := bind_ok_iff.mp done
  obtain ⟨endpoints, readEndpoints, done⟩ := bind_ok_iff.mp done
  obtain rfl := pure_ok_iff.mp done
  have withServices : (services.foldl addService initial).Holds P := by
    refine List.foldlRecOn services addService (initial_holds inherited) ?_
    intro inv h s member
    obtain ⟨w, part, made⟩ := inherited.listD whole readServices s member
    exact addService_holds (Service.ofValue_holds inherited part made) h
  have withInstances :
      (instances.foldl addInstance (services.foldl addService initial)).Holds P := by
    refine List.foldlRecOn instances addInstance withServices ?_
    intro inv h i member
    obtain ⟨w, part, made⟩ := inherited.listD whole readInstances i member
    exact addInstance_holds (Instance.ofValue_holds inherited part made) h
  refine List.foldlRecOn endpoints addEndpoint withInstances ?_
  intro inv h e member
  obtain ⟨w, part, made⟩ := inherited.listD whole readEndpoints e member
  exact addEndpoint_holds (Endpoint.ofValue_holds inherited part made) h

theorem ofValue_holds (inherited : Value.Inherited P) (whole : P doc)
    (done : ofValue doc = .ok inv) : inv.Holds P := by
  unfold ofValue at done
  split at done
  · rename_i members
    cases read : ofEntries (.object members) with
    | error f =>
      rw [read] at done
      cases done
    | ok made =>
      rw [read] at done
      obtain rfl := Except.ok.inj done
      exact ofEntries_holds inherited whole read
  · cases done

theorem Holds.serviceName (inherited : Value.Inherited P) (h : inv.Holds P) (id : Int) :
    P (inv.serviceName id) := by
  unfold Inventory.serviceName
  cases known : inv.services.get? id with
  | none => exact inherited.null
  | some s => exact h.services id s known

theorem Holds.instanceName (inherited : Value.Inherited P) (h : inv.Holds P) (id : Int) :
    P (inv.instanceName id) := by
  unfold Inventory.instanceName
  cases known : inv.instances.get? id with
  | none => exact inherited.null
  | some i => exact h.instances id i known

theorem Holds.operationName (inherited : Value.Inherited P) (h : inv.Holds P) (id : Int) :
    P (inv.operationName id) := by
  unfold Inventory.operationName
  cases known : inv.endpoints.get? id with
  | none => exact inherited.null
  | some e => exact h.endpoints id e known

theorem Holds.operationName? (inherited : Value.Inherited P) (h : inv.Holds P) (id : Int) :
    P (inv.operationName? id) := by
  unfold Inventory.operationName?
  split
  · exact inherited.null
  · exact h.operationName inherited _

end Inventory

/-! ### Segments -/

/-- The identifier, the parts of the trace identifiers and the values of all tags have the
property. -/
structure Segment.Holds (P : Value → Prop) (s : Segment) : Prop where
  id : P (.text s.id)
  traceIds : ∀ parts ∈ s.traceIds, ∀ v ∈ parts, P v
  tags : ∀ span ∈ s.spans, ∀ tag ∈ span.tags, P tag.value

theorem Tag.ofValue_holds (inherited : Value.Inherited P) {v : Value} {tag : Tag} (whole : P v)
    (made : Tag.ofValue v = .ok tag) : P tag.value := by
  obtain ⟨_, _, made⟩ := bind_ok_iff.mp made
  obtain ⟨value, found, made⟩ := bind_ok_iff.mp made
  obtain rfl := pure_ok_iff.mp made
  exact inherited.memberD whole (inherited.string "") found

theorem Span.ofValue_holds (inherited : Value.Inherited P) {stack : Stack} {v : Value} {span : Span}
    (whole : P v) (made : Span.ofValue stack v = .ok span) : ∀ tag ∈ span.tags, P tag.value := by
  obtain ⟨⟨kind, layer⟩, _, made⟩ := bind_ok_iff.mp made
  obtain ⟨_, _, made⟩ := bind_ok_iff.mp made
  obtain ⟨id, _, made⟩ := bind_ok_iff.mp made
  obtain ⟨parentId, _, made⟩ := bind_ok_iff.mp made
  obtain ⟨startTime, _, made⟩ := bind_ok_iff.mp made
  obtain ⟨endTime, _, made⟩ := bind_ok_iff.mp made
  obtain ⟨isError, _, made⟩ := bind_ok_iff.mp made
  obtain ⟨operationId, _, made⟩ := bind_ok_iff.mp made
  obtain ⟨peerId, _, made⟩ := bind_ok_iff.mp made
  obtain ⟨componentId, _, made⟩ := bind_ok_iff.mp made
  obtain ⟨tags, read, made⟩ := bind_ok_iff.mp made
  obtain ⟨references, _, made⟩ := bind_ok_iff.mp made
  obtain rfl := pure_ok_iff.mp made
  intro tag member
  obtain ⟨w, part, made⟩ := inherited.listD whole read tag member
  exact Tag.ofValue_holds inherited part made

theorem Segment.readTraceId_holds (inherited : Value.Inherited P) {v : Value} {parts : List Value}
    (whole : P v) (made : Segment.readTraceId v = .ok parts) : ∀ part ∈ parts, P part := by
  obtain ⟨listed, found, made⟩ := bind_ok_iff.mp made
  have items := inherited.memberD whole (inherited.list.mpr fun w none =>
    absurd none List.not_mem_nil) found
  exact inherited.elements items made

theorem Segment.ofValue_holds (inherited : Value.Inherited P) {stack : Stack} {doc : Value}
    {segment : Segment} (whole : P doc) (made : Segment.ofValue stack doc = .ok segment) :
    segment.Holds P := by
  unfold Segment.ofValue at made
  cases read : Segment.readMembers stack doc with
  | error f =>
    rw [read] at made
    cases made
  | ok s =>
    rw [read] at made
    obtain rfl := Except.ok.inj made
    obtain ⟨named, known, read⟩ := bind_ok_iff.mp read
    obtain ⟨id, told, read⟩ := bind_ok_iff.mp read
    obtain ⟨_, _, read⟩ := bind_ok_iff.mp read
    obtain ⟨serviceId, _, read⟩ := bind_ok_iff.mp read
    obtain ⟨_, _, read⟩ := bind_ok_iff.mp read
    obtain ⟨instanceId, _, read⟩ := bind_ok_iff.mp read
    obtain ⟨traceIds, traced, read⟩ := bind_ok_iff.mp read
    obtain ⟨spans, listed, read⟩ := bind_ok_iff.mp read
    obtain rfl := pure_ok_iff.mp read
    refine ⟨inherited.told (inherited.member whole known) told, fun parts member => ?_,
      fun span member => ?_⟩
    · obtain ⟨w, part, made⟩ := inherited.listD whole traced parts member
      exact Segment.readTraceId_holds inherited part made
    · obtain ⟨w, part, made⟩ := inherited.listD whole listed span member
      exact Span.ofValue_holds inherited part made

/-! ### Records -/

structure Party.Holds (P : Value → Prop) (p : Party) : Prop where
  serviceId : P p.serviceId
  serviceName : P p.serviceName
  instanceId : P p.instanceId
  instanceName : P p.instanceName
  endpointName : P p.endpointName

structure Edge.Holds (P : Value → Prop) (e : Edge) : Prop where
  source : e.source.Holds P
  dest : e.dest.Holds P

structure SlowStatement.Holds (P : Value → Prop) (s : SlowStatement) : Prop where
  id : P (.text s.id)
  serviceId : P s.serviceId
  statement : P s.statement
  traceId : P (.ofText? s.traceId)

def Record.Holds (P : Value → Prop) : Record → Prop
  | .leg _ e bucket => e.Holds P ∧ P bucket
  | .slow s => s.Holds P

theorem Edge.cell_holds (inherited : Value.Inherited P) {e : Edge} {bucket : Value} (h : e.Holds P)
    (dated : P bucket) (c : Column) : P (e.cell (some bucket) c) := by
  cases c with
  | sourceEndpointName => exact h.source.endpointName
  | sourceInstanceId => exact h.source.instanceId
  | sourceInstanceName => exact h.source.instanceName
  | sourceServiceId => exact h.source.serviceId
  | sourceServiceName => exact h.source.serviceName
  | destEndpointName => exact h.dest.endpointName
  | destInstanceId => exact h.dest.instanceId
  | destInstanceName => exact h.dest.instanceName
  | destServiceId => exact h.dest.serviceId
  | destServiceName => exact h.dest.serviceName
  | timeBucket => exact dated
  | detectPoint => exact inherited.string _
  | requestType => exact inherited.string _
  | status => exact inherited.bool _
  | _ => exact inherited.int _

theorem Text.ofString_injective : Function.Injective Text.ofString := by
  intro s t same
  rw [← Text.shown_ofString s, same, Text.shown_ofString]

/-- An object whose members go by names that are all different. -/
theorem Value.Inherited.named (inherited : Value.Inherited P) {ms : List (Text × Value)}
    (names : List String) (known : ms.map (·.1) = names.map Text.ofString) (distinct : names.Nodup)
    (parts : ∀ m ∈ ms, P m.2) : P (.object ms) := by
  refine inherited.object (known ▸ distinct.map Text.ofString_injective) fun m member => ?_
  have name : m.1 ∈ names.map Text.ofString := known ▸ List.mem_map_of_mem member
  obtain ⟨s, _, same⟩ := List.mem_map.mp name
  exact ⟨same ▸ inherited.string s, parts m member⟩

theorem SlowStatement.members_holds (inherited : Value.Inherited P) {s : SlowStatement}
    (h : s.Holds P) : P (.object s.members) := by
  refine inherited.named ["id", "database_service_id", "statement", "latency", "time_bucket",
    "trace_id"] rfl (by decide) ?_
  simp only [members, List.forall_mem_cons]
  exact ⟨h.id, h.serviceId, h.statement, inherited.int _, inherited.int _, h.traceId,
    fun m none => absurd none List.not_mem_nil⟩

theorem Facet.fields_distinct (f : Facet) : (f.fields.map (·.1)).Nodup := by
  cases f <;> decide

theorem Record.members_holds (inherited : Value.Inherited P) {r : Record} (h : r.Holds P) :
    P (.object r.members) := by
  cases r with
  | leg f e bucket =>
    refine inherited.named (f.fields.map (·.1)) ?_ f.fields_distinct fun m member => ?_
    · simp [members, Function.comp_def]
    · obtain ⟨field, _, rfl⟩ := List.mem_map.mp member
      exact Edge.cell_holds inherited h.1 h.2 field.2
  | slow s => exact SlowStatement.members_holds inherited h

namespace Segment

variable {inv : Inventory} {config : Config} {segment : Segment} {span : Span}

theorem named_holds (inherited : Value.Inherited P) (h : inv.Holds P) (service inst endpoint : Int)
    {name : Value} (whole : P name) : (inv.named service inst endpoint name).Holds P :=
  ⟨inherited.int _, h.serviceName inherited service, inherited.int _,
    h.instanceName inherited inst, whole⟩

theorem own_holds (inherited : Value.Inherited P) (h : inv.Holds P) (endpointId : Int) :
    (segment.own inv endpointId).Holds P :=
  named_holds inherited h _ _ _ (h.operationName inherited endpointId)

theorem target_holds (inherited : Value.Inherited P) (h : inv.Holds P) :
    (span.target inv).Holds P :=
  named_holds inherited h _ _ _ (h.operationName inherited span.operationId)

theorem origins_holds (inherited : Value.Inherited P) (h : inv.Holds P) :
    ∀ p ∈ span.origins inv, p.Holds P := by
  unfold Span.origins
  split
  · intro p member
    obtain rfl := List.mem_singleton.mp member
    exact named_holds inherited h _ _ _ (h.operationName inherited userId)
  · intro p member
    obtain ⟨ref, _, rfl⟩ := List.mem_map.mp member
    unfold Reference.origin
    dsimp only
    split
    · exact named_holds inherited h _ _ _ (h.operationName? inherited _)
    · exact named_holds inherited h _ _ _ (h.operationName? inherited _)

theorem shorten_holds (inherited : Value.Inherited P) {limit : LengthLimit} {v : Value}
    (whole : P v) : P (limit.shorten v) := by
  cases v with
  | text t =>
    simp only [LengthLimit.shorten]
    split
    · exact inherited.cut _ whole
    · exact whole
  | list items =>
    simp only [LengthLimit.shorten]
    split
    · exact inherited.list.mpr fun w member =>
        inherited.list.mp whole w (List.mem_of_mem_take member)
    · exact whole
  | _ => exact whole

theorem statement_holds (inherited : Value.Inherited P) {limit : LengthLimit}
    (tags : ∀ tag ∈ span.tags, P tag.value) : P (span.statement limit) := by
  unfold Span.statement
  cases last : (span.tags.filter (·.isNamed Statement.statementKey)).getLast? with
  | none => exact inherited.null
  | some tag =>
    have member := (List.mem_filter.mp (List.mem_of_getLast? last)).1
    exact shorten_holds inherited (tags tag member)

theorem traceId_holds (inherited : Value.Inherited P) (h : segment.Holds P) :
    P (.ofText? segment.traceId) := by
  unfold traceId
  cases first : segment.traceIds.head? with
  | none => exact inherited.null
  | some parts =>
    refine inherited.intercalate '.' fun t member => ?_
    obtain ⟨v, present, rfl⟩ := List.mem_map.mp member
    exact inherited.display (h.traceIds parts (List.mem_of_head? first) v present)

theorem slowStatement_holds (inherited : Value.Inherited P) (inventory : inv.Holds P)
    (h : segment.Holds P) (present : span ∈ segment.spans) :
    (segment.slowStatement inv config span).Holds P where
  id := inherited.join '-' [] h.id (inherited.string _)
  serviceId := (target_holds inherited inventory).serviceId
  statement := statement_holds inherited (h.tags span present)
  traceId := traceId_holds inherited h

/-- The records of a segment inherit what its parts and the inventory have. -/
theorem records_holds (inherited : Value.Inherited P) (inventory : inv.Holds P)
    (h : segment.Holds P) : ∀ r ∈ segment.records inv config, r.Holds P := by
  intro r member
  rcases List.mem_append.mp member with call | slow
  · rcases callRecords_cases call with ⟨span, _, origin, known, f, rfl⟩ | ⟨span, _, f, rfl⟩
    · exact ⟨⟨origins_holds inherited inventory origin known, own_holds inherited inventory _⟩,
        inherited.int _⟩
    · exact ⟨⟨own_holds inherited inventory _, target_holds inherited inventory⟩, inherited.int _⟩
  · obtain ⟨span, chosen, rfl⟩ := List.mem_map.mp slow
    exact slowStatement_holds inherited inventory h
      (List.mem_filter.mp (List.mem_filter.mp chosen).1).1

end Segment

theorem Analyzer.output_holds (inherited : Value.Inherited P) {inv : Inventory} {config : Config}
    {segment : Segment} (inventory : inv.Holds P) (h : segment.Holds P) :
    ∀ r ∈ Analyzer.output inv config segment, r.Holds P := by
  intro r member
  rw [Analyzer.output_eq] at member
  split at member
  · exact Segment.records_holds inherited inventory h r member
  · cases member

/-! ### Reports -/

namespace CallSummary

/-- The names in a row have the property, and there are calls in it. -/
structure Holds (P : Value → Prop) (row : CallSummary) : Prop where
  caller : P row.caller
  callee : P row.callee
  positive : 0 < row.count

theorem addTo_holds {rows rows' : Table Id CallSummary} {e : Edge} (edge : e.Holds P)
    (known : ∀ row ∈ rows.entries, row.2.Holds P) (done : addTo rows e = .ok rows') :
    ∀ row ∈ rows'.entries, row.2.Holds P := by
  obtain ⟨id, _, done⟩ := bind_ok_iff.mp done
  obtain rfl := pure_ok_iff.mp done
  intro row member
  rcases Table.mem_alterEntries member with ⟨_, former, present, new⟩ | old
  · rw [new]
    cases former with
    | none => exact ⟨edge.source.serviceName, edge.dest.serviceName, Nat.succ_pos _⟩
    | some summary =>
      obtain ⟨old, member, rfl⟩ := present summary rfl
      exact ⟨(known old member).caller, (known old member).callee, Nat.succ_pos _⟩
  · exact known row old

theorem ofCalls_holds {calls : List Edge} {rows : List CallSummary} (edges : ∀ e ∈ calls, e.Holds P)
    (done : ofCalls calls = .ok rows) : ∀ row ∈ rows, row.Holds P := by
  obtain ⟨table, gathered, made⟩ := bind_ok_iff.mp done
  obtain rfl := pure_ok_iff.mp made
  have none : ∀ row ∈ ({} : Table Id CallSummary).entries, row.2.Holds P := fun row member =>
    absurd member List.not_mem_nil
  intro row member
  obtain ⟨entry, present, rfl⟩ := List.mem_map.mp member
  refine foldlM_keeps (P := fun table => ∀ row ∈ table.entries, row.2.Holds P) ?_ none gathered
    entry present
  exact fun e member start table known first => addTo_holds (edges e member) known first

theorem average_holds (inherited : Value.Inherited P) {row : CallSummary} {x : Binary64}
    (h : row.Holds P) (done : row.average = .ok x) : P (.double x) := by
  unfold average quotient? at done
  split at done
  · rename_i y found
    obtain rfl := Except.ok.inj done
    split at found
    · cases found
    · obtain rfl := Option.some.inj found
      exact inherited.quotient _ _ h.positive
  · cases done

theorem toValue_holds (inherited : Value.Inherited P) {row : CallSummary} {x : Binary64}
    (h : row.Holds P) (done : P (.double x)) : P (row.toValue x) := by
  refine inherited.named ["caller", "callee", "detect_point", "count", "total_latency_ms",
    "avg_latency_ms", "error_count"] rfl (by decide) ?_
  simp only [List.forall_mem_cons]
  exact ⟨h.caller, h.callee, inherited.string _, inherited.int _, inherited.int _, done,
    inherited.int _, fun m none => absurd none List.not_mem_nil⟩

end CallSummary

namespace Report

theorem scopeNames_distinct (r : Report) : (r.scopes.map Scope.name).Nodup :=
  (nodup_eraseDups _).map Scope.name_injective

theorem summary_holds (inherited : Value.Inherited P) (r : Report) : P r.summary := by
  refine inherited.named ["total_segments", "total_records", "records_by_scope",
    "total_slow_statements"] rfl (by decide) ?_
  simp only [List.forall_mem_cons]
  refine ⟨inherited.int _, inherited.int _, ?_, inherited.int _,
    fun m none => absurd none List.not_mem_nil⟩
  refine inherited.named (r.scopes.map Scope.name) ?_ r.scopeNames_distinct fun m member => ?_
  · simp [counts, Function.comp_def]
  · obtain ⟨c, _, rfl⟩ := List.mem_map.mp member
    exact inherited.int _

theorem parts_holds (inherited : Value.Inherited P) {r : Report}
    (records : ∀ record ∈ r.records, record.Holds P)
    (calls : ∀ c ∈ r.calls, P (c.1.toValue c.2)) : P r.toValue := by
  refine inherited.named ["summary", "records", "service_calls", "slow_statements"] rfl (by decide)
    ?_
  simp only [List.forall_mem_cons]
  refine ⟨r.summary_holds inherited, ?_, ?_, ?_, fun m none => absurd none List.not_mem_nil⟩
  · refine inherited.named (r.scopes.map Scope.name) ?_ r.scopeNames_distinct fun m member => ?_
    · simp [Function.comp_def]
    · obtain ⟨s, _, rfl⟩ := List.mem_map.mp member
      refine inherited.list.mpr fun v member => ?_
      obtain ⟨record, present, rfl⟩ := List.mem_map.mp member
      exact Record.members_holds inherited (records record (List.mem_filter.mp present).1)
  · refine inherited.list.mpr fun v member => ?_
    obtain ⟨c, present, rfl⟩ := List.mem_map.mp member
    exact calls c present
  · refine inherited.list.mpr fun v member => ?_
    obtain ⟨s, present, rfl⟩ := List.mem_map.mp member
    obtain ⟨record, known, slow⟩ := List.mem_filterMap.mp (List.mem_mergeSort.mp present)
    cases record with
    | leg => cases slow
    | slow s' =>
      obtain rfl := Option.some.inj slow
      exact SlowStatement.members_holds inherited (records _ known)

/-- A report inherits what its records have. -/
theorem toValue_holds (inherited : Value.Inherited P) {stack : Stack} {count : Nat}
    {records : List Record} {r : Report} (all : ∀ record ∈ records, record.Holds P)
    (made : ofRecords stack count records = .ok r) : P r.toValue := by
  unfold ofRecords at made
  dsimp only at made
  split at made
  · obtain ⟨rows, gathered, made⟩ := bind_ok_iff.mp made
    obtain ⟨averages, averaged, made⟩ := bind_ok_iff.mp made
    obtain rfl := pure_ok_iff.mp made
    have calls : ∀ row ∈ rows, row.Holds P := by
      refine CallSummary.ofCalls_holds ?_ gathered
      intro e member
      obtain ⟨record, present, call⟩ := List.mem_filterMap.mp member
      obtain ⟨_, rfl⟩ := Record.call?_eq_some.mp call
      exact (all _ present).1
    refine parts_holds inherited all fun c member => ?_
    have pair := List.mem_mergeSort.mp member
    rw [CallSummary.averages_eq] at averaged
    split at averaged
    · rename_i means
      obtain rfl := Except.ok.inj averaged
      rw [CallSummary.zip_means] at pair
      obtain ⟨row, present, rfl⟩ := List.mem_map.mp pair
      have mean : row.average = .ok row.mean := by
        rw [CallSummary.average_eq, if_pos (List.all_eq_true.mp means row present)]
      exact CallSummary.toValue_holds inherited (calls row present)
        (CallSummary.average_holds inherited (calls row present) mean)
    · cases averaged
  · cases made

end Report

end TraceScope
