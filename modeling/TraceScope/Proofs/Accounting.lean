import TraceScope.Proofs.Independence
import TraceScope.Proofs.Tuning

/-!
# Accounts of the records

Every incoming call shows in each scope of the callee once, and every call of either direction in
both relations. Accesses to databases are outgoing calls, and slow statements are some of these
accesses. So the numbers of records balance after any sequence of segments, whichever of them fail.
-/

namespace TraceScope

/-! ### Numbers of records -/

def Facet.number (f : Facet) (records : List Record) : Nat :=
  records.countP fun r => r.scope = .facet f

/-- Whether a record tells of a call between two services as seen from this end. -/
def Record.relates (point : DetectPoint) : Record → Bool
  | .leg .serviceRelation e _ => e.detectPoint = point
  | _ => false

/-- The database that a record shows, and how long it took. -/
def Record.access (r : Record) : Option Value × Option Value :=
  (Value.memberOf "database_service_id" r.members, Value.memberOf "latency" r.members)

theorem Record.access_leg (e : Edge) (b : Value) :
    (Record.leg .databaseAccess e b).access = (some e.dest.serviceId, some (.int e.latency)) := rfl

theorem Record.access_slow (s : SlowStatement) :
    (Record.slow s).access = (some s.serviceId, some (.int s.latency)) := rfl

/-- The identities between the numbers of records. -/
structure Balanced (records : List Record) : Prop where
  callee : ∀ f ∈ [Facet.service, .serviceInstance, .endpoint],
    f.number records = Facet.number .all records
  incoming : records.countP (Record.relates .server) = Facet.number .all records
  relations : Facet.number .serviceRelation records =
    Facet.number .serviceInstanceRelation records
  endpoints : Facet.number .endpointRelation records ≤ Facet.number .all records
  accesses : Facet.number .databaseAccess records ≤ records.countP (Record.relates .client)

namespace Balanced

variable {α : Type} {rs more : List Record}

theorem append (h : Balanced rs) (h' : Balanced more) : Balanced (rs ++ more) := by
  obtain ⟨callee, incoming, relations, endpoints, accesses⟩ := h
  obtain ⟨callee', incoming', relations', endpoints', accesses'⟩ := h'
  simp only [Facet.number] at callee incoming relations endpoints accesses
  simp only [Facet.number] at callee' incoming' relations' endpoints' accesses'
  refine ⟨?_, ?_, ?_, ?_, ?_⟩
  · intro f member
    simp only [Facet.number, List.countP_append, callee f member, callee' f member]
  · simp only [Facet.number, List.countP_append, incoming, incoming']
  · simp only [Facet.number, List.countP_append, relations, relations']
  · simp only [Facet.number, List.countP_append]
    omega
  · simp only [Facet.number, List.countP_append]
    omega

theorem uncounted (none : ∀ r ∈ rs, r.scope = .slowStatement) : Balanced rs := by
  have unnumbered : ∀ f : Facet, f.number rs = 0 := by
    intro f
    refine List.countP_eq_zero.mpr fun r member => ?_
    simp [none r member]
  have unrelated : ∀ point, rs.countP (Record.relates point) = 0 := by
    intro point
    refine List.countP_eq_zero.mpr fun r member => ?_
    have slow := none r member
    cases r with
    | leg f e b => cases slow
    | slow s => simp [Record.relates]
  constructor <;> simp [unnumbered, unrelated]

theorem nil : Balanced [] := uncounted fun _ member => absurd member List.not_mem_nil

theorem flatMap {items : List α} {g : α → List Record} (each : ∀ a ∈ items, Balanced (g a)) :
    Balanced (items.flatMap g) := by
  induction items with
  | nil => exact nil
  | cons a rest ih =>
    obtain ⟨here, later⟩ := List.forall_mem_cons.mp each
    exact here.append (ih later)

theorem entry {e : Edge} (b : Value) (server : e.detectPoint = .server) :
    Balanced (e.entryFacets.map fun f => .leg f e b) := by
  unfold Edge.entryFacets
  cases e.endpointsKnown with
  | true => constructor <;> simp [Facet.number, Record.relates, server]
  | false => constructor <;> simp [Facet.number, Record.relates, server]

theorem exit {e : Edge} (b : Value) (client : e.detectPoint = .client) :
    Balanced (e.exitFacets.map fun f => .leg f e b) := by
  unfold Edge.exitFacets
  by_cases access : e.requestType = .database
  · constructor <;> simp [Facet.number, Record.relates, client, access]
  · constructor <;> simp [Facet.number, Record.relates, client, access]

end Balanced

namespace Segment

variable {inv : Inventory} {config : Config} {segment : Segment}

theorem exitRecords_eq (inv : Inventory) (s : Segment) (span : Span) :
    s.exitRecords inv span = (s.exitLeg inv s.nearEndpoint span).exitFacets.map fun f =>
      .leg f (s.exitLeg inv s.nearEndpoint span) (.int s.minute) := by
  have access : (s.exitLeg inv s.nearEndpoint span).requestType = .database ↔
      span.layer = .database := RequestType.ofLayer_eq_database
  simp only [exitRecords, Edge.exitFacets, access]

theorem records_balanced : Balanced (segment.records inv config) := by
  rw [records_eq, callRecords]
  refine .append (.append (.flatMap fun span _ => ?_) (.flatMap fun span _ => ?_)) (.uncounted ?_)
  · refine .flatMap fun leg member => ?_
    obtain ⟨origin, _, rfl⟩ := List.mem_map.mp member
    exact .entry _ rfl
  · rw [exitRecords_eq]
    exact .exit _ rfl
  · intro r member
    obtain ⟨span, _, rfl⟩ := List.mem_map.mp member
    rfl

/-! ### Accesses to databases -/

theorem records_accesses :
    (segment.records inv config).filter (fun r => r.scope = .facet .databaseAccess) =
      ((outgoing segment.spans).filter fun x => x.layer = .database).map fun span =>
        .leg .databaseAccess (segment.exitLeg inv segment.nearEndpoint span)
          (.int segment.minute) := by
  -- Neither entries nor slow statements are accesses, so what is left comes from the exits.
  have entries : ((incoming segment.spans).flatMap (segment.entryRecords inv)).filter
      (fun r => r.scope = .facet .databaseAccess) = [] := by
    refine List.filter_eq_nil_iff.mpr fun r member => ?_
    obtain ⟨span, _, made⟩ := List.mem_flatMap.mp member
    obtain ⟨leg, _, made⟩ := List.mem_flatMap.mp made
    obtain ⟨f, listed, rfl⟩ := List.mem_map.mp made
    have other : f ≠ .databaseAccess := by
      rintro rfl
      simp at listed
    simpa using other
  have exits : ∀ spans : List Span, (spans.flatMap (segment.exitRecords inv)).filter
      (fun r => r.scope = .facet .databaseAccess) =
        (spans.filter fun x => x.layer = .database).map fun span =>
          .leg .databaseAccess (segment.exitLeg inv segment.nearEndpoint span)
            (.int segment.minute) := by
    intro spans
    induction spans with
    | nil => rfl
    | cons span rest ih =>
      rw [List.flatMap_cons, List.filter_append, ih]
      by_cases database : span.layer = .database
      · simp [exitRecords, database]
      · simp [exitRecords, database]
  have slow : ((slowCalls config segment.spans).map fun span =>
      Record.slow (segment.slowStatement inv config span)).filter
        (fun r => r.scope = .facet .databaseAccess) = [] := by
    refine List.filter_eq_nil_iff.mpr fun r member => ?_
    obtain ⟨span, _, rfl⟩ := List.mem_map.mp member
    simp
  rw [records_eq, callRecords, List.filter_append, List.filter_append, entries, exits, slow,
    List.nil_append, List.append_nil]

theorem records_statements :
    (segment.records inv config).filter (fun r => r.scope = .slowStatement) =
      (slowCalls config segment.spans).map fun span =>
        .slow (segment.slowStatement inv config span) := by
  have calls : (segment.callRecords inv).filter (fun r => r.scope = .slowStatement) = [] := by
    refine List.filter_eq_nil_iff.mpr fun r member => ?_
    obtain ⟨f, e, b, rfl⟩ := callRecords_leg member
    simp
  have slow : ((slowCalls config segment.spans).map fun span =>
      Record.slow (segment.slowStatement inv config span)).filter
        (fun r => r.scope = .slowStatement) = (slowCalls config segment.spans).map fun span =>
          .slow (segment.slowStatement inv config span) := by
    refine List.filter_eq_self.mpr fun r member => ?_
    obtain ⟨span, _, rfl⟩ := List.mem_map.mp member
    simp
  rw [records_eq, List.filter_append, calls, slow, List.nil_append]

theorem slow_of_accesses :
    (((segment.records inv config).filter fun r => r.scope = .slowStatement).map
        Record.access).Sublist
      (((segment.records inv config).filter fun r => r.scope = .facet .databaseAccess).map
        Record.access) := by
  have fewer : (slowCalls config segment.spans).Sublist
      ((outgoing segment.spans).filter fun x => x.layer = .database) := by
    refine List.monotone_filter_right _ fun span slow => ?_
    exact decide_eq_true (of_decide_eq_true slow).1
  have same : (Record.access ∘ fun span => .slow (segment.slowStatement inv config span)) =
      Record.access ∘ fun span => .leg .databaseAccess
        (segment.exitLeg inv segment.nearEndpoint span) (.int segment.minute) := by
    funext span
    simp only [Function.comp, Record.access_slow, Record.access_leg]
    rfl
  rw [records_statements, records_accesses, List.map_map, List.map_map, same]
  exact fewer.map _

theorem slow_bounded {s : SlowStatement} (made : config.Made)
    (member : .slow s ∈ segment.records inv config) :
    1 ≤ s.latency ∧ ∀ t, s.statement = .text t → config.limit.Admits t.length := by
  obtain ⟨span, call, rfl⟩ := slow_cases member
  obtain ⟨_, slow⟩ := of_decide_eq_true (List.mem_filter.mp call).2
  refine ⟨?_, ?_⟩
  · obtain ⟨t, _, exceeded⟩ := List.any_eq_true.mp slow
    obtain ⟨_, longer⟩ := Bool.and_eq_true_iff.mp exceeded
    have longer := of_decide_eq_true longer
    have low := made.millis t.value
    change 1 ≤ span.latency
    omega
  · intro t text
    change span.statement config.limit = .text t at text
    unfold Span.statement at text
    cases last : (span.tags.filter (·.isNamed Statement.statementKey)).getLast? with
    | none =>
      rw [last] at text
      cases text
    | some tag =>
      rw [last] at text
      exact LengthLimit.admits_of_not_exceededBy (LengthLimit.shorten_fits made.limit text)

end Segment

namespace Analyzer

variable {inv : Inventory} {config : Config}

/-- Whatever segments are processed and whichever fail, the numbers of records balance. The slow
statements of a segment are some of its accesses to databases, in order. None of the thresholds is
negative; so no statement is slow that took no time, and none is longer than the limit. -/
theorem processEach_balanced (made : config.Made) (segments : List Segment) :
    let records := (processEach segments (fresh inv config)).1.records
    records = segments.flatMap (output inv config) ∧
      Balanced records ∧
      (∀ segment ∈ segments,
        (((output inv config segment).filter fun r => r.scope = .slowStatement).map
            Record.access).Sublist
          (((output inv config segment).filter fun r => r.scope = .facet .databaseAccess).map
            Record.access)) ∧
      (∀ v n, config.thresholds.forType v = .ok n → 0 ≤ n) ∧
      ∀ s, .slow s ∈ records → 1 ≤ s.latency ∧
        ∀ t, s.statement = .text t → config.limit.Admits t.length := by
  have free : (fresh inv config).Unrefused := fun _ => rfl
  have records : (processEach segments (fresh inv config)).1.records =
      segments.flatMap (output inv config) := by
    obtain ⟨records, _, _⟩ := processEach_unrefused segments free
    exact records
  dsimp only
  refine ⟨records, ?_, ?_, ?_, ?_⟩
  · rw [records]
    refine .flatMap fun segment _ => ?_
    rw [output_eq]
    split
    · exact Segment.records_balanced
    · exact .nil
  · intro segment _
    rw [output_eq]
    split
    · exact Segment.slow_of_accesses
    · exact List.Sublist.refl _
  · intro v n known
    rw [Statement.forType_done known]
    exact made.millis v
  · intro s member
    rw [records] at member
    obtain ⟨segment, _, member⟩ := List.mem_flatMap.mp member
    rw [output_eq] at member
    split at member
    · exact Segment.slow_bounded made member
    · cases member

theorem processEach_impatient :
    impatient.config.Made ∧
      let records := (processEach [mistyped, slowQuery, mistyped, slowQuery]
        (fresh impatient.inventory impatient.config)).1.records
      Balanced records ∧ Facet.number .all records = 2 ∧
        ∀ s, .slow s ∈ records → ∀ t, s.statement = .text t → t.length ≤ 3 := by
  obtain ⟨records, balanced, _, _, slow⟩ :=
    processEach_balanced impatient_made [mistyped, slowQuery, mistyped, slowQuery]
  refine ⟨impatient_made, balanced, ?_, ?_⟩
  · rw [records]
    decide +kernel
  · intro s member t text
    have short : (t.length : Int) ≤ 3 := (slow s member).2 t text
    exact_mod_cast short

end Analyzer

end TraceScope
