import Mathlib.Data.List.Forall2
import Mathlib.Data.List.Nodup
import TraceScope.Proofs.Composition
import TraceScope.Proofs.Numerals
import TraceScope.Segment.Document

/-!
# Segments and their documents

The documents of a segment: each field stands under its name, unless it has its default and is left
out, and integers may be written in digits. Every one of them is read as the segment.
-/

namespace TraceScope

open Value

/-- A field of an object: its name, how it is written in full, all that it may be written as, and
whether it may be left out. -/
structure Field where
  name : Text
  plain : Value
  WrittenAs : Value → Prop
  isOptional : Prop

/-- An integer is written as a number, or in digits if these are not too many. -/
inductive WritesInt (n : Int) : Value → Prop
  | number : WritesInt n (.int n)
  | digits (short : Integer.isWritable n = true) :
      WritesInt n (.text (Text.ofString (Integer.text n)))

namespace Field

variable {α : Type}

/-- A field that is written in one way only. -/
def exact (name : Text) (v : Value) (default? : Option Value) : Field where
  name
  plain := v
  WrittenAs := (· = v)
  isOptional := default? = some v

def integer (name : Text) (n : Int) (default? : Option Int) : Field where
  name
  plain := .int n
  WrittenAs := WritesInt n
  isOptional := default? = some n

/-- A list, which may be left out if it is empty. -/
def items (name : Text) (document : α → Value) (Writes : α → Value → Prop) (as : List α) :
    Field where
  name
  plain := .list (as.map document)
  WrittenAs v := ∃ vs, v = .list vs ∧ List.Forall₂ Writes as vs
  isOptional := as = []

/-- Among the members of an object, a field is written, or it is left out. -/
def Held (members : List (Text × Value)) (f : Field) : Prop :=
  (∃ w, (f.name, w) ∈ members ∧ f.WrittenAs w) ∨ f.isOptional ∧ f.name ∉ members.map (·.1)

/-- An object that holds the given fields, in any order and among whatever else. -/
def Object (fields : List Field) (v : Value) : Prop :=
  ∃ members, v = .object members ∧ (members.map (·.1)).Nodup ∧ ∀ f ∈ fields, f.Held members

def document (fields : List Field) : Value := .object (fields.map fun f => (f.name, f.plain))

end Field

/-! ### The documents of a segment -/

namespace Tag

def fields (t : Tag) : List Field :=
  [.exact "key" t.key none, .exact "value" t.value (some (.text ""))]

def document (t : Tag) : Value := Field.document t.fields

def Writes (t : Tag) : Value → Prop := Field.Object t.fields

end Tag

namespace Reference

def fields (r : Reference) : List Field :=
  [.integer "parentEndpointId" r.parentEndpointId (some 0),
    .integer "parentServiceInstanceId" r.parentInstanceId (some 0),
    .integer "networkAddressId" r.networkAddressId (some 0),
    .integer "parentSpanId" r.parentSpanId (some (-1)),
    .exact "parentTraceSegmentId" (.text r.parentSegmentId) (some (.text ""))]

def document (r : Reference) : Value := Field.document r.fields

def Writes (r : Reference) : Value → Prop := Field.Object r.fields

end Reference

namespace Span

def fields (s : Span) : List Field :=
  [.integer "spanId" s.id none,
    .integer "parentSpanId" s.parentId (some (-1)),
    .exact "spanType" (.text s.kind.name) none,
    .exact "spanLayer" (.text s.layer.name) (some (.text "Unknown")),
    .integer "startTime" s.startTime (some 0),
    .integer "endTime" s.endTime (some 0),
    .exact "isError" (.bool s.isError) (some (.bool false)),
    .integer "operationNameId" s.operationId (some 0),
    .integer "peerId" s.peerId (some 0),
    .integer "componentId" s.componentId (some 0),
    .items "tags" Tag.document Tag.Writes s.tags,
    .items "refs" Reference.document Reference.Writes s.references]

def document (s : Span) : Value := Field.document s.fields

def Writes (s : Span) : Value → Prop := Field.Object s.fields

end Span

namespace Segment

def traceIdFields (parts : List Value) : List Field :=
  [.exact "idParts" (.list parts) (some (.list []))]

def fields (s : Segment) : List Field :=
  [.exact "traceSegmentId" (.text s.id) none,
    .integer "serviceId" s.serviceId none,
    .integer "serviceInstanceId" s.instanceId none,
    .items "globalTraceIds" (fun parts => Field.document (traceIdFields parts))
      (fun parts => Field.Object (traceIdFields parts)) s.traceIds,
    .items "spans" Span.document Span.Writes s.spans]

def document (s : Segment) : Value := Field.document s.fields

/-- All documents that write a segment. -/
def Writes (s : Segment) : Value → Prop := Field.Object s.fields

end Segment

/-! ### Reading a field -/

variable {α : Type} {fields : List Field} {f : Field} {members : List (Text × Value)}
  {name : Text} {v w d : Value} {n k : Int} {as : List α}

theorem memberOf_eq_some (distinct : (members.map (·.1)).Nodup) (member : (name, w) ∈ members) :
    memberOf name members = some w := by
  unfold memberOf
  cases found : members.find? fun m => m.1 = name with
  | none => simpa using List.find?_eq_none.mp found (name, w) member
  | some m =>
    have same : m.1 = name := by simpa using List.find?_some found
    have only := List.inj_on_of_nodup_map distinct (List.mem_of_find?_eq_some found) member same
    rw [only]
    rfl

theorem memberOf_eq_none (absent : name ∉ members.map (·.1)) : memberOf name members = none := by
  unfold memberOf
  rw [List.find?_eq_none.mpr]
  · rfl
  · intro m member same
    exact absent (List.mem_map.mpr ⟨m, member, by simpa using same⟩)

/-- What a reader finds of a field. -/
def Field.Found (v : Value) (f : Field) : Prop :=
  (∃ w, v.member? f.name = .ok (some w) ∧ f.WrittenAs w) ∨
    f.isOptional ∧ v.member? f.name = .ok none

theorem Field.Object.found (written : Field.Object fields v) : ∀ f ∈ fields, f.Found v := by
  obtain ⟨members, rfl, distinct, held⟩ := written
  intro f member
  rcases held f member with ⟨w, there, stands⟩ | ⟨may, absent⟩
  · exact .inl ⟨w, congrArg Except.ok (memberOf_eq_some distinct there), stands⟩
  · exact .inr ⟨may, congrArg Except.ok (memberOf_eq_none absent)⟩

theorem member_eq_ok (found : v.member? name = .ok (some w)) : v.member name = .ok w := by
  cases v with
  | object members =>
    have known := Except.ok.inj found
    simp only [Value.member, known]
  | _ => cases found

theorem memberD_eq_ok {o : Option Value} (found : v.member? name = .ok o) :
    v.memberD name d = .ok (o.getD d) := by
  rw [Value.memberD, found]
  rfl

namespace Field.Found

theorem exact_member (found : (Field.exact name w none).Found v) : v.member name = .ok w := by
  rcases found with ⟨_, there, rfl⟩ | ⟨may, _⟩
  · exact member_eq_ok there
  · cases may

theorem exact_memberD (found : (Field.exact name w (some d)).Found v) :
    v.memberD name d = .ok w := by
  rcases found with ⟨_, there, rfl⟩ | ⟨may, absent⟩
  · exact memberD_eq_ok there
  · cases may
    exact memberD_eq_ok absent

theorem toInt_written (written : WritesInt n w) : w.toInt = .ok n := by
  cases written with
  | number => rfl
  | digits short => rw [Value.toInt, Integer.read_text short]; rfl

theorem integer_member (found : (Field.integer name n none).Found v) :
    ∃ w, v.member name = .ok w ∧ w.toInt = .ok n := by
  rcases found with ⟨w, there, written⟩ | ⟨may, _⟩
  · exact ⟨w, member_eq_ok there, toInt_written written⟩
  · cases may

theorem integer_intD (found : (Field.integer name n (some k)).Found v) :
    v.intD name k = .ok n := by
  rcases found with ⟨w, there, written⟩ | ⟨may, absent⟩
  · have given : v.memberD name (.int k) = .ok w := memberD_eq_ok there
    rw [Value.intD, given]
    exact toInt_written written
  · obtain rfl : k = n := Option.some.inj may
    have given : v.memberD name (.int k) = .ok (.int k) := memberD_eq_ok absent
    rw [Value.intD, given]
    rfl

theorem mapM_written {read : Value → Except Fault α} {Writes : α → Value → Prop} {vs : List Value}
    (reads : ∀ a v, Writes a v → read v = .ok a) (written : List.Forall₂ Writes as vs) :
    vs.mapM read = .ok as := by
  induction written with
  | nil => rfl
  | cons first _ ih =>
    rw [List.mapM_cons, reads _ _ first, ih]
    rfl

theorem items_listD {read : Value → Except Fault α} {document : α → Value}
    {Writes : α → Value → Prop} (reads : ∀ a v, Writes a v → read v = .ok a)
    (found : (Field.items name document Writes as).Found v) : v.listD read name = .ok as := by
  rcases found with ⟨_, there, vs, rfl, written⟩ | ⟨rfl, absent⟩
  · have given : v.memberD name (.list []) = .ok (.list vs) := memberD_eq_ok there
    rw [Value.listD, given]
    exact mapM_written reads written
  · have given : v.memberD name (.list []) = .ok (.list []) := memberD_eq_ok absent
    rw [Value.listD, given]
    rfl

end Field.Found

open Field.Found

/-! ### Reading a segment -/

theorem Tag.ofValue_written (t : Tag) (v : Value) (written : t.Writes v) : ofValue v = .ok t := by
  have found := written.found
  simp only [fields, List.forall_mem_cons] at found
  obtain ⟨key, value, _⟩ := found
  rw [ofValue, exact_member key, exact_memberD value]
  rfl

theorem Reference.ofValue_written (stack : Stack) (r : Reference) (v : Value)
    (written : r.Writes v) : ofValue stack v = .ok r := by
  have found := written.found
  simp only [fields, List.forall_mem_cons] at found
  obtain ⟨endpoint, inst, address, parent, segment, _⟩ := found
  rw [ofValue, noId, integer_intD endpoint, integer_intD inst, integer_intD address,
    integer_intD parent, exact_memberD segment]
  simp only [bind, Except.bind, told_text]
  rfl

theorem SpanKind.choice_name (stack : Stack) (k : SpanKind) :
    (Value.text k.name).choice stack ofName? "SpanType" = .ok k := by
  cases k <;> rfl

theorem SpanLayer.choice_name (stack : Stack) (l : SpanLayer) :
    (Value.text l.name).choice stack ofName? "SpanLayer" = .ok l := by
  cases l <;> rfl

theorem Span.ofValue_written (stack : Stack) (s : Span) (v : Value) (written : s.Writes v) :
    ofValue stack v = .ok s := by
  have found := written.found
  simp only [fields, List.forall_mem_cons] at found
  obtain ⟨id, parent, kind, layer, start, stop, isError, operation, peer, component, tags, refs,
    _⟩ := found
  obtain ⟨idValue, id, idRead⟩ := integer_member id
  have read : (readKind stack v).mapError (kindFault stack v) = .ok (s.kind, s.layer) := by
    rw [readKind, exact_member kind, SpanLayer.name, exact_memberD layer]
    simp only [bind, Except.bind, SpanKind.choice_name, SpanLayer.choice_name]
    rfl
  rw [ofValue, read, id, noId, integer_intD parent, integer_intD start, integer_intD stop,
    exact_memberD isError, integer_intD operation, integer_intD peer, integer_intD component,
    items_listD Tag.ofValue_written tags, items_listD (Reference.ofValue_written stack) refs]
  simp only [bind, Except.bind, idRead]
  rfl

theorem Segment.readTraceId_written (parts : List Value) (v : Value)
    (written : Field.Object (traceIdFields parts) v) : readTraceId v = .ok parts := by
  have found := written.found
  simp only [traceIdFields, List.forall_mem_cons] at found
  rw [readTraceId, exact_memberD found.1]
  rfl

theorem Segment.ofValue_written (stack : Stack) (s : Segment) (v : Value) (written : s.Writes v) :
    ofValue stack v = .ok s := by
  have found := written.found
  simp only [fields, List.forall_mem_cons] at found
  obtain ⟨id, service, inst, traceIds, spans, _⟩ := found
  obtain ⟨serviceValue, service, serviceRead⟩ := integer_member service
  obtain ⟨instValue, inst, instRead⟩ := integer_member inst
  rw [ofValue, readMembers, exact_member id, service, inst,
    items_listD readTraceId_written traceIds, items_listD (Span.ofValue_written stack) spans]
  simp only [bind, Except.bind, told_text, serviceRead, instRead]
  rfl

/-! ### Writing a segment -/

theorem Field.Held.of_memberOf (known : memberOf f.name members = some w)
    (written : f.WrittenAs w) : f.Held members := by
  obtain ⟨m, found, rfl⟩ := Option.map_eq_some_iff.mp known
  have same : m.1 = f.name := by simpa using List.find?_some found
  exact .inl ⟨m.2, same ▸ List.mem_of_find?_eq_some found, written⟩

theorem Field.object_document (distinct : (fields.map (·.name)).Nodup)
    (plain : ∀ f ∈ fields, f.WrittenAs f.plain) : Object fields (document fields) := by
  refine ⟨_, rfl, ?_, ?_⟩
  · rw [List.map_map]
    exact distinct
  · intro f member
    exact .inl ⟨f.plain, List.mem_map.mpr ⟨f, member, rfl⟩, plain f member⟩

theorem Field.items_plain {document : α → Value} {Writes : α → Value → Prop}
    (each : ∀ a, Writes a (document a)) :
    (items name document Writes as).WrittenAs (.list (as.map document)) :=
  ⟨_, rfl, List.forall₂_map_right_iff.mpr (List.forall₂_same.mpr fun a _ => each a)⟩

theorem Tag.writes_document (t : Tag) : t.Writes t.document := by
  have names : t.fields.map (·.name) = ["key", "value"] := rfl
  apply Field.object_document
  · rw [names]
    decide
  · simp only [fields, List.forall_mem_cons]
    exact ⟨rfl, rfl, nofun⟩

theorem Reference.writes_document (r : Reference) : r.Writes r.document := by
  have names : r.fields.map (·.name) = ["parentEndpointId", "parentServiceInstanceId",
    "networkAddressId", "parentSpanId", "parentTraceSegmentId"] := rfl
  apply Field.object_document
  · rw [names]
    decide
  · simp only [fields, List.forall_mem_cons]
    exact ⟨.number, .number, .number, .number, rfl, nofun⟩

theorem Span.writes_document (s : Span) : s.Writes s.document := by
  have names : s.fields.map (·.name) = ["spanId", "parentSpanId", "spanType", "spanLayer",
    "startTime", "endTime", "isError", "operationNameId", "peerId", "componentId", "tags",
    "refs"] := rfl
  apply Field.object_document
  · rw [names]
    decide
  · simp only [fields, List.forall_mem_cons]
    exact ⟨.number, .number, rfl, rfl, .number, .number, rfl, .number, .number, .number,
      Field.items_plain Tag.writes_document, Field.items_plain Reference.writes_document, nofun⟩

theorem Segment.writes_document (s : Segment) : s.Writes s.document := by
  have names : s.fields.map (·.name) =
    ["traceSegmentId", "serviceId", "serviceInstanceId", "globalTraceIds", "spans"] := rfl
  have traceId : ∀ parts,
      Field.Object (traceIdFields parts) (Field.document (traceIdFields parts)) := by
    intro parts
    apply Field.object_document
    · exact List.nodup_singleton _
    · simp only [traceIdFields, List.forall_mem_cons]
      exact ⟨rfl, nofun⟩
  apply Field.object_document
  · rw [names]
    decide
  · simp only [fields, List.forall_mem_cons]
    exact ⟨rfl, .number, .number, Field.items_plain traceId,
      Field.items_plain Span.writes_document, nofun⟩

/-- A segment is read back from its document, and from every other document that writes it: with its
members in another order, with defaults left out, or with integers in digits. -/
theorem Segment.read_document (stack : Stack) (s : Segment) :
    ofValue stack s.document = .ok s ∧ s.Writes s.document ∧
      ∀ v, s.Writes v → ofValue stack v = .ok s :=
  ⟨s.ofValue_written stack _ s.writes_document, s.writes_document, s.ofValue_written stack⟩

def called : Span where
  id := 0
  parentId := -1
  kind := .entry
  layer := .http
  startTime := 1
  endTime := 9
  isError := false
  operationId := 5
  peerId := 0
  componentId := 0
  tags := [{ key := .text "url", value := .text "" }]
  references := [{ parentEndpointId := 8, parentInstanceId := 0, networkAddressId := 4,
                   parentSpanId := -7, parentSegmentId := "s0" }]

def calledOnce : Segment where
  id := "s1"
  serviceId := 2
  instanceId := -3
  traceIds := [[.int 1, .text "x"], []]
  spans := [called]

/-- A span without its defaults, with integers in digits and members in no particular order. -/
def calledInShort : Value :=
  .object [
    ("startTime", .text "1"), ("endTime", .text "9"), ("spanType", .text "Entry"),
    ("spanLayer", .text "Http"), ("spanId", .text "0"), ("operationNameId", .text "5"),
    ("refs", .list [.object [
      ("parentTraceSegmentId", .text "s0"), ("parentSpanId", .text "-7"),
      ("networkAddressId", .int 4), ("parentEndpointId", .int 8)]]),
    ("tags", .list [.object [("key", .text "url")]])]

def calledOnceInShort : Value :=
  .object [
    ("spans", .list [calledInShort]),
    ("globalTraceIds", .list [.object [("idParts", .list [.int 1, .text "x"])], .object []]),
    ("traceSegmentId", .text "s1"), ("serviceId", .int 2), ("serviceInstanceId", .int (-3))]

theorem called_writes : called.Writes calledInShort := by
  have digits : ∀ (n : Int) (t : Text), n.natAbs < 10 → Text.ofString (Integer.text n) = t →
      WritesInt n (.text t) := by
    rintro n _ small rfl
    exact .digits (Integer.isWritable_of_lt small)
  refine ⟨_, rfl, by decide, ?_⟩
  simp only [Span.fields, List.forall_mem_cons]
  refine ⟨.of_memberOf rfl (digits 0 "0" (by decide) rfl), .inr ⟨rfl, by decide⟩,
    .of_memberOf rfl rfl, .of_memberOf rfl rfl, .of_memberOf rfl (digits 1 "1" (by decide) rfl),
    .of_memberOf rfl (digits 9 "9" (by decide) rfl), .inr ⟨rfl, by decide⟩,
    .of_memberOf rfl (digits 5 "5" (by decide) rfl), .inr ⟨rfl, by decide⟩, .inr ⟨rfl, by decide⟩,
    .of_memberOf rfl ⟨_, rfl, .cons ?tag .nil⟩, .of_memberOf rfl ⟨_, rfl, .cons ?reference .nil⟩,
    nofun⟩
  case tag =>
    refine ⟨_, rfl, by decide, ?_⟩
    simp only [Tag.fields, List.forall_mem_cons]
    exact ⟨.of_memberOf rfl rfl, .inr ⟨rfl, by decide⟩, nofun⟩
  case reference =>
    refine ⟨_, rfl, by decide, ?_⟩
    simp only [Reference.fields, List.forall_mem_cons]
    exact ⟨.of_memberOf rfl .number, .inr ⟨rfl, by decide⟩, .of_memberOf rfl .number,
      .of_memberOf rfl (digits (-7) "-7" (by decide) rfl), .of_memberOf rfl rfl, nofun⟩

theorem calledOnce_read :
    calledOnce.Writes calledOnceInShort ∧
      Segment.ofValue {} calledOnceInShort = .ok calledOnce := by
  have writes : calledOnce.Writes calledOnceInShort := by
    refine ⟨_, rfl, by decide, ?_⟩
    simp only [Segment.fields, List.forall_mem_cons]
    refine ⟨.of_memberOf rfl rfl, .of_memberOf rfl .number, .of_memberOf rfl .number,
      .of_memberOf rfl ⟨_, rfl, .cons ?given (.cons ?empty .nil)⟩,
      .of_memberOf rfl ⟨_, rfl, .cons called_writes .nil⟩, nofun⟩
    case given =>
      exact ⟨_, rfl, by decide, List.forall_mem_singleton.mpr (.of_memberOf rfl rfl)⟩
    case empty =>
      exact ⟨_, rfl, by decide, List.forall_mem_singleton.mpr (.inr ⟨rfl, by decide⟩)⟩
  exact ⟨writes, (Segment.read_document {} calledOnce).2.2 calledOnceInShort writes⟩

end TraceScope
