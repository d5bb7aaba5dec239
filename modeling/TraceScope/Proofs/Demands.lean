import TraceScope.Proofs.Composition
import TraceScope.Segment.Document

/-!
# What a segment document is asked for

To read a document is to ask one value after the other for something: to have a member, to hold
items, to stand for a number. The first value that cannot answer decides what becomes of the
document. Nearly always the document is malformed then; which faults pass through instead is told
from the demand alone.
-/

namespace TraceScope

namespace Value

def isObject : Value → Bool
  | object _ => true
  | _ => false

/-- Whether a value has items: those of a list, the letters of a text, the names of an object. -/
def isIterable : Value → Bool
  | list _ | text _ | object _ => true
  | _ => false

/-- Whether a value stands for an integer. -/
def isNumeric : Value → Bool
  | int _ | bool _ | double (.finite ..) => true
  | decimal x => !x.isHuge
  | text t => (Integer.read t).toOption.isSome
  | _ => false

def given (v : Value) (name : Text) : Value := (v.member name).toOption.getD .null

def givenD (v : Value) (name : Text) (default : Value) : Value :=
  (v.memberD name default).toOption.getD default

def itemsOf (v : Value) : List Value := v.elements.toOption.getD []

theorem given_eq {v w : Value} {name : Text} (found : v.member name = .ok w) :
    v.given name = w := by
  rw [given, found]
  rfl

theorem givenD_eq {v w default : Value} {name : Text} (found : v.memberD name default = .ok w) :
    v.givenD name default = w := by
  rw [givenD, found]
  rfl

theorem itemsOf_eq {v : Value} {items : List Value} (opened : v.elements = .ok items) :
    v.itemsOf = items := by
  rw [itemsOf, opened]
  rfl

end Value

/-- What is asked of a value: to have a member, to have members at all, to have items, to stand for
an integer, to be told for some use, or to be one of some names. What is not one of the names is
blamed on a span, whose identifier is told then. -/
inductive Demand
  | has (v : Value) (name : Text)
  | opened (v : Value)
  | iterable (v : Value)
  | numeric (v : Value)
  | tellable (use : Telling) (v : Value)
  | oneOf (names : List String) (v spanId : Value)

namespace Demand

def isMet (stack : Stack) : Demand → Bool
  | has (.object members) name => (Value.memberOf name members).isSome
  | has _ _ => false
  | opened v => v.isObject
  | iterable v => v.isIterable
  | numeric v => v.isNumeric
  | tellable use v => (v.tellingFault? stack use).isNone
  | oneOf names (.text t) _ => names.any fun name => (name : Text) = t
  | oneOf _ _ _ => false

/-- The kind of fault that passes through when a demand is not met, if it does not make the document
malformed. -/
def escape? (stack : Stack) : Demand → Option Fault.Kind
  | opened _ => some .noAttribute
  | numeric (.double (.infinite _)) => some .overflow
  | numeric (.decimal _) => some .memory
  | tellable use v => if stack.canTell use v then none else some .recursion
  | oneOf _ v spanId =>
    if stack.canTell .choice v && stack.canTell .spanId spanId then none else some .recursion
  | _ => none

def Blames (stack : Stack) (d : Demand) (f : Fault) : Prop :=
  match d.escape? stack with
  | some kind => f.kind = kind
  | none => f.kind = .format ∨ f.isValueFault = true

def firstUnmet (stack : Stack) (ds : List Demand) : Option Demand :=
  ds.find? fun d => !d.isMet stack

/-! ### The demands of a document -/

def required (v : Value) (name : Text) (ask : Value → Demand) : List Demand :=
  [has v name, ask (v.given name)]

def optional (v : Value) (name : Text) (default : Value) (ask : Value → Demand) : List Demand :=
  [opened v, ask (v.givenD name default)]

def integer (v : Value) (name : Text) (default : Int) : List Demand :=
  optional v name (.int default) numeric

def listed (v : Value) (name : Text) (ofItem : Value → List Demand) : List Demand :=
  let items := v.givenD name (.list [])
  opened v :: iterable items :: items.itemsOf.flatMap ofItem

def ofTag (v : Value) : List Demand := [has v "key", opened v]

def ofReference (v : Value) : List Demand :=
  integer v "parentEndpointId" noId ++ (integer v "parentServiceInstanceId" noId ++
    (integer v "networkAddressId" noId ++ (integer v "parentSpanId" (-1) ++
      optional v "parentTraceSegmentId" (.text "") (tellable .parentSegmentId))))

def ofKind (v : Value) : List Demand :=
  let spanId := v.givenD "spanId" .null
  required v "spanType" (oneOf ["Entry", "Exit", "Local"] · spanId) ++
    optional v "spanLayer" (.text "Unknown")
      (oneOf ["Unknown", "Database", "RPCFramework", "Http", "MQ", "Cache"] · spanId)

/-- The demands of a span: its kind and layer first, then its other members in order. -/
def ofSpan (v : Value) : List Demand :=
  ofKind v ++ (required v "spanId" numeric ++ (integer v "parentSpanId" (-1) ++
    (integer v "startTime" 0 ++ (integer v "endTime" 0 ++ ([opened v] ++
      (integer v "operationNameId" noId ++ (integer v "peerId" noId ++
        (integer v "componentId" noId ++ (listed v "tags" ofTag ++
          listed v "refs" ofReference)))))))))

def ofTraceId (v : Value) : List Demand := [opened v, iterable (v.givenD "idParts" (.list []))]

/-- The demands of a segment in the order of reading. -/
def ofSegment (v : Value) : List Demand :=
  required v "traceSegmentId" (tellable .segmentId) ++ (required v "serviceId" numeric ++
    (required v "serviceInstanceId" numeric ++
      (listed v "globalTraceIds" ofTraceId ++ listed v "spans" ofSpan)))

/-! ### Answers to demands -/

/-- A computation answers some demands: it succeeds if all are met, and fails with what the first
unmet one leads to otherwise. -/
def Answers {α : Type} (stack : Stack) (ds : List Demand) (x : Except Fault α) : Prop :=
  match firstUnmet stack ds with
  | none => ∃ a, x = .ok a
  | some d => ∃ f, x = .error f ∧ d.Blames stack f

variable {α β : Type} {stack : Stack} {use : Telling} {d : Demand} {ds es : List Demand}
  {x : Except Fault α} {v w : Value} {name : Text} {f : Fault}

theorem answers_met (met : d.isMet stack = true) (done : ∃ a, x = .ok a) : Answers stack [d] x := by
  have none : firstUnmet stack [d] = none := by simp [firstUnmet, met]
  rw [Answers, none]
  exact done

theorem answers_unmet (unmet : d.isMet stack = false) (failed : x = .error f)
    (blamed : d.Blames stack f) : Answers stack [d] x := by
  have first : firstUnmet stack [d] = some d := by simp [firstUnmet, unmet]
  rw [Answers, first]
  exact ⟨f, failed, blamed⟩

theorem answers_pure (a : α) : Answers stack [] (pure a : Except Fault α) := ⟨a, rfl⟩

theorem answers_bind {next : α → Except Fault β} (first : Answers stack ds x)
    (later : ∀ a, x = .ok a → Answers stack es (next a)) :
    Answers stack (ds ++ es) (x >>= next) := by
  unfold Answers firstUnmet at *
  rw [List.find?_append]
  cases unmet : ds.find? fun d => !d.isMet stack with
  | none =>
    rw [unmet] at first
    obtain ⟨a, rfl⟩ := first
    exact later a rfl
  | some d =>
    rw [unmet] at first
    obtain ⟨f, rfl, blamed⟩ := first
    exact ⟨f, rfl, blamed⟩

theorem answers_mapM {read : α → Except Fault β} {ofItem : α → List Demand}
    (single : ∀ a, Answers stack (ofItem a) (read a)) (items : List α) :
    Answers stack (items.flatMap ofItem) (items.mapM read) := by
  induction items with
  | nil => exact answers_pure []
  | cons a rest ih =>
    rw [List.flatMap_cons, List.mapM_cons]
    refine answers_bind (single a) fun b _ => ?_
    rw [← List.append_nil (rest.flatMap ofItem)]
    exact answers_bind ih fun bs _ => answers_pure _

theorem answers_cons {next : α → Except Fault β} (first : Answers stack [d] x)
    (later : ∀ a, x = .ok a → Answers stack es (next a)) : Answers stack (d :: es) (x >>= next) :=
  answers_bind first later

theorem answers_map {g : α → β} (first : Answers stack ds x) :
    Answers stack ds (x >>= fun a => pure (g a)) := by
  rw [← List.append_nil ds]
  exact answers_bind first fun a _ => answers_pure (g a)

/-! ### Values that answer -/

theorem member_answers (v : Value) (name : Text) : Answers stack [has v name] (v.member name) := by
  cases v with
  | object members =>
    cases known : Value.memberOf name members with
    | none =>
      exact answers_unmet (f := .missing name) (by simp [isMet, known])
        (by simp [Value.member, known]) (.inr rfl)
    | some w => exact answers_met (by simp [isMet, known]) ⟨w, by simp [Value.member, known]⟩
  | _ => exact answers_unmet rfl rfl (.inr rfl)

theorem memberD_answers (v : Value) (name : Text) (default : Value) :
    Answers stack [opened v] (v.memberD name default) := by
  cases v with
  | object members => exact answers_met rfl ⟨_, rfl⟩
  | _ => exact answers_unmet rfl rfl rfl

theorem elements_answers (v : Value) : Answers stack [iterable v] v.elements := by
  cases v with
  | list _ | text _ | object _ => exact answers_met rfl ⟨_, rfl⟩
  | _ => exact answers_unmet rfl rfl (.inr rfl)

theorem toInt_answers (v : Value) : Answers stack [numeric v] v.toInt := by
  cases v with
  | int _ | bool _ => exact answers_met rfl ⟨_, rfl⟩
  | double x =>
    cases x with
    | nan _ => exact answers_unmet rfl rfl (.inr rfl)
    | infinite _ => exact answers_unmet rfl rfl rfl
    | finite => exact answers_met rfl ⟨_, rfl⟩
  | decimal x =>
    cases huge : x.isHuge with
    | true => exact answers_unmet (by simp [isMet, Value.isNumeric, huge]) (if_pos huge) rfl
    | false =>
      refine answers_met (by simp [isMet, Value.isNumeric, huge]) ⟨x.truncate, ?_⟩
      simp [Value.toInt, huge]
  | text t =>
    cases known : Integer.read t with
    | ok n =>
      refine answers_met (by simp [isMet, Value.isNumeric, known, Except.toOption]) ⟨n, ?_⟩
      rw [Value.toInt, known]
      rfl
    | error e =>
      have failed : Value.toInt (.text t) = .error (Value.numeralFault t e) := by
        rw [Value.toInt, known]
        rfl
      refine answers_unmet (by simp [isMet, Value.isNumeric, known, Except.toOption]) failed ?_
      cases e <;> exact .inr rfl
  | _ => exact answers_unmet rfl rfl (.inr rfl)

/-- Only the stack and long integers keep a value from being told. -/
theorem tellingFault?_cases (found : v.tellingFault? stack use = some f) :
    f = .tooDeepToTell ∧ stack.canTell use v = false ∨
      f = .longInteger ∧ stack.canTell use v = true := by
  unfold Value.tellingFault? at found
  cases told : stack.canTell use v with
  | false =>
    rw [told] at found
    exact .inl ⟨(Option.some.inj found).symm, rfl⟩
  | true =>
    rw [told] at found
    refine .inr ⟨?_, rfl⟩
    by_cases written : v.isWritable = true
    · simp [written] at found
    · simpa [written] using found.symm

theorem canTell_of_told (told : v.tellingFault? stack use = none) :
    stack.canTell use v = true := by
  cases can : stack.canTell use v with
  | true => rfl
  | false =>
    rw [Value.tellingFault?, can] at told
    cases told

theorem told_answers (v : Value) : Answers stack [tellable use v] (v.told stack use) := by
  cases known : v.tellingFault? stack use with
  | none => exact answers_met (by simp [isMet, known]) ⟨v.display, by simp [Value.told, known]⟩
  | some f =>
    have failed : v.told stack use = .error f := by simp [Value.told, known]
    refine answers_unmet (by simp [isMet, known]) failed ?_
    rcases tellingFault?_cases known with ⟨rfl, can⟩ | ⟨rfl, can⟩
    · simp [Blames, escape?, can, Fault.kind]
    · simp [Blames, escape?, can, Fault.isValueFault, Fault.kind]

/-! ### Documents that answer -/

/-- What is read from a member that has to be there. -/
theorem required_answers {ask : Value → Demand} {read : Value → Except Fault α}
    {next : α → Except Fault β} (asked : ∀ w, Answers stack [ask w] (read w))
    (later : ∀ a, Answers stack es (next a)) :
    Answers stack (required v name ask ++ es) (v.member name >>= fun w => read w >>= next) := by
  refine answers_cons (member_answers v name) fun w found => ?_
  rw [Value.given_eq found]
  exact answers_bind (asked w) fun a _ => later a

theorem optional_answers {ask : Value → Demand} {default : Value} {read : Value → Except Fault α}
    {next : α → Except Fault β} (asked : ∀ w, Answers stack [ask w] (read w))
    (later : ∀ a, Answers stack es (next a)) :
    Answers stack (optional v name default ask ++ es)
      (v.memberD name default >>= fun w => read w >>= next) := by
  refine answers_cons (memberD_answers v name default) fun w found => ?_
  rw [Value.givenD_eq found]
  exact answers_bind (asked w) fun a _ => later a

theorem integer_answers {default : Int} {next : Int → Except Fault β}
    (later : ∀ n, Answers stack es (next n)) :
    Answers stack (integer v name default ++ es) (v.intD name default >>= next) := by
  have whole : (v.intD name default >>= next) =
      v.memberD name (.int default) >>= fun w => w.toInt >>= next := bind_assoc ..
  rw [whole]
  exact optional_answers toInt_answers later

theorem listed_answers {ofItem : Value → List Demand} {read : Value → Except Fault α}
    (single : ∀ w, Answers stack (ofItem w) (read w)) :
    Answers stack (listed v name ofItem) (v.listD read name) := by
  refine answers_cons (memberD_answers v name _) fun w found => ?_
  rw [Value.givenD_eq found]
  refine answers_cons (elements_answers w) fun items opened => ?_
  rw [Value.itemsOf_eq opened]
  exact answers_mapM single items

theorem tag_answers (v : Value) : Answers stack (ofTag v) (Tag.ofValue v) := by
  refine answers_cons (member_answers v _) fun key _ => ?_
  exact answers_map (memberD_answers v _ _)

theorem reference_answers (v : Value) :
    Answers stack (ofReference v) (Reference.ofValue stack v) := by
  refine integer_answers fun _ => integer_answers fun _ => integer_answers fun _ =>
    integer_answers fun _ => ?_
  rw [← List.append_nil (optional ..)]
  exact optional_answers told_answers fun _ => answers_pure _

/-! ### Kinds and layers of spans -/

section Choices

variable {ofName? : Text → Option α} {names : List String} {choice : String}

/-- What keeps the identifier of the span from being told takes the place of the fault. -/
theorem kindFault_blamed (choice : String)
    (unknown : f = .notOneOf w choice ∨ f = .longInteger)
    (told : stack.canTell .choice w = true) :
    (oneOf names w (v.givenD "spanId" .null)).Blames stack (Span.kindFault stack v f) := by
  generalize known : v.givenD "spanId" .null = spanId
  have named : Span.kindFault stack v f =
      (spanId.tellingFault? stack .spanId).getD (.malformedSpan spanId f) := by
    rw [← known]
    rcases unknown with rfl | rfl <;> rfl
  have escapes : (oneOf names w spanId).escape? stack =
      if stack.canTell .spanId spanId then none else some .recursion := by
    rw [escape?, told, Bool.true_and]
  rw [named, Blames, escapes]
  cases untold : spanId.tellingFault? stack .spanId with
  | none => simp [canTell_of_told untold, Fault.kind]
  | some g =>
    rcases tellingFault?_cases untold with ⟨rfl, can⟩ | ⟨rfl, can⟩
    · simp [can, Fault.kind]
    · simp [can, Fault.isValueFault, Fault.kind]

/-- A value that is none of the names is told to say so. -/
theorem choice_unnamed (unmet : (oneOf names w (v.givenD "spanId" .null)).isMet stack = false)
    (failed : w.choice stack ofName? choice =
      .error ((w.tellingFault? stack .choice).getD (.notOneOf w choice))) :
    Answers stack [oneOf names w (v.givenD "spanId" .null)]
      ((w.choice stack ofName? choice).mapError (Span.kindFault stack v)) := by
  rw [failed]
  refine answers_unmet unmet rfl ?_
  cases untold : w.tellingFault? stack .choice with
  | none => exact kindFault_blamed choice (.inl rfl) (canTell_of_told untold)
  | some g =>
    rcases tellingFault?_cases untold with ⟨rfl, can⟩ | ⟨rfl, can⟩
    · simp [Blames, escape?, can, Span.kindFault, Fault.kind]
    · exact kindFault_blamed choice (.inr rfl) can

/-- What is one of some names is read; all else is blamed on a span. -/
theorem choice_answers (choice : String)
    (named : ∀ t, (ofName? t).isSome = names.any fun name => (name : Text) = t) (w : Value) :
    Answers stack [oneOf names w (v.givenD "spanId" .null)]
      ((w.choice stack ofName? choice).mapError (Span.kindFault stack v)) := by
  cases w with
  | text t =>
    have met := named t
    cases found : ofName? t with
    | some a =>
      rw [found, Option.isSome_some] at met
      have chosen : (Value.text t).choice stack ofName? choice = .ok a := by
        simp [Value.choice, found]
      rw [chosen]
      exact answers_met met.symm ⟨a, rfl⟩
    | none =>
      rw [found, Option.isSome_none] at met
      exact choice_unnamed met.symm (by simp [Value.choice, found])
  | _ => exact choice_unnamed rfl rfl

end Choices

theorem isSome_kind (t : Text) :
    (SpanKind.ofName? t).isSome =
      ["Entry", "Exit", "Local"].any fun name => (name : Text) = t := by
  rw [SpanKind.ofName?, List.isSome_find?]
  rfl

theorem isSome_layer (t : Text) :
    (SpanLayer.ofName? t).isSome =
      ["Unknown", "Database", "RPCFramework", "Http", "MQ", "Cache"].any
        fun name => (name : Text) = t := by
  rw [SpanLayer.ofName?, List.isSome_find?]
  rfl

theorem mapError_bind {x : Except Fault α} {next : α → Except Fault β} {g : Fault → Fault} :
    (x >>= next).mapError g = x.mapError g >>= fun a => (next a).mapError g := by
  cases x <;> rfl

theorem member_kindFault (v u : Value) (name : Text) :
    (v.member name).mapError (Span.kindFault stack u) = v.member name := by
  unfold Value.member
  split
  · split <;> rfl
  · rfl

theorem memberD_kindFault (v u default : Value) (name : Text) :
    (v.memberD name default).mapError (Span.kindFault stack u) = v.memberD name default := by
  cases v <;> rfl

theorem kind_answers (v : Value) :
    Answers stack (ofKind v) ((Span.readKind stack v).mapError (Span.kindFault stack v)) := by
  simp only [Span.readKind, mapError_bind, member_kindFault, memberD_kindFault]
  refine required_answers (choice_answers "SpanType" isSome_kind) fun kind => ?_
  rw [← List.append_nil (optional ..)]
  exact optional_answers (choice_answers "SpanLayer" isSome_layer) fun layer =>
    answers_pure (kind, layer)

theorem span_answers (v : Value) : Answers stack (ofSpan v) (Span.ofValue stack v) := by
  refine answers_bind (kind_answers v) fun (kind, layer) _ => ?_
  refine required_answers toInt_answers fun id => ?_
  refine integer_answers fun parentId => integer_answers fun startTime =>
    integer_answers fun endTime => ?_
  refine answers_bind (memberD_answers v _ _) fun flag _ => ?_
  refine integer_answers fun operationId => integer_answers fun peerId =>
    integer_answers fun componentId => ?_
  refine answers_bind (listed_answers tag_answers) fun tags _ => ?_
  exact answers_map (listed_answers reference_answers)

theorem traceId_answers (v : Value) : Answers stack (ofTraceId v) (Segment.readTraceId v) := by
  refine answers_cons (memberD_answers v _ _) fun parts found => ?_
  rw [Value.givenD_eq found]
  exact elements_answers parts

theorem segment_answers (v : Value) :
    Answers stack (ofSegment v) (Segment.readMembers stack v) := by
  refine required_answers told_answers fun id => required_answers toInt_answers fun serviceId =>
    required_answers toInt_answers fun instanceId => ?_
  refine answers_bind (listed_answers traceId_answers) fun traceIds _ => ?_
  exact answers_map (listed_answers span_answers)

/-- What passes through is not that a document is malformed, nor what makes it so. -/
theorem escape?_cases {kind : Fault.Kind} (escapes : d.escape? stack = some kind) :
    kind = .noAttribute ∨ kind = .overflow ∨ kind = .memory ∨ kind = .recursion := by
  unfold escape? at escapes
  split at escapes
  · exact .inl (Option.some.inj escapes).symm
  · exact .inr (.inl (Option.some.inj escapes).symm)
  · exact .inr (.inr (.inl (Option.some.inj escapes).symm))
  · split at escapes
    · cases escapes
    · exact .inr (.inr (.inr (Option.some.inj escapes).symm))
  · split at escapes
    · cases escapes
    · exact .inr (.inr (.inr (Option.some.inj escapes).symm))
  · cases escapes

theorem Blames.kind (blamed : d.Blames stack f) :
    (Segment.fault f).kind = (d.escape? stack).getD .format := by
  unfold Blames at blamed
  cases escapes : d.escape? stack with
  | some kind =>
    rw [escapes] at blamed
    obtain rfl : f.kind = kind := blamed
    have passes : f.isValueFault = false := by
      unfold Fault.isValueFault
      rcases escape?_cases escapes with same | same | same | same <;> rw [same]
    rw [Segment.fault, passes]
    rfl
  | none =>
    rw [escapes] at blamed
    rcases blamed with format | value
    · have passes : f.isValueFault = false := by rw [Fault.isValueFault, format]
      rw [Segment.fault, passes]
      exact format
    · rw [Segment.fault, value]
      rfl

end Demand

open Demand in
/-- A document is read as a segment if all its demands are met. Otherwise the first unmet one
decides: either it makes the document malformed, or its own kind of fault passes through. So a
document that is no segment is reported as malformed exactly if its first unmet demand is none of
the latter. -/
theorem Segment.ofValue_reports (stack : Stack) (v : Value) :
    ((∃ s, ofValue stack v = .ok s) ↔ firstUnmet stack (ofSegment v) = none) ∧
    (∀ d, firstUnmet stack (ofSegment v) = some d →
      ∃ f, ofValue stack v = .error f ∧ f.kind = (d.escape? stack).getD .format) ∧
    (((∃ s, ofValue stack v = .ok s) ∨ ∃ f, ofValue stack v = .error f ∧ f.kind = .format) ↔
      ∀ d, firstUnmet stack (ofSegment v) = some d → d.escape? stack = none) := by
  have answers : Answers stack (ofSegment v) (readMembers stack v) := segment_answers v
  unfold Answers at answers
  cases unmet : firstUnmet stack (ofSegment v) with
  | none =>
    rw [unmet] at answers
    obtain ⟨s, read⟩ := answers
    have made : ofValue stack v = .ok s := by rw [ofValue, read]; rfl
    exact ⟨⟨fun _ => rfl, fun _ => ⟨s, made⟩⟩, nofun, ⟨fun _ => nofun, fun _ => .inl ⟨s, made⟩⟩⟩
  | some d =>
    rw [unmet] at answers
    obtain ⟨f, failed, blamed⟩ := answers
    have refused : ofValue stack v = .error (Segment.fault f) := by rw [ofValue, failed]; rfl
    refine ⟨⟨?_, nofun⟩, ?_, ?_, ?_⟩
    · rintro ⟨s, made⟩
      rw [made] at refused
      cases refused
    · rintro d' ⟨⟩
      exact ⟨_, refused, blamed.kind⟩
    · rintro (⟨s, made⟩ | ⟨g, same, format⟩) d' ⟨⟩
      · rw [made] at refused
        cases refused
      · obtain rfl := Except.error.inj (refused.symm.trans same)
        rw [blamed.kind] at format
        cases escapes : d.escape? stack with
        | none => rfl
        | some kind =>
          rw [escapes] at format
          obtain rfl : kind = .format := format
          rcases escape?_cases escapes with same | same | same | same <;> cases same
    · intro stays
      refine .inr ⟨_, refused, ?_⟩
      rw [blamed.kind, stays d rfl]
      rfl

def Segment.spanless (serviceId : Value) (traceIds : List Value) : Value :=
  .object [("traceSegmentId", .text "s"), ("serviceId", serviceId), ("serviceInstanceId", .int 1),
    ("globalTraceIds", .list traceIds)]

/-- An infinite number and a text among the trace identifiers are not reported as malformed. -/
theorem Segment.ofValue_passes :
    ofValue {} (spanless (.double (.infinite false)) []) = .error .infiniteInteger ∧
      ofValue {} (spanless (.int 1) [.text "x"]) = .error (.unsupported "str" .get) ∧
      Fault.infiniteInteger.kind = .overflow ∧
      (Fault.unsupported "str" .get).kind = .noAttribute :=
  ⟨rfl, rfl, rfl, rfl⟩

end TraceScope
