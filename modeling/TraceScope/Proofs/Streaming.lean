import TraceScope.Proofs.Refusal

/-!
# Files as they are read

A stream gives a segment only when the one before it was processed, and is read no further after a
fault. So it makes no difference whether documents are read one by one as they are processed or all
beforehand: what counts is the first of them that cannot be decoded, resolved or stored, and the
fault that ends the file comes after all of theirs.
-/

namespace TraceScope

namespace Analyzer

def recordsOf (stack : Stack) (inv : Inventory) (config : Config) (doc : Value) :
    Except Fault (List Record) := do
  let segment ← Segment.ofValue stack doc
  segment.emission inv config

/-- How far an analyzer gets with a stream: to its end, to a document that comes to no records, or
into the records of a document, one of which is refused. -/
inductive Streamed (stack : Stack) (a : Analyzer) (stream : SegmentStream) :
    Analyzer × Option Fault → Prop
  | whole {outs : List (List Record)}
      (reached : stream.items.mapM (recordsOf stack a.inventory a.config) = .ok outs) :
      Streamed stack a stream (a.takeAll outs, stream.ending)
  | failed {before after : List Value} {doc : Value} {outs : List (List Record)} {f : Fault}
      (split : stream.items = before ++ doc :: after)
      (reached : before.mapM (recordsOf stack a.inventory a.config) = .ok outs)
      (fault : recordsOf stack a.inventory a.config doc = .error f) :
      Streamed stack a stream (a.takeAll outs, some f)
  | refused {before after : List Value} {doc : Value} {outs : List (List Record)}
      {part rest : List Record} {r : Record} {f : Fault}
      (split : stream.items = before ++ doc :: after)
      (reached : before.mapM (recordsOf stack a.inventory a.config) = .ok outs)
      (own : recordsOf stack a.inventory a.config doc = .ok (part ++ r :: rest))
      (fault : a.intake.sink.refuses
        (a.intake.sink.offered + outs.flatten.length + part.length + 1) = some f) :
      Streamed stack a stream (a.stop outs part, some f)

variable {stack : Stack} {a b : Analyzer} {stream : SegmentStream} {doc : Value} {docs : List Value}
  {rs part rest : List Record} {r : Record} {f : Fault} {outcome : Analyzer × Option Fault}

/-! ### One document -/

theorem processDocument_eq (stack : Stack) (doc : Value) (a : Analyzer) :
    processDocument stack doc a =
      Step.ofExcept (recordsOf stack a.inventory a.config doc) emit a := by
  unfold processDocument recordsOf
  cases Segment.ofValue stack doc with
  | error f => rfl
  | ok segment => exact process_eq segment a

/-- A document comes to no records, or they are all stored, or one of them is refused. -/
theorem processDocument_cases (stack : Stack) (doc : Value) (a : Analyzer) :
    (∃ f, recordsOf stack a.inventory a.config doc = .error f ∧
      processDocument stack doc a = (a, some f)) ∨
    (∃ rs, recordsOf stack a.inventory a.config doc = .ok rs ∧
      processDocument stack doc a = (a.take rs, none)) ∨
    ∃ part r rest f, recordsOf stack a.inventory a.config doc = .ok (part ++ r :: rest) ∧
      a.intake.sink.refuses (a.intake.sink.offered + part.length + 1) = some f ∧
      processDocument stack doc a = (a.stop [] part, some f) := by
  rw [processDocument_eq]
  cases reached : recordsOf stack a.inventory a.config doc with
  | error f => exact Or.inl ⟨f, rfl, rfl⟩
  | ok rs =>
    rcases a.intake.accepts_or_refuses rs with
      accepts | ⟨part, r, rest, f, rfl, accepts, refused⟩
    · exact Or.inr (Or.inl ⟨rs, rfl, emit_taken accepts⟩)
    · refine Or.inr (Or.inr ⟨part, r, rest, f, rfl, refused, ?_⟩)
      simp only [Step.ofExcept, emit, Step.andThen, Step.zoom,
        Intake.each_offer_cut accepts refused]
      rfl

/-! ### Whole streams -/

theorem mapM_extended {before : List Value} {outs : List (List Record)}
    (first : recordsOf stack a.inventory a.config doc = .ok rs)
    (reached : before.mapM (recordsOf stack a.inventory a.config) = .ok outs) :
    (doc :: before).mapM (recordsOf stack a.inventory a.config) = .ok (rs :: outs) := by
  rw [List.mapM_cons, first]
  exact bind_ok_iff.mpr ⟨rs, rfl, bind_ok_iff.mpr ⟨outs, reached, rfl⟩⟩

theorem Streamed.cons {ending : Option Fault}
    (first : recordsOf stack a.inventory a.config doc = .ok rs)
    (h : Streamed stack (a.take rs) { items := docs, ending } outcome) :
    Streamed stack a { items := doc :: docs, ending } outcome := by
  cases h with
  | @whole outs reached =>
    have extended :
        Streamed stack a { items := doc :: docs, ending } (a.takeAll (rs :: outs), ending) :=
      .whole (mapM_extended first reached)
    exact extended
  | @failed before after _ outs f split reached fault =>
    have extended : Streamed stack a { items := doc :: docs, ending }
        (a.takeAll (rs :: outs), some f) :=
      .failed (congrArg (doc :: ·) split) (mapM_extended first reached) fault
    exact extended
  | @refused before after doc' outs part rest r f split reached own fault =>
    obtain ⟨_, offered, refuses⟩ := Intake.storeAll_sink a.intake rs
    have place : (a.take rs).intake.sink.offered + outs.flatten.length + part.length + 1 =
        a.intake.sink.offered + (rs :: outs).flatten.length + part.length + 1 := by
      have here : (a.take rs).intake.sink.offered = a.intake.sink.offered + rs.length := offered
      rw [here, List.flatten_cons, List.length_append]
      omega
    have same : (a.take rs).intake.sink.refuses = a.intake.sink.refuses := refuses
    rw [place, same] at fault
    have extended : Streamed stack a { items := doc :: docs, ending }
        (a.stop (rs :: outs) part, some f) :=
      .refused (congrArg (doc :: ·) split) (mapM_extended first reached) own fault
    exact extended

theorem processStream_streamed (stack : Stack) (stream : SegmentStream) (a : Analyzer) :
    Streamed stack a stream (processStream stack stream a) := by
  obtain ⟨items, ending⟩ := stream
  rw [processStream_eq]
  unfold processDocuments
  have none : ([] : List Value).mapM (recordsOf stack a.inventory a.config) = .ok [] := rfl
  induction items generalizing a with
  | nil =>
    have whole : Streamed stack a { items := [], ending } (a.takeAll [], ending) := .whole none
    cases ending <;> exact whole
  | cons doc rest ih =>
    rw [Step.each_cons, Step.andThen_assoc]
    rcases processDocument_cases stack doc a with
      ⟨f, fault, done⟩ | ⟨rs, reached, done⟩ | ⟨part, r, more, f, own, refused, done⟩
    · rw [Step.andThen_failed done]
      have failed : Streamed stack a { items := doc :: rest, ending } (a.takeAll [], some f) :=
        .failed (List.nil_append _).symm none fault
      exact failed
    · rw [Step.andThen_ok done]
      exact .cons reached (ih (a.take rs) rfl)
    · rw [Step.andThen_failed done]
      exact .refused (List.nil_append _).symm none own refused

/-- The records of whole documents are kept, with part of the next one's if one of those was
refused, and the documents are counted. -/
theorem Streamed.effect (h : Streamed stack a stream outcome) :
    ∃ (outs : List (List Record)) (part : List Record),
      outcome.1.records = a.records ++ (outs.flatten ++ part) ∧
        outcome.1.segmentCount = a.segmentCount + outs.length := by
  have taken : ∀ outs : List (List Record),
      (a.takeAll outs).records = a.records ++ (outs.flatten ++ []) ∧
        (a.takeAll outs).segmentCount = a.segmentCount + outs.length := by
    intro outs
    obtain ⟨_, _, records, _, _, count⟩ := @takeAll_effect a outs
    rw [List.append_nil]
    exact ⟨records, count⟩
  cases h with
  | @whole outs => exact ⟨outs, [], taken outs⟩
  | @failed _ _ _ outs => exact ⟨outs, [], taken outs⟩
  | @refused _ _ _ outs part =>
    obtain ⟨records, _, count⟩ := @stop_effect a outs part
    exact ⟨outs, part, records, count⟩

theorem processDocuments_decoded {segments : List Segment}
    (decoded : docs.mapM (Segment.ofValue stack) = .ok segments) :
    processDocuments stack docs = processAll segments := by
  unfold processDocuments processAll
  induction docs generalizing segments with
  | nil =>
    obtain rfl := pure_ok_iff.mp decoded
    rfl
  | cons doc rest ih =>
    rw [List.mapM_cons] at decoded
    obtain ⟨segment, first, decoded⟩ := bind_ok_iff.mp decoded
    obtain ⟨more, remaining, decoded⟩ := bind_ok_iff.mp decoded
    obtain rfl := pure_ok_iff.mp decoded
    rw [Step.each_cons, Step.each_cons, ih remaining, processDocument, first]
    rfl

theorem processStream_outcome (stack : Stack) (stream : SegmentStream) (a : Analyzer) :
    processStream stack stream a =
      ((processDocuments stack stream.items a).1,
        (processDocuments stack stream.items a).2.or stream.ending) := by
  rw [processStream_eq]
  rcases done : processDocuments stack stream.items a with ⟨b, _ | f⟩
  · rw [Step.andThen_ok done]
    cases stream.ending <;> rfl
  · rw [Step.andThen_failed done]
    rfl

/-- A file is processed as its documents are one by one, up to the first fault of theirs. Only if
there is none the way in which the reading ended is told: a file that is no JSON is malformed, and
other faults stay as they are. What was stored before a fault stays stored and counted. If all
documents can be decoded and the reading ends with the file, a file is as good as the list of its
segments. -/
theorem processFile_one_by_one (stack : Stack) (path : Text) (read : ItemStream) (a : Analyzer) :
    let single := processDocuments stack read.items a
    let streamed := processFile stack path read a
    streamed.1 = single.1 ∧
      (∀ f, single.2 = some f → streamed.2 = some f) ∧
      (single.2 = none → read.ending = .whole → streamed.2 = none) ∧
      (single.2 = none → read.ending = .malformed →
        ∃ f, streamed.2 = some f ∧ f = .notJson .segments path ∧ f.kind = .format) ∧
      (single.2 = none → ∀ f, read.ending = .failed f → streamed.2 = some f) ∧
      Streamed stack a (.ofFile path read) streamed ∧
      (∃ (outs : List (List Record)) (part : List Record),
        streamed.1.records = a.records ++ (outs.flatten ++ part) ∧
          streamed.1.segmentCount = a.segmentCount + outs.length) ∧
      (a.intake.Counted → streamed.1.intake.Counted) ∧
      ∀ segments, read.items.mapM (Segment.ofValue stack) = .ok segments → read.ending = .whole →
        streamed = processAll segments a := by
  intro single streamed
  let stream := SegmentStream.ofFile path read
  have outcome : streamed = (single.1, single.2.or stream.ending) :=
    processStream_outcome stack stream a
  have far : Streamed stack a stream streamed := processStream_streamed stack stream a
  have ending : single.2 = none → streamed.2 = stream.ending := by
    intro silent
    rw [outcome, silent, Option.none_or]
  refine ⟨by rw [outcome], ?_, ?_, ?_, ?_, far, far.effect, ?_, ?_⟩
  · intro f failed
    rw [outcome, failed, Option.some_or]
  · intro silent whole
    refine (ending silent).trans ?_
    simp only [stream, SegmentStream.ofFile, whole]
  · intro silent malformed
    refine ⟨_, (ending silent).trans ?_, rfl, rfl⟩
    simp only [stream, SegmentStream.ofFile, malformed]
  · intro silent f failed
    refine (ending silent).trans ?_
    simp only [stream, SegmentStream.ofFile, failed]
  · intro counted
    exact (perform_keeps Intake.offer_counted (.file stack stream) a ⟨rfl, rfl, counted⟩).2.2
  · intro segments decoded whole
    have nothing : stream.ending = none := by simp only [stream, SegmentStream.ofFile, whole]
    rw [outcome, nothing, Option.or_none]
    exact congrFun (processDocuments_decoded decoded) a

def brokenOff : ItemStream where
  items := [.object [("traceSegmentId", .text "s"), ("serviceId", .int 1),
    ("serviceInstanceId", .int 1)]]
  ending := .malformed

theorem processFile_brokenOff :
    let streamed := processFile {} "f" brokenOff withDatabase
    streamed.1.segmentCount = 1 ∧ streamed.2 = some (.notJson .segments "f") := by
  intro streamed
  obtain ⟨same, _, _, ended, _⟩ := processFile_one_by_one {} "f" brokenOff withDatabase
  have silent : (processDocuments {} brokenOff.items withDatabase).2 = none := by rfl
  obtain ⟨f, failed, rfl, _⟩ := ended silent rfl
  refine ⟨?_, failed⟩
  rw [show streamed.1 = _ from same]
  rfl

end Analyzer

end TraceScope
