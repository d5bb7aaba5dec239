import TraceScope.Analyzer
import TraceScope.Proofs.Finalization

/-!
# What a segment emits

A segment is analysed in two halves. The first resolves and evaluates everything and can fail, but
offers nothing; the second offers the records that the first came to, and only the sink can stop it.
-/

namespace TraceScope

def Listener.gather (inv : Inventory) (config : Config) (info : SegmentInfo) (events : List Event) :
    Listener × Option Fault :=
  Step.each (receive inv config info) events {}

/-- The records of a segment, or the fault that keeps it from having any. -/
def Segment.emission (inv : Inventory) (config : Config) (segment : Segment) :
    Except Fault (List Record) := do
  let info ← segment.info
  match Listener.gather inv config info segment.events with
  | (l, none) => .ok (l.records inv)
  | (_, some f) => .error f

theorem Segment.emission_ok_iff {inv : Inventory} {config : Config} {segment : Segment}
    {rs : List Record} :
    segment.emission inv config = .ok rs ↔ ∃ info l, segment.info = .ok info ∧
      Listener.gather inv config info segment.events = (l, none) ∧ rs = l.records inv := by
  constructor
  · intro reached
    obtain ⟨info, told, reached⟩ := bind_ok_iff.mp reached
    rcases gathered : Listener.gather inv config info segment.events with ⟨l, _ | f⟩
    · rw [gathered] at reached
      exact ⟨info, l, told, gathered, (Except.ok.inj reached).symm⟩
    · rw [gathered] at reached
      cases reached
  · rintro ⟨info, l, told, gathered, rfl⟩
    exact bind_ok_iff.mpr ⟨info, told, by rw [gathered]⟩

theorem Segment.info_dated {segment : Segment} {info : SegmentInfo}
    (told : segment.info = .ok info) : info.Dated := by
  unfold Segment.info at told
  split at told
  · cases told
    exact ⟨.int 0, rfl, rfl⟩
  · obtain ⟨b, _, told⟩ := bind_ok_iff.mp told
    obtain rfl := pure_ok_iff.mp told
    exact ⟨.int b, rfl, rfl⟩

namespace Listener

variable {inv : Inventory} {config : Config} {info : SegmentInfo}

theorem gather_sound (dated : info.Dated) (events : List Event) :
    Sound inv (gather inv config info events).1 :=
  Step.keeps_each (fun e _ => receive_sound dated e) {} new_sound

theorem notifyAll_observer (e : Event) :
    Observer.notifyAll [observer inv config] info e =
      .zoom Prod.fst (fun l s => (l, s.2)) (receive inv config info e) := by
  have interested : (observer inv config).interests e.point = true := rfl
  simp only [Observer.notifyAll, List.filter_cons, interested, if_true, List.filter_nil,
    Step.each_cons, Step.each_nil, Step.andThen_skip, Observer.notify_of_interest interested]
  rfl

theorem deliver_observer (segment : Segment) (l : Listener) (i : Intake) :
    Observer.deliver [observer inv config] info segment (l, i) =
      match gather inv config info segment.events with
      | (told, none) => build inv Intake.offer (told, i)
      | (told, some f) => ((told, i), some f) := by
  have created : Step.each Observer.create [observer inv config] (l, i) = (({}, i), none) := rfl
  have events := Step.each_zoom_fst (receive inv config info) segment.events {} i
  have told : Observer.notifyAll [observer inv config] info = fun e =>
      .zoom Prod.fst (fun l s => (l, s.2)) (receive inv config info e) := funext notifyAll_observer
  simp only [Observer.deliver, Step.andThen_ok created]
  rw [told]
  rcases done : gather inv config info segment.events with ⟨told, _ | f⟩
  · unfold gather at done
    rw [done] at events
    rw [Step.andThen_ok events]
    simp only [Step.each_cons, Step.each_nil, Step.andThen_skip]
    rfl
  · unfold gather at done
    rw [done] at events
    rw [Step.andThen_failed events]

end Listener

/-! ### Offers to the intake -/

namespace Intake

theorem offer_done {r : Record} {i j : Intake} (done : offer r i = (j, none)) :
    j.sink.records = i.sink.records ++ [r] ∧ j.sink.offered = i.sink.offered + 1 ∧
      j.sink.refuses = i.sink.refuses := by
  cases answer : i.sink.refuses (i.sink.offered + 1) with
  | none =>
    simp only [offer, Sink.offer, Step.andThen, Step.zoom, Step.update, answer] at done
    obtain ⟨rfl, _⟩ := Prod.mk.inj done
    simp [count, Sink.records]
  | some f =>
    simp only [offer, Sink.offer, Step.andThen, Step.zoom, answer] at done
    cases (Prod.mk.inj done).2

theorem offer_refused {r : Record} {i j : Intake} {f : Fault} (refused : offer r i = (j, some f)) :
    j.sink.offered = i.sink.offered + 1 ∧ i.sink.refuses j.sink.offered = some f := by
  cases answer : i.sink.refuses (i.sink.offered + 1) with
  | none =>
    simp only [offer, Sink.offer, Step.andThen, Step.zoom, Step.update, answer] at refused
    cases (Prod.mk.inj refused).2
  | some g =>
    simp only [offer, Sink.offer, Step.andThen, Step.zoom, answer] at refused
    obtain ⟨rfl, same⟩ := Prod.mk.inj refused
    exact ⟨rfl, answer.trans same⟩

/-- If offers end early, the sink refused the last one. -/
theorem each_offer_refused {rs : List Record} {i j : Intake} {f : Fault}
    (refused : Step.each offer rs i = (j, some f)) :
    i.sink.offered < j.sink.offered ∧ i.sink.refuses j.sink.offered = some f := by
  induction rs generalizing i with
  | nil => cases (Prod.mk.inj refused).2
  | cons r rest ih =>
    rw [Step.each_cons] at refused
    rcases done : offer r i with ⟨u, _ | g⟩
    · obtain ⟨_, more, same⟩ := offer_done done
      rw [Step.andThen_ok done] at refused
      obtain ⟨later, last⟩ := ih refused
      rw [same] at last
      exact ⟨by omega, last⟩
    · obtain ⟨more, last⟩ := offer_refused done
      rw [Step.andThen_failed done] at refused
      obtain ⟨rfl, same⟩ := Prod.mk.inj refused
      cases same
      exact ⟨by omega, last⟩

end Intake

namespace Analyzer

/-- Offers the records of a segment and counts it. -/
def emit (rs : List Record) : Step Analyzer :=
  (Step.zoom intake (fun intake a => { a with intake }) (.each Intake.offer rs)).andThen
    (.update fun a => { a with segmentCount := a.segmentCount + 1 })

/-- To process a segment is to come to its records first, and to offer them afterwards. -/
theorem process_eq (segment : Segment) (a : Analyzer) :
    process segment a = Step.ofExcept (segment.emission a.inventory a.config) emit a := by
  cases told : segment.info with
  | error f => simp only [process, Segment.emission, told]; rfl
  | ok info =>
    have delivered :
        Observer.deliver [Listener.observer a.inventory a.config] info segment ({}, a.intake) = _ :=
      Listener.deliver_observer segment {} a.intake
    have sound : Listener.Sound a.inventory
        (Listener.gather a.inventory a.config info segment.events).1 :=
      Listener.gather_sound (Segment.info_dated told) segment.events
    rcases done : Listener.gather a.inventory a.config info segment.events with ⟨l, _ | f⟩
    · rw [done] at delivered sound
      obtain ⟨after, built, _⟩ := Listener.build_offers Intake.offer sound a.intake
      have reached : segment.emission a.inventory a.config = .ok (l.records a.inventory) := by
        simp only [Segment.emission, told, bind, Except.bind, done]
      rw [reached]
      rcases stored : Step.each Intake.offer (l.records a.inventory) a.intake with ⟨i, _ | f⟩
      · simp only [process, told, Step.ofExcept, publish, Step.andThen, delivered, built, stored,
          emit, Step.zoom]
      · simp only [process, told, Step.ofExcept, publish, Step.andThen, delivered, built, stored,
          emit, Step.zoom]
    · rw [done] at delivered
      have failed : segment.emission a.inventory a.config = .error f := by
        simp only [Segment.emission, told, bind, Except.bind, done]
      simp only [failed, process, told, Step.ofExcept, publish, Step.andThen, delivered, Step.fail]

theorem emit_refused {rs : List Record} {a b : Analyzer} {f : Fault}
    (refused : emit rs a = (b, some f)) :
    a.intake.sink.offered < b.intake.sink.offered ∧
      a.intake.sink.refuses b.intake.sink.offered = some f := by
  rcases stored : Step.each Intake.offer rs a.intake with ⟨i, _ | g⟩
  · simp only [emit, Step.andThen, Step.zoom, stored, Step.update] at refused
    cases (Prod.mk.inj refused).2
  · simp only [emit, Step.andThen, Step.zoom, stored] at refused
    obtain ⟨rfl, same⟩ := Prod.mk.inj refused
    cases same
    exact Intake.each_offer_refused stored

/-- A segment that fails leaves everything as it was, unless its fault is that of the sink refusing
the last record that it was offered. -/
theorem process_fault {segment : Segment} {a : Analyzer} {f : Fault}
    (failed : (process segment a).2 = some f) :
    (process segment a).1 = a ∨
      a.intake.sink.offered < (process segment a).1.intake.sink.offered ∧
        a.intake.sink.refuses (process segment a).1.intake.sink.offered = some f := by
  rw [process_eq] at failed ⊢
  cases reached : segment.emission a.inventory a.config with
  | error g => exact Or.inl rfl
  | ok rs =>
    rw [reached] at failed
    exact Or.inr (emit_refused (Prod.ext rfl failed))

/-- No resolution, no tag and no time fails once a record is offered: a segment that fails leaves
the records, the counts and the number of segments as they were, unless the sink refuses something
while the segment is processed. -/
theorem process_atomic (segment : Segment) (a : Analyzer)
    (failed : (process segment a).2 ≠ none)
    (accepted : ∀ k, a.intake.sink.offered < k →
      k ≤ (process segment a).1.intake.sink.offered → a.intake.sink.refuses k = none) :
    (process segment a).1 = a := by
  obtain ⟨f, raised⟩ := Option.ne_none_iff_exists'.mp failed
  rcases process_fault raised with unchanged | ⟨offered, refused⟩
  · exact unchanged
  · rw [accepted _ offered (Nat.le_refl _)] at refused
    cases refused

def mistyped : Segment :=
  let entry : Span :=
    { id := 0, parentId := -1, kind := .entry, layer := .http, startTime := 0, endTime := 900
      isError := false, operationId := 1, peerId := 0, componentId := 0, tags := []
      references := [] }
  let exit : Span :=
    { entry with
      kind := .exit, layer := .database, peerId := 9
      tags := [{ key := .text Statement.typeKey, value := .int 5 }] }
  { id := "s", serviceId := 1, instanceId := 1, traceIds := [], spans := [entry, exit] }

def withDatabase : Analyzer where
  inventory := .ofRegistrations
    [.service { id := 2, name := .text "db", addressId := 9 },
      .inst { id := 3, name := .text "db-1", serviceId := 2, addressId := 9 }]
  config := { limit := .chars 2000, thresholds := {} }

theorem process_mistyped :
    (process mistyped withDatabase).2 ≠ none ∧
      (process mistyped withDatabase).1 = withDatabase := by
  have failed : (process mistyped withDatabase).2 ≠ none := by
    rw [← Option.isSome_iff_ne_none]
    decide +kernel
  exact ⟨failed, process_atomic mistyped withDatabase failed fun _ _ _ => rfl⟩

end Analyzer

end TraceScope
