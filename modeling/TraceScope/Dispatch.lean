import TraceScope.Event
import TraceScope.Step

/-!
# Delivery of events

Observers are told the events of one segment: trace identifiers first, then the entry and exit
spans in the order of the segment. Each event goes to the interested observers in their order.
After the last event every observer builds. The first fault ends the delivery.
-/

namespace TraceScope

/-- Something that is told the events of a segment. Observers may share a state. -/
structure Observer (σ : Type) where
  name : String
  interests : Point → Bool
  create : Step σ
  receive : SegmentInfo → Event → Step σ
  build : Step σ

namespace Observer

variable {σ : Type}

/-- Sends one event to an observer, which must have declared its interest. -/
def notify (o : Observer σ) (info : SegmentInfo) (e : Event) : Step σ :=
  if o.interests e.point then o.receive info e else .fail (.notHandled o.name e.point.name)

def notifyAll (observers : List (Observer σ)) (info : SegmentInfo) (e : Event) : Step σ :=
  .each (fun o => o.notify info e) (observers.filter (·.interests e.point))

def deliver (observers : List (Observer σ)) (info : SegmentInfo) (segment : Segment) : Step σ :=
  (Step.each create observers).andThen <|
    (Step.each (notifyAll observers info) segment.events).andThen <|
      .each build observers

theorem notify_of_interest {o : Observer σ} {info : SegmentInfo} {e : Event}
    (h : o.interests e.point = true) : o.notify info e = o.receive info e := by
  simp [notify, h]

end Observer

end TraceScope
