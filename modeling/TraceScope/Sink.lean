import TraceScope.Record
import TraceScope.Step

/-!
# Record sinks

A sink stores the records it is offered, in order. It may refuse some of them; a record that is
refused is not stored, and the sink goes on with the next.
-/

namespace TraceScope

/-- A sink: what it stored, how many records it was offered, and which offers it refuses, counted
from one. -/
structure Sink where
  stored : Array Record := #[]
  offered : Nat := 0
  refuses : Nat → Option Fault := fun _ => none

namespace Sink

def offer (r : Record) : Step Sink := fun s =>
  match s.refuses (s.offered + 1) with
  | none => ({ s with stored := s.stored.push r, offered := s.offered + 1 }, none)
  | some f => ({ s with offered := s.offered + 1 }, some f)

def records (s : Sink) : List Record := s.stored.toList

def ofScope (s : Sink) (scope : Scope) : List Record := s.records.filter (·.scope = scope)

theorem offer_snd (r : Record) (s : Sink) : (offer r s).2 = s.refuses (s.offered + 1) := by
  unfold offer
  cases s.refuses (s.offered + 1) <;> rfl

theorem records_offer (r : Record) (s : Sink) :
    (offer r s).1.records =
      match s.refuses (s.offered + 1) with
      | none => s.records ++ [r]
      | some _ => s.records := by
  unfold offer records
  cases s.refuses (s.offered + 1) <;> simp

theorem refuses_offer (r : Record) (s : Sink) : (offer r s).1.refuses = s.refuses := by
  unfold offer
  cases s.refuses (s.offered + 1) <;> rfl

end Sink

end TraceScope
