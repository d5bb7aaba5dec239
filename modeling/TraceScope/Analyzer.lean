import TraceScope.Dispatch
import TraceScope.Listener
import TraceScope.Segment.Document

/-!
# Analysis

An analyzer turns segments into records, one segment after the other. Each segment gets a listener
of its own; the sink, the counts of records by scope and the number of segments are kept. A segment
that fails is not counted, and ends the processing of a list or a file.
-/

namespace TraceScope

/-- A sink that counts by scope what it stores. -/
structure Intake where
  sink : Sink := {}
  counts : Table Scope Nat := {}

namespace Intake

def count (r : Record) (i : Intake) : Intake :=
  { i with counts := i.counts.alter r.scope fun n => n.getD 0 + 1 }

/-- Offers a record to the sink, and counts it if it was not refused. -/
def offer (r : Record) : Step Intake :=
  (Step.zoom sink (fun sink i => { i with sink }) (Sink.offer r)).andThen (.update (count r))

end Intake

/-- The listener of a segment, together with the intake that it publishes to. -/
def Listener.observer (inv : Inventory) (config : Config) : Observer (Listener × Intake) where
  name := "Listener"
  interests _ := true
  create := .update fun s => ({}, s.2)
  receive info e := .zoom (·.1) (fun l s => (l, s.2)) (Listener.receive inv config info e)
  build := Listener.build inv Intake.offer

/-- How the reading of a file ends: with the file, where the file is no JSON, or with another
fault. -/
inductive Ending
  | whole
  | malformed
  | failed (f : Fault)

/-- What a file is read as: the items that are complete before the reading ends. -/
structure ItemStream where
  items : List Value
  ending : Ending := .whole

/-- The items of a stream of segment documents: those read in full, and the fault that ended the
stream early. -/
structure SegmentStream where
  items : List Value
  ending : Option Fault := none

/-- The segment documents in the file at a path. That the file is no JSON makes it malformed; any
other fault stays as it is. -/
def SegmentStream.ofFile (path : Text) (read : ItemStream) : SegmentStream where
  items := read.items
  ending := match read.ending with
    | .whole => none
    | .malformed => some (.notJson .segments path)
    | .failed f => some f

namespace SegmentStream

/-- Asks a stream for its next segment. The items after it are not looked at. -/
def next (stack : Stack) (stream : SegmentStream) :
    Except Fault (Option (Segment × SegmentStream)) :=
  match stream.items with
  | doc :: rest =>
    (Segment.ofValue stack doc).map fun segment => some (segment, { stream with items := rest })
  | [] =>
    match stream.ending with
    | none => .ok none
    | some f => .error f

theorem next_shorter {stack : Stack} {stream rest : SegmentStream} {segment : Segment}
    (given : stream.next stack = .ok (some (segment, rest))) :
    rest.items.length < stream.items.length := by
  unfold next at given
  split at given
  · rename_i doc items known
    cases decoded : Segment.ofValue stack doc with
    | error f =>
      rw [decoded] at given
      cases given
    | ok first =>
      rw [decoded] at given
      obtain ⟨rfl, rfl⟩ := Prod.mk.inj (Option.some.inj (Except.ok.inj given))
      rw [known]
      exact Nat.lt_succ_self _
  · split at given <;> cases given

end SegmentStream

structure Analyzer where
  inventory : Inventory
  config : Config
  intake : Intake := {}
  segmentCount : Nat := 0

namespace Analyzer

def records (a : Analyzer) : List Record := a.intake.sink.records

def publish (info : SegmentInfo) (segment : Segment) : Step Analyzer := fun a =>
  let ((_, intake), f) :=
    Observer.deliver [Listener.observer a.inventory a.config] info segment ({}, a.intake)
  ({ a with intake }, f)

def process (segment : Segment) : Step Analyzer :=
  .ofExcept segment.info fun info =>
    (publish info segment).andThen (.update fun a => { a with segmentCount := a.segmentCount + 1 })

def processAll : List Segment → Step Analyzer := .each process

def processDocument (stack : Stack) (doc : Value) : Step Analyzer :=
  .ofExcept (Segment.ofValue stack doc) process

def processDocuments (stack : Stack) : List Value → Step Analyzer := .each (processDocument stack)

/-- Processes segments as a stream gives them. The next one is asked for only after the last one was
processed. -/
def processStream (stack : Stack) (stream : SegmentStream) : Step Analyzer :=
  match _given : stream.next stack with
  | .error f => .fail f
  | .ok none => .skip
  | .ok (some (segment, rest)) => (process segment).andThen (processStream stack rest)
termination_by stream.items.length
decreasing_by exact SegmentStream.next_shorter ‹_›

theorem processStream_next (stack : Stack) (stream : SegmentStream) :
    processStream stack stream =
      .ofExcept (stream.next stack) fun
        | none => .skip
        | some (segment, rest) => (process segment).andThen (processStream stack rest) := by
  rw [processStream]
  split
  · rename_i given
    rw [given]
    rfl
  · rename_i given
    rw [given]
    rfl
  · rename_i given
    rw [given]
    rfl

def processFile (stack : Stack) (path : Text) (read : ItemStream) : Step Analyzer :=
  processStream stack (.ofFile path read)

end Analyzer

end TraceScope
