import TraceScope.Value

/-!
# The stack

Whoever asks for an analysis leaves it a part of the stack. A list or an object takes some of it
where it is told, reported or written, and may take more than there is.
-/

namespace TraceScope

inductive Telling
  | segmentId
  | parentSegmentId
  | choice
  | spanId
  | traceIdPart
  deriving DecidableEq, Repr

/-- The lists and objects that what is left of the stack suffices for: to be told, to be put into a
report, and to be written at some level of indentation. `reading` is how many of them may be inside
one another in a document, if there is a limit. -/
structure Stack where
  tells : Telling → Value → Bool := fun _ _ => true
  reports : Value → Bool := fun _ => true
  writes : Nat → Value → Bool := fun _ _ => true
  reading : Option Nat := none

namespace Stack

def canTell (s : Stack) (t : Telling) (v : Value) : Bool := !v.isNested || s.tells t v

def canReport (s : Stack) (v : Value) : Bool := !v.isNested || s.reports v

/-- A stack on which a value is told if it takes at most so many levels. -/
def limited (levels : Nat) : Stack where
  tells _ v := v.fits levels

end Stack

end TraceScope
