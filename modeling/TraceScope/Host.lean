import TraceScope.Analyzer
import TraceScope.Folder

/-!
# Hosts

What runs an analysis provides what the analysis itself leaves open: a stack, a reader that finds
the segment documents in a file, and a disk.
-/

namespace TraceScope

/-- What an analysis runs on. -/
structure Host where
  stack : Stack := {}
  items : ByteArray → ItemStream
  storing : Place → ByteArray → Storing := fun _ _ => .whole

namespace Host

def process (host : Host) (folder : Folder) (path : Text) : Step Analyzer :=
  .ofExcept (folder.read path) fun bytes =>
    Analyzer.processFile host.stack path (host.items bytes)

end Host

end TraceScope
