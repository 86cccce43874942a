/-!
The numbers that name frames and pages, and the failures an operation reports to its caller.
Each failure has one wording.  A look-up that finds nothing is an answer, not a failure.
-/

namespace PageBuffer

/-- A frame's number.  Callers may name any integer; a replacer tracks `0, …, capacity - 1`. -/
abbrev FrameId := Int

/-- A page's number. -/
abbrev PageId := Int

/-- The page number that stands for "this frame holds no page". -/
def noPage : PageId := -1

/-- A broken contract of the caller, or a size that cannot be used. -/
inductive BufferError where
  | invalidFrame (frame : FrameId) (capacity : Nat)
  | removeNonEvictable (frame : FrameId)
  | invalidConfig (reason : String)
  | invariant (reason : String)
  deriving DecidableEq, Repr

def BufferError.message : BufferError → String
  | .invalidFrame frame capacity =>
      s!"Invalid frame {frame}: replacer tracks frames 0..{capacity}"
  | .removeNonEvictable frame => s!"Cannot remove non-evictable frame {frame}"
  | .invalidConfig reason => s!"Invalid configuration: {reason}"
  | .invariant reason => s!"Invariant violated: {reason}"

end PageBuffer
