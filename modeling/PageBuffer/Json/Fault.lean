/-!
What is wrong with a JSON text that was to hold a certain kind of value.
-/

namespace PageBuffer.Json

/-- The first problem from the left. -/
inductive Fault where
  /-- The text is not JSON. -/
  | malformed
  /-- The text is the beginning of JSON, and stops there. -/
  | ended
  /-- The text is JSON so far, but not of the kind that was to be read. -/
  | mismatched
  deriving DecidableEq, Repr

end PageBuffer.Json
