/-!
Log records, and what an operation leaves behind: an answer, the next state, and the events to log.
-/

namespace PageBuffer

inductive Level where
  | trace
  | debug
  | warn
  deriving DecidableEq, Repr

def Level.name : Level → String
  | .trace => "TRACE"
  | .debug => "DEBUG"
  | .warn => "WARN"

structure Record where
  level : Level
  text : String
  deriving DecidableEq, Repr

/-- The level and the text, one blank between them. -/
def Record.line (record : Record) : String :=
  record.level.name ++ " " ++ record.text

/-- The result of one operation on a state: its answer, the state after it, and its events, in the
order in which they happened. -/
structure Outcome (State Event Answer : Type) where
  answer : Answer
  state : State
  events : List Event := []
  deriving DecidableEq, Repr

end PageBuffer
