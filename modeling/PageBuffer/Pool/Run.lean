import PageBuffer.Pool.Basic
import PageBuffer.Run

/-!
Calls on a pool and what they answer.
-/

namespace PageBuffer

namespace Pool

inductive Call where
  | fetch (page : PageId)
  | unpin (page : PageId)
  | delete (page : PageId)
  | find (page : PageId)
  deriving DecidableEq, Repr

/-- The page that a call is about. -/
def Call.page : Call → PageId
  | .fetch page | .unpin page | .delete page | .find page => page

inductive Answer where
  | done
  | frame (frame : Option FrameId)
  | refused (error : BufferError)
  deriving DecidableEq, Repr

def Answer.ofResult : Except BufferError Unit → Answer
  | .ok () => .done
  | .error error => .refused error

def perform (hash : HashFunction PageId) (call : Call) (pool : Pool) :
    Outcome Pool Empty (Except Fault Answer) :=
  match call with
  | .fetch page =>
      let outcome := pool.fetch hash page
      ⟨outcome.answer.map .frame, outcome.state, []⟩
  | .unpin page =>
      let outcome := pool.unpin hash page
      ⟨outcome.answer.map fun () => .done, outcome.state, []⟩
  | .delete page =>
      let outcome := pool.delete hash page
      ⟨outcome.answer.map .ofResult, outcome.state, []⟩
  | .find page => ⟨(pool.find hash page).map .frame, pool, []⟩

end Pool

end PageBuffer
