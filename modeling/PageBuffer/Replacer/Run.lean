import PageBuffer.Replacer.Basic
import PageBuffer.Run

/-!
Calls on a replacer and what they answer, and emptying a replacer of all that may go.
-/

namespace PageBuffer

namespace Replacer

inductive Call where
  | touch (frame : FrameId)
  | mark (frame : FrameId) (evictable : Bool)
  | evict
  | release (frame : FrameId)
  | size
  | capacity
  | k
  deriving DecidableEq, Repr

inductive Answer where
  | done
  | failed (error : BufferError)
  | evicted (frame : Option FrameId)
  | number (value : Nat)
  deriving DecidableEq, Repr

def Answer.ofResult : Except BufferError Unit → Answer
  | .ok () => .done
  | .error error => .failed error

def perform (call : Call) (replacer : Replacer) : Outcome Replacer Event Answer :=
  match call with
  | .touch frame =>
      let outcome := replacer.touch frame
      ⟨.ofResult outcome.answer, outcome.state, outcome.events⟩
  | .mark frame evictable => ⟨.done, replacer.mark frame evictable, []⟩
  | .evict =>
      let outcome := replacer.evict
      ⟨.evicted outcome.answer, outcome.state, outcome.events⟩
  | .release frame =>
      let outcome := replacer.release frame
      ⟨.ofResult outcome.answer, outcome.state, outcome.events⟩
  | .size => ⟨.number replacer.evictableCount, replacer, []⟩
  | .capacity => ⟨.number replacer.capacity, replacer, []⟩
  | .k => ⟨.number replacer.k, replacer, []⟩

theorem length_tracked_evict_lt {replacer : Replacer} {frame : FrameId}
    (evicted : replacer.evict.answer = some frame) :
    replacer.evict.state.tracked.length < replacer.tracked.length := by
  unfold evict at evicted ⊢
  split at evicted
  · simp at evicted
  · rename_i victim chosen
    obtain ⟨best, bestFound, rfl⟩ := Option.map_eq_some_iff.mp chosen
    have bestTracked : best ∈ replacer.tracked :=
      (List.mem_filter.mp (Tracked.earliest?_mem bestFound)).1
    exact List.length_filter_lt_length_iff_exists.mpr ⟨best, bestTracked, by simp⟩

/-- Evicts until no candidate is left, and answers the victims in order. -/
def drain (replacer : Replacer) : Outcome Replacer Event (List FrameId) :=
  match _evicted : replacer.evict.answer with
  | none => ⟨[], replacer, []⟩
  | some frame =>
      let rest := drain replacer.evict.state
      ⟨frame :: rest.answer, rest.state, replacer.evict.events ++ rest.events⟩
termination_by replacer.tracked.length
decreasing_by exact length_tracked_evict_lt _evicted

end Replacer

end PageBuffer
