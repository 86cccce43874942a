import PageBuffer.History
import PageBuffer.Replacer.Run

/-!
The replacer that never forgets an access.  It answers the same calls as a replacer, from the
complete history of every tracked frame, and counts the evictable frames afresh each time.
-/

namespace PageBuffer.Replacer

/-- A tracked frame and its accesses since it was last admitted. -/
structure Admission where
  frame : FrameId
  history : History
  evictable : Bool
  deriving DecidableEq, Repr

structure Chronicle where
  capacity : Nat
  k : Nat
  clock : Nat := 0
  admissions : List Admission := []
  deriving DecidableEq, Repr

namespace Chronicle

def lookup (chronicle : Chronicle) (frame : FrameId) : Option Admission :=
  chronicle.admissions.find? (·.frame = frame)

def without (chronicle : Chronicle) (frame : FrameId) : List Admission :=
  chronicle.admissions.filter (·.frame ≠ frame)

/-- Replaces what is known about the admission's frame. -/
def put (chronicle : Chronicle) (admission : Admission) : Chronicle :=
  { chronicle with admissions := admission :: chronicle.without admission.frame }

def evictables (chronicle : Chronicle) : List Admission :=
  chronicle.admissions.filter (·.evictable)

/-- The evictable admission that no other one precedes. -/
def victim? (chronicle : Chronicle) : Option Admission :=
  chronicle.evictables.find? fun candidate =>
    chronicle.evictables.all fun other =>
      !History.precedes chronicle.k other.history candidate.history

def touch (chronicle : Chronicle) (frame : FrameId) : Answer × Chronicle :=
  if 0 ≤ frame ∧ frame < chronicle.capacity then
    let time := chronicle.clock
    let admission :=
      match chronicle.lookup frame with
      | none => { frame, history := [time], evictable := false }
      | some known => { known with history := known.history ++ [time] }
    (.done, { chronicle.put admission with clock := time + 1 })
  else
    (.failed (.invalidFrame frame chronicle.capacity), chronicle)

def mark (chronicle : Chronicle) (frame : FrameId) (evictable : Bool) : Chronicle :=
  match chronicle.lookup frame with
  | none => chronicle
  | some known => chronicle.put { known with evictable }

def evict (chronicle : Chronicle) : Answer × Chronicle :=
  match chronicle.victim? with
  | none => (.evicted none, chronicle)
  | some victim =>
      (.evicted (some victim.frame), { chronicle with admissions := chronicle.without victim.frame })

def release (chronicle : Chronicle) (frame : FrameId) : Answer × Chronicle :=
  match chronicle.lookup frame with
  | none => (.done, chronicle)
  | some known =>
      if known.evictable then
        (.done, { chronicle with admissions := chronicle.without frame })
      else
        (.failed (.removeNonEvictable frame), chronicle)

def answer (call : Call) (chronicle : Chronicle) : Answer × Chronicle :=
  match call with
  | .touch frame => chronicle.touch frame
  | .mark frame evictable => (.done, chronicle.mark frame evictable)
  | .evict => chronicle.evict
  | .release frame => chronicle.release frame
  | .size => (.number chronicle.evictables.length, chronicle)
  | .capacity => (.number chronicle.capacity, chronicle)
  | .k => (.number chronicle.k, chronicle)

/-- Answers a call.  A chronicle logs nothing. -/
def perform (call : Call) (chronicle : Chronicle) : Outcome Chronicle Empty Answer :=
  let (answer, next) := chronicle.answer call
  ⟨answer, next, []⟩

theorem lookup_put (chronicle : Chronicle) (admission : Admission) (frame : FrameId) :
    (chronicle.put admission).lookup frame =
      if admission.frame = frame then some admission else chronicle.lookup frame := by
  unfold put lookup without
  by_cases same : admission.frame = frame
  · simp [same]
  · simp only [List.find?_cons, same, decide_false, if_false, List.find?_filter]
    congr 1
    funext known
    by_cases found : known.frame = frame <;> simp [found, Ne.symm same]

end Chronicle

end PageBuffer.Replacer
