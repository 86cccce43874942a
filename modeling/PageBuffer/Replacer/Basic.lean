import PageBuffer.Error
import PageBuffer.Log

/-!
The k-distance replacer, which chooses the frame to give up next.

Each tracked frame keeps the times of its last `k` accesses.  Among the evictable frames the victim
is one with fewer than `k` known accesses if there is any, and in either class the one whose oldest
known access is earliest.
-/

namespace PageBuffer

/-- What a replacer knows about one frame. -/
structure Tracked where
  frame : FrameId
  /-- Times of the last accesses, oldest first. -/
  window : List Nat
  evictable : Bool
  deriving DecidableEq, Repr

namespace Tracked

def isFull (k : Nat) (tracked : Tracked) : Bool :=
  k ≤ tracked.window.length

/-- The eviction order: frames with a partial window first, then the earlier oldest access, then
the smaller frame number. -/
def order (k : Nat) (first second : Tracked) : Ordering :=
  (compare (first.isFull k) (second.isFull k)).then
    ((compare first.window.head? second.window.head?).then
      (compare first.frame second.frame))

/-- Records an access, forgetting the oldest time when the window already holds `k`. -/
def access (k time : Nat) (tracked : Tracked) : Tracked :=
  let kept := if tracked.window.length = k then tracked.window.tail else tracked.window
  { tracked with window := kept ++ [time] }

@[simp]
theorem frame_access (k time : Nat) (tracked : Tracked) :
    (tracked.access k time).frame = tracked.frame := rfl

@[simp]
theorem evictable_access (k time : Nat) (tracked : Tracked) :
    (tracked.access k time).evictable = tracked.evictable := rfl

/-- The first frame in eviction order. -/
def earliest? (k : Nat) : List Tracked → Option Tracked
  | [] => none
  | head :: rest =>
      match earliest? k rest with
      | none => some head
      | some best => if order k best head = .lt then some best else some head

theorem earliest?_mem {k : Nat} {frames : List Tracked} {best : Tracked}
    (found : earliest? k frames = some best) : best ∈ frames := by
  induction frames generalizing best with
  | nil => simp [earliest?] at found
  | cons head rest inductionHypothesis =>
      simp only [earliest?] at found
      split at found
      · simp_all
      · rename_i candidate candidateFound
        split at found <;> simp_all

@[simp]
theorem earliest?_eq_none_iff {k : Nat} {frames : List Tracked} :
    earliest? k frames = none ↔ frames = [] := by
  cases frames with
  | nil => simp [earliest?]
  | cons head rest =>
      simp only [earliest?]
      split <;> simp
      split <;> simp

end Tracked

/-- The tracked frames, the logical clock, and the two construction sizes. -/
structure Replacer where
  capacity : Nat
  k : Nat
  k_pos : 0 < k := by decide
  clock : Nat := 0
  /-- How many tracked frames are evictable. -/
  evictableCount : Nat := 0
  tracked : List Tracked := []
  deriving DecidableEq, Repr

namespace Replacer

inductive Event where
  | accessed (frame : FrameId) (time : Nat)
  | outOfRange (frame : FrameId)
  | evicted (frame : FrameId) (left : Nat)
  | refused (frame : FrameId)
  deriving DecidableEq, Repr

def Event.record : Event → Record
  | .accessed frame time => ⟨.trace, s!"frame {frame} accessed at {time}"⟩
  | .outOfRange frame => ⟨.warn, s!"access recorded for out-of-range frame {frame}"⟩
  | .evicted frame left => ⟨.debug, s!"evicted frame {frame} ({left} evictable left)"⟩
  | .refused frame => ⟨.warn, s!"refusing to remove pinned frame {frame}"⟩

/-- A replacer that tracks nothing yet.  A window of no accesses is refused.

The frames are taken to have storage.  From a capacity of about `2 ^ 57` on they cannot have it, and
`build` says when. -/
def create (capacity k : Nat) : Except BufferError Replacer :=
  if positive : 0 < k then
    .ok { capacity, k, k_pos := positive }
  else
    .error (.invalidConfig "replacer k must be positive")

def lookup (replacer : Replacer) (frame : FrameId) : Option Tracked :=
  replacer.tracked.find? (·.frame = frame)

/-- Applies `change` to the frame's entry. -/
def modify (replacer : Replacer) (frame : FrameId) (change : Tracked → Tracked) : List Tracked :=
  replacer.tracked.map fun tracked => if tracked.frame = frame then change tracked else tracked

/-- A change that keeps frame numbers shows at the frame it is made for, and nowhere else. -/
theorem find?_modify (replacer : Replacer) {change : Tracked → Tracked}
    (sameFrame : ∀ tracked, (change tracked).frame = tracked.frame) (frame other : FrameId) :
    (replacer.modify frame change).find? (·.frame = other) =
      if other = frame then (replacer.lookup other).map change else replacer.lookup other := by
  unfold modify lookup
  induction replacer.tracked with
  | nil => simp
  | cons head rest inductionHypothesis =>
      by_cases changed : head.frame = frame <;> by_cases sought : head.frame = other <;>
        grind

/-- Records an access at the current time.  A frame seen for the first time starts out pinned.

A new window is taken to have storage for `k` times, which it cannot have from `2 ^ 60` on. -/
def touch (replacer : Replacer) (frame : FrameId) :
    Outcome Replacer Event (Except BufferError Unit) :=
  if frame < 0 ∨ (replacer.capacity : Int) ≤ frame then
    ⟨.error (.invalidFrame frame replacer.capacity), replacer, [.outOfRange frame]⟩
  else
    let time := replacer.clock
    let tracked :=
      match replacer.lookup frame with
      | none => replacer.tracked ++ [{ frame, window := [time], evictable := false }]
      | some _ => replacer.modify frame (Tracked.access replacer.k time)
    ⟨.ok (), { replacer with clock := time + 1, tracked }, [.accessed frame time]⟩

/-- Makes a tracked frame evictable, or pins it.  An untracked frame is ignored. -/
def mark (replacer : Replacer) (frame : FrameId) (evictable : Bool) : Replacer :=
  match replacer.lookup frame with
  | none => replacer
  | some tracked =>
      if tracked.evictable = evictable then
        replacer
      else
        { replacer with
          tracked := replacer.modify frame ({ · with evictable })
          evictableCount :=
            if evictable then replacer.evictableCount + 1 else replacer.evictableCount - 1 }

/-- Stops tracking an evictable frame. -/
def forget (replacer : Replacer) (frame : FrameId) : Replacer :=
  { replacer with
    tracked := replacer.tracked.filter (·.frame ≠ frame)
    evictableCount := replacer.evictableCount - 1 }

/-- The evictable frame that comes first in eviction order. -/
def victim? (replacer : Replacer) : Option FrameId :=
  (Tracked.earliest? replacer.k (replacer.tracked.filter (·.evictable))).map (·.frame)

/-- Gives up the victim, if there is one. -/
def evict (replacer : Replacer) : Outcome Replacer Event (Option FrameId) :=
  match replacer.victim? with
  | none => ⟨none, replacer, []⟩
  | some frame =>
      let rest := replacer.forget frame
      ⟨some frame, rest, [.evicted frame rest.evictableCount]⟩

/-- Stops tracking a frame on request.  A pinned frame is refused, an untracked one ignored. -/
def release (replacer : Replacer) (frame : FrameId) :
    Outcome Replacer Event (Except BufferError Unit) :=
  match replacer.lookup frame with
  | none => ⟨.ok (), replacer, []⟩
  | some tracked =>
      if tracked.evictable then
        ⟨.ok (), replacer.forget frame, []⟩
      else
        ⟨.error (.removeNonEvictable frame), replacer, [.refused frame]⟩

end Replacer

end PageBuffer
