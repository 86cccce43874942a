import PageBuffer.Proofs.Replacer.Keeping

/-!
What each call on a replacer comes to, case by case.
-/

namespace PageBuffer.Replacer

variable {replacer : Replacer} {frame : FrameId} {call : Call}
  {outcome : Outcome Replacer Event Answer}

/-- What a call comes to: its answer, the state that it leaves, and what it logs. -/
inductive Does (replacer : Replacer) : Call → Outcome Replacer Event Answer → Prop where
  | touched {frame : FrameId} (inRange : 0 ≤ frame ∧ frame < replacer.capacity) :
      Does replacer (.touch frame)
        ⟨.done, (replacer.touch frame).state, [.accessed frame replacer.clock]⟩
  | outside {frame : FrameId} (outOfRange : ¬(0 ≤ frame ∧ frame < replacer.capacity)) :
      Does replacer (.touch frame)
        ⟨.failed (.invalidFrame frame replacer.capacity), replacer, [.outOfRange frame]⟩
  | marked {frame : FrameId} {evictable : Bool} :
      Does replacer (.mark frame evictable) ⟨.done, replacer.mark frame evictable, []⟩
  | evicted {frame : FrameId} (victim : replacer.victim? = some frame) :
      Does replacer .evict ⟨.evicted (some frame), replacer.forget frame,
        [.evicted frame (replacer.forget frame).evictableCount]⟩
  | stuck (noVictim : replacer.victim? = none) : Does replacer .evict ⟨.evicted none, replacer, []⟩
  | absent {frame : FrameId} (absent : replacer.lookup frame = none) :
      Does replacer (.release frame) ⟨.done, replacer, []⟩
  | released {frame : FrameId} {tracked : Tracked} (present : replacer.lookup frame = some tracked)
      (evictable : tracked.evictable = true) :
      Does replacer (.release frame) ⟨.done, replacer.forget frame, []⟩
  | refused {frame : FrameId} {tracked : Tracked} (present : replacer.lookup frame = some tracked)
      (pinned : tracked.evictable = false) :
      Does replacer (.release frame)
        ⟨.failed (.removeNonEvictable frame), replacer, [.refused frame]⟩
  | size : Does replacer .size ⟨.number replacer.evictableCount, replacer, []⟩
  | capacity : Does replacer .capacity ⟨.number replacer.capacity, replacer, []⟩
  | k : Does replacer .k ⟨.number replacer.k, replacer, []⟩

theorem does (call : Call) (replacer : Replacer) : Does replacer call (perform call replacer) := by
  cases call with
  | touch frame =>
      by_cases inRange : 0 ≤ frame ∧ frame < replacer.capacity
      · have events : (replacer.touch frame).events = [.accessed frame replacer.clock] := by
          rw [touch, if_neg (not_or.mpr ⟨Int.not_lt.mpr inRange.1, Int.not_le.mpr inRange.2⟩)]
        rw [perform, (touch_of_inRange inRange).1, events]
        exact .touched inRange
      · rw [perform, touch_of_outOfRange inRange]
        exact .outside inRange
  | mark frame evictable => exact .marked
  | evict =>
      cases chosen : replacer.victim? with
      | none =>
          rw [perform, evict, chosen]
          exact .stuck chosen
      | some frame =>
          rw [perform, evict, chosen]
          exact .evicted chosen
  | release frame =>
      cases present : replacer.lookup frame with
      | none =>
          rw [perform, release, present]
          exact .absent present
      | some tracked =>
          cases evictable : tracked.evictable with
          | true =>
              simp only [perform, release, present, evictable, if_true]
              exact .released present evictable
          | false =>
              simp only [perform, release, present, evictable, Bool.false_eq_true, if_false]
              exact .refused present evictable
  | size => exact .size
  | capacity => exact .capacity
  | k => exact .k

namespace Does

variable (does : Does replacer call outcome)

include does

theorem capacity_eq : outcome.state.capacity = replacer.capacity := by
  cases does <;> simp [forget]

theorem k_eq : outcome.state.k = replacer.k := by
  cases does <;> simp [forget]

end Does

end PageBuffer.Replacer
