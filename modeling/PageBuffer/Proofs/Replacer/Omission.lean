import Mathlib.Order.Monotone.Basic
import PageBuffer.Proofs.Replacer.Refinement

/-!
A frame that is never given up may be left out of a run.

Without the calls that name it the clock falls behind, and the other frames are accessed at other
times.  But these times come in the same order, and windows are only compared.
-/

namespace PageBuffer

namespace Tracked

variable {k : Nat} {times : Set Nat} {retime : Nat → Nat} {one other : Tracked}

/-- The same frame, accessed at other times. -/
def retimed (retime : Nat → Nat) (tracked : Tracked) : Tracked :=
  { tracked with window := tracked.window.map retime }

@[simp]
theorem frame_retimed (retime : Nat → Nat) (tracked : Tracked) :
    (tracked.retimed retime).frame = tracked.frame := rfl

@[simp]
theorem evictable_retimed (retime : Nat → Nat) (tracked : Tracked) :
    (tracked.retimed retime).evictable = tracked.evictable := rfl

@[simp]
theorem window_retimed (retime : Nat → Nat) (tracked : Tracked) :
    (tracked.retimed retime).window = tracked.window.map retime := rfl

theorem retimed_access (k time : Nat) (retime : Nat → Nat) (tracked : Tracked) :
    (tracked.access k time).retimed retime = (tracked.retimed retime).access k (retime time) := by
  by_cases full : tracked.window.length = k <;> simp [access, retimed, full]

theorem retimed_congr {later : Nat → Nat} {tracked : Tracked}
    (same : ∀ time ∈ tracked.window, later time = retime time) :
    tracked.retimed later = tracked.retimed retime := by
  rw [retimed, retimed, List.map_congr_left same]

/-- The eviction order looks at the order of times only. -/
theorem order_retimed (ascending : StrictMonoOn retime times)
    (inTimes : ∀ time ∈ one.window, time ∈ times)
    (otherInTimes : ∀ time ∈ other.window, time ∈ times) :
    order k (one.retimed retime) (other.retimed retime) = order k one other := by
  have fronts : compare (one.window.map retime).head? (other.window.map retime).head? =
      compare one.window.head? other.window.head? := by
    cases oneWindow : one.window with
    | nil => cases other.window <;> rfl
    | cons oldest rest =>
        cases otherWindow : other.window with
        | nil => rfl
        | cons otherOldest otherRest =>
            have oldestIn := inTimes oldest (by simp [oneWindow])
            have otherOldestIn := otherInTimes otherOldest (by simp [otherWindow])
            have compared := ascending.cmp_map_eq oldestIn otherOldestIn
            rwa [cmp_eq_compare, cmp_eq_compare] at compared
  simp only [order, isFull, frame_retimed, window_retimed, List.length_map, fronts]

/-- Two frames of which neither comes before the other are one. -/
theorem frame_eq_of_isLE_order (notAfter : (order k one other).isLE = true)
    (notBefore : (order k other one).isLE = true) : one.frame = other.frame := by
  have level := Std.OrientedCmp.isLE_antisymm notAfter notBefore
  rw [order, Ordering.then_eq_eq, Ordering.then_eq_eq] at level
  exact Std.LawfulEqCmp.eq_of_compare level.2.2

end Tracked

namespace Replacer

variable {frame named : FrameId} {retime : Nat → Nat} {replacer other next otherNext : Replacer}
  {change : Tracked → Tracked} {call : Call}

/-- The call is about this frame. -/
def Call.names (frame : FrameId) : Call → Bool
  | .touch named | .mark named _ | .release named => named = frame
  | .evict | .size | .capacity | .k => false

def isEvictable (replacer : Replacer) (frame : FrameId) : Bool :=
  (replacer.lookup frame).any (·.evictable)

/-- What is known of all frames but one. -/
def besides (replacer : Replacer) (frame : FrameId) : List Tracked :=
  replacer.tracked.filter (·.frame ≠ frame)

def timesBesides (replacer : Replacer) (frame : FrameId) : Set Nat :=
  {time | ∃ tracked ∈ replacer.besides frame, time ∈ tracked.window}

theorem filter_modify (sameFrame : ∀ tracked, (change tracked).frame = tracked.frame) :
    (replacer.modify named change).filter (·.frame ≠ frame) =
      (replacer.besides frame).map fun tracked =>
        if tracked.frame = named then change tracked else tracked := by
  rw [modify, List.filter_map, besides]
  congr 2
  funext tracked
  by_cases changed : tracked.frame = named <;> simp [changed, sameFrame]

theorem filter_modify_self (sameFrame : ∀ tracked, (change tracked).frame = tracked.frame) :
    (replacer.modify frame change).filter (·.frame ≠ frame) = replacer.besides frame := by
  rw [filter_modify sameFrame, List.map_congr_left (g := id), List.map_id]
  intro tracked kept
  have different : tracked.frame ≠ frame := by simpa [besides] using (List.mem_filter.mp kept).2
  exact if_neg different

theorem besides_touch_self (replacer : Replacer) (frame : FrameId) :
    (replacer.touch frame).state.besides frame = replacer.besides frame := by
  by_cases inRange : 0 ≤ frame ∧ frame < replacer.capacity
  · rw [besides, (touch_of_inRange inRange).2.2.2]
    split
    · simp [besides]
    · exact filter_modify_self fun _ => rfl
  · rw [touch_of_outOfRange inRange]

theorem besides_mark_self (replacer : Replacer) (frame : FrameId) (evictable : Bool) :
    (replacer.mark frame evictable).besides frame = replacer.besides frame := by
  unfold mark
  split
  · rfl
  · split
    · rfl
    · exact filter_modify_self fun _ => rfl

theorem besides_forget (replacer : Replacer) (named frame : FrameId) :
    (replacer.forget named).besides frame =
      (replacer.besides frame).filter (·.frame ≠ named) := by
  simp only [besides, forget, List.filter_filter, Bool.and_comm]

theorem besides_release_self (replacer : Replacer) (frame : FrameId) :
    (replacer.release frame).state.besides frame = replacer.besides frame := by
  unfold release
  split
  · rfl
  · split
    · rw [besides_forget, besides, List.filter_filter]
      simp
    · rfl

@[simp]
theorem clock_release (replacer : Replacer) (frame : FrameId) :
    (replacer.release frame).state.clock = replacer.clock := by
  unfold release
  split
  · rfl
  · split <;> rfl

theorem le_clock_touch (replacer : Replacer) (frame : FrameId) :
    replacer.clock ≤ (replacer.touch frame).state.clock := by
  by_cases inRange : 0 ≤ frame ∧ frame < replacer.capacity
  · rw [(touch_of_inRange inRange).2.1]
    exact Nat.le_succ _
  · rw [touch_of_outOfRange inRange]

/-- An access adds its own time and no other. -/
theorem mem_timesBesides_touch (inRange : 0 ≤ named ∧ named < replacer.capacity) {time : Nat}
    (member : time ∈ (replacer.touch named).state.timesBesides frame) :
    time ∈ replacer.timesBesides frame ∨ time = replacer.clock := by
  obtain ⟨tracked, stored, inWindow⟩ := member
  rw [besides, (touch_of_inRange inRange).2.2.2] at stored
  split at stored
  · rw [List.filter_append, List.mem_append] at stored
    rcases stored with before | new
    · exact .inl ⟨tracked, before, inWindow⟩
    · rw [List.mem_singleton.mp (List.mem_of_mem_filter new)] at inWindow
      exact .inr (List.mem_singleton.mp inWindow)
  · rw [filter_modify (Tracked.frame_access _ _)] at stored
    obtain ⟨known, knownStored, rfl⟩ := List.mem_map.mp stored
    split at inWindow
    · rcases List.mem_append.mp inWindow with kept | new
      · refine .inl ⟨known, knownStored, ?_⟩
        split at kept
        · exact List.mem_of_mem_tail kept
        · exact kept
      · exact .inr (List.mem_singleton.mp new)
    · exact .inl ⟨known, knownStored, inWindow⟩

/-- The second replacer knows what the first one knows of all frames but one, with other times that
come in the same order. -/
structure Omits (frame : FrameId) (retime : Nat → Nat) (replacer other : Replacer) : Prop where
  capacity_eq : other.capacity = replacer.capacity
  k_eq : other.k = replacer.k
  tracked_eq : other.tracked = (replacer.besides frame).map (·.retimed retime)
  ascending : StrictMonoOn retime (replacer.timesBesides frame)
  past : ∀ time ∈ replacer.timesBesides frame, time < replacer.clock ∧ retime time < other.clock

namespace Omits

variable (omits : Omits frame retime replacer other)

include omits

/-- What becomes of the frame that is left out does not matter. -/
theorem of_besides_eq (sameCapacity : next.capacity = replacer.capacity)
    (sameK : next.k = replacer.k) (same : next.besides frame = replacer.besides frame)
    (notBefore : replacer.clock ≤ next.clock) : Omits frame retime next other := by
  have times : next.timesBesides frame = replacer.timesBesides frame := by
    rw [timesBesides, timesBesides, same]
  constructor
  case capacity_eq => rw [omits.capacity_eq, sameCapacity]
  case k_eq => rw [omits.k_eq, sameK]
  case tracked_eq => rw [omits.tracked_eq, same]
  case ascending => rw [times]; exact omits.ascending
  case past =>
    rw [times]
    intro time member
    exact ⟨Nat.lt_of_lt_of_le (omits.past time member).1 notBefore, (omits.past time member).2⟩

theorem perform_named (names : call.names frame = true) :
    Omits frame retime (Replacer.perform call replacer).state other := by
  cases call with
  | touch named =>
      obtain rfl : named = frame := by simpa [Call.names] using names
      exact omits.of_besides_eq (capacity_touch _ _) (k_touch _ _) (besides_touch_self _ _)
        (le_clock_touch _ _)
  | mark named evictable =>
      obtain rfl : named = frame := by simpa [Call.names] using names
      exact omits.of_besides_eq (capacity_mark _ _ _) (k_mark _ _ _) (besides_mark_self _ _ _)
        (clock_mark _ _ _).ge
  | release named =>
      obtain rfl : named = frame := by simpa [Call.names] using names
      exact omits.of_besides_eq (capacity_release _ _) (k_release _ _) (besides_release_self _ _)
        (clock_release _ _).ge
  | evict | size | capacity | k => simp [Call.names] at names

theorem lookup_eq (different : named ≠ frame) :
    other.lookup named = (replacer.lookup named).map (·.retimed retime) := by
  rw [lookup, omits.tracked_eq, List.find?_map, besides, List.find?_filter, lookup]
  congr 2
  funext tracked
  by_cases sought : tracked.frame = named <;> simp [sought, different]

/-- The same is done to both, and no window gets a new time. -/
theorem both (sameCapacity : next.capacity = replacer.capacity) (sameK : next.k = replacer.k)
    (sameClock : next.clock = replacer.clock) (otherCapacity : otherNext.capacity = other.capacity)
    (otherK : otherNext.k = other.k) (otherClock : otherNext.clock = other.clock)
    (tracked_eq : otherNext.tracked = (next.besides frame).map (·.retimed retime))
    (times : next.timesBesides frame ⊆ replacer.timesBesides frame) :
    Omits frame retime next otherNext where
  capacity_eq := by rw [otherCapacity, omits.capacity_eq, sameCapacity]
  k_eq := by rw [otherK, omits.k_eq, sameK]
  tracked_eq := tracked_eq
  ascending _ first _ second := omits.ascending (times first) (times second)
  past time member := by
    rw [sameClock, otherClock]
    exact omits.past time (times member)

theorem mark (different : named ≠ frame) (evictable : Bool) :
    Omits frame retime (replacer.mark named evictable) (other.mark named evictable) := by
  have lookup := omits.lookup_eq different
  cases present : replacer.lookup named with
  | none =>
      rw [present] at lookup
      simpa [Replacer.mark, present, lookup] using omits
  | some tracked =>
      rw [present] at lookup
      by_cases already : tracked.evictable = evictable
      · simpa [Replacer.mark, present, lookup, already] using omits
      · have sameFrame : ∀ tracked : Tracked, ({ tracked with evictable }).frame = tracked.frame :=
          fun _ => rfl
        refine omits.both (capacity_mark _ _ _) (k_mark _ _ _) (clock_mark _ _ _)
          (capacity_mark _ _ _) (k_mark _ _ _) (clock_mark _ _ _) ?_ ?_
        · simp only [Replacer.mark, present, lookup, Option.map_some, Tracked.evictable_retimed,
            already, if_false, besides, filter_modify sameFrame]
          rw [modify, omits.tracked_eq, List.map_map, List.map_map]
          apply List.map_congr_left
          intro known _
          by_cases same : known.frame = named <;> simp [same, Tracked.retimed]
        · rintro time ⟨tracked, member, inWindow⟩
          simp only [Replacer.mark, present, already, if_false, besides, filter_modify sameFrame]
            at member
          obtain ⟨known, stored, rfl⟩ := List.mem_map.mp member
          refine ⟨known, stored, ?_⟩
          split at inWindow <;> exact inWindow

theorem forget (named : FrameId) :
    Omits frame retime (replacer.forget named) (other.forget named) := by
  refine omits.both rfl rfl rfl rfl rfl rfl ?_ ?_
  · rw [besides_forget, Replacer.forget, omits.tracked_eq, List.filter_map]
    rfl
  · rintro time ⟨tracked, member, inWindow⟩
    rw [besides_forget] at member
    exact ⟨tracked, List.mem_of_mem_filter member, inWindow⟩

theorem release (different : named ≠ frame) :
    (replacer.release named).answer = (other.release named).answer ∧
      Omits frame retime (replacer.release named).state (other.release named).state := by
  have lookup := omits.lookup_eq different
  cases present : replacer.lookup named with
  | none =>
      rw [present] at lookup
      simpa [Replacer.release, present, lookup] using omits
  | some tracked =>
      rw [present] at lookup
      cases evictable : tracked.evictable with
      | true => simpa [Replacer.release, present, lookup, evictable] using omits.forget named
      | false => simpa [Replacer.release, present, lookup, evictable] using omits

theorem filter_evictable : other.tracked.filter (·.evictable) =
    ((replacer.besides frame).filter (·.evictable)).map (·.retimed retime) := by
  rw [omits.tracked_eq, List.filter_map]
  rfl

/-- Unless the frame that is left out is the victim, both have the same victim. -/
theorem victim?_eq (spared : replacer.victim? ≠ some frame) :
    other.victim? = replacer.victim? := by
  have candidates := omits.filter_evictable
  cases found : Tracked.earliest? replacer.k (replacer.tracked.filter (·.evictable)) with
  | none =>
      have noneBesides : (replacer.besides frame).filter (·.evictable) = [] := by
        rw [besides, List.filter_comm, Tracked.earliest?_eq_none_iff.mp found]
        rfl
      rw [victim?, victim?, found, candidates, noneBesides]
      rfl
  | some best =>
      have victim : replacer.victim? = some best.frame := by rw [victim?, found]; rfl
      rcases List.mem_filter.mp (Tracked.earliest?_mem found) with ⟨bestStored, bestEvictable⟩
      have bestBesides : best ∈ replacer.besides frame := by
        refine List.mem_filter.mpr ⟨bestStored, ?_⟩
        rw [decide_eq_true_eq]
        rintro rfl
        exact spared victim
      have bestKept : best.retimed retime ∈ other.tracked.filter (·.evictable) := by
        rw [candidates]
        exact List.mem_map_of_mem (List.mem_filter.mpr ⟨bestBesides, bestEvictable⟩)
      cases otherFound : Tracked.earliest? other.k (other.tracked.filter (·.evictable)) with
      | none =>
          rw [Tracked.earliest?_eq_none_iff.mp otherFound] at bestKept
          cases bestKept
      | some chosen =>
          have chosenStored := Tracked.earliest?_mem otherFound
          have notAfter := Tracked.isLE_order_earliest? otherFound bestKept
          rw [candidates] at chosenStored
          obtain ⟨known, knownKept, rfl⟩ := List.mem_map.mp chosenStored
          rcases List.mem_filter.mp knownKept with ⟨knownBesides, knownEvictable⟩
          have notBefore := Tracked.isLE_order_earliest? found
            (List.mem_filter.mpr ⟨List.mem_of_mem_filter knownBesides, knownEvictable⟩)
          -- Neither of the two comes before the other, at whichever times.
          rw [omits.k_eq, Tracked.order_retimed omits.ascending
            (fun _ inWindow => ⟨known, knownBesides, inWindow⟩)
            (fun _ inWindow => ⟨best, bestBesides, inWindow⟩)] at notAfter
          rw [victim, victim?, otherFound, ← Tracked.frame_eq_of_isLE_order notAfter notBefore]
          rfl

/-- The access at the current time goes on with the order of times. -/
theorem advanced {later : Nat → Nat} (atClock : later replacer.clock = other.clock)
    (before : ∀ time ∈ replacer.timesBesides frame, later time = retime time)
    (sameCapacity : next.capacity = replacer.capacity) (sameK : next.k = replacer.k)
    (clock_eq : next.clock = replacer.clock + 1)
    (otherCapacity : otherNext.capacity = other.capacity) (otherK : otherNext.k = other.k)
    (otherClock_eq : otherNext.clock = other.clock + 1)
    (tracked_eq : otherNext.tracked = (next.besides frame).map (·.retimed later))
    (times : ∀ time ∈ next.timesBesides frame,
      time ∈ replacer.timesBesides frame ∨ time = replacer.clock) :
    Omits frame later next otherNext where
  capacity_eq := by rw [otherCapacity, omits.capacity_eq, sameCapacity]
  k_eq := by rw [otherK, omits.k_eq, sameK]
  tracked_eq := tracked_eq
  ascending first firstMember second secondMember earlier := by
    rcases times first firstMember with firstBefore | rfl <;>
      rcases times second secondMember with secondBefore | rfl
    · rw [before first firstBefore, before second secondBefore]
      exact omits.ascending firstBefore secondBefore earlier
    · rw [before first firstBefore, atClock]
      exact (omits.past first firstBefore).2
    · have past := (omits.past second secondBefore).1
      omega
    · omega
  past time member := by
    rw [clock_eq, otherClock_eq]
    rcases times time member with earlier | rfl
    · obtain ⟨past, otherPast⟩ := omits.past time earlier
      rw [before time earlier]
      omega
    · omega

theorem touch (different : named ≠ frame) :
    (replacer.touch named).answer = (other.touch named).answer ∧
      ∃ later, Omits frame later (replacer.touch named).state (other.touch named).state := by
  by_cases inRange : 0 ≤ named ∧ named < replacer.capacity
  case neg =>
    have otherOut : ¬(0 ≤ named ∧ named < other.capacity) := by rwa [omits.capacity_eq]
    rw [touch_of_outOfRange inRange, touch_of_outOfRange otherOut, omits.capacity_eq]
    exact ⟨rfl, retime, omits⟩
  case pos =>
    have otherIn : 0 ≤ named ∧ named < other.capacity := by rwa [omits.capacity_eq]
    obtain ⟨answer, clock_eq, _, tracked⟩ := touch_of_inRange inRange
    obtain ⟨otherAnswer, otherClock_eq, _, otherTracked⟩ := touch_of_inRange otherIn
    refine ⟨answer.trans otherAnswer.symm, ?_⟩
    let later := fun time => if time = replacer.clock then other.clock else retime time
    have atClock : later replacer.clock = other.clock := if_pos rfl
    have before : ∀ time ∈ replacer.timesBesides frame, later time = retime time :=
      fun time member => if_neg (Nat.ne_of_lt (omits.past time member).1)
    have otherBefore : other.tracked = (replacer.besides frame).map (·.retimed later) := by
      rw [omits.tracked_eq]
      apply List.map_congr_left
      intro known stored
      exact (Tracked.retimed_congr fun time inWindow => before time ⟨known, stored, inWindow⟩).symm
    have lookup := omits.lookup_eq different
    refine ⟨later, omits.advanced atClock before (capacity_touch _ _) (k_touch _ _) clock_eq
      (capacity_touch _ _) (k_touch _ _) otherClock_eq ?_ ?_⟩
    · cases present : replacer.lookup named with
      | none =>
          rw [present] at tracked lookup
          rw [lookup] at otherTracked
          rw [otherTracked, besides, tracked, otherBefore]
          simp [besides, different, Tracked.retimed, atClock]
      | some known =>
          rw [present] at tracked lookup
          rw [lookup] at otherTracked
          rw [otherTracked, besides, tracked]
          simp only [Option.map_some, filter_modify (Tracked.frame_access _ _)]
          rw [modify, otherBefore, List.map_map, List.map_map, omits.k_eq, ← atClock]
          apply List.map_congr_left
          intro known _
          by_cases same : known.frame = named <;> simp [same, Tracked.retimed_access]
    · exact fun time => mem_timesBesides_touch inRange

/-- A call about another frame is answered alike, the number of evictable frames apart. -/
theorem perform (notNamed : call.names frame = false)
    (spared : (Replacer.perform call replacer).answer ≠ .evicted (some frame)) :
    (call ≠ .size →
        (Replacer.perform call replacer).answer = (Replacer.perform call other).answer) ∧
      ∃ later, Omits frame later (Replacer.perform call replacer).state
        (Replacer.perform call other).state := by
  cases call with
  | touch named =>
      have different : named ≠ frame := by simpa [Call.names] using notNamed
      obtain ⟨answer, later⟩ := omits.touch different
      exact ⟨fun _ => congrArg Answer.ofResult answer, later⟩
  | mark named evictable =>
      have different : named ≠ frame := by simpa [Call.names] using notNamed
      exact ⟨fun _ => rfl, retime, omits.mark different evictable⟩
  | release named =>
      have different : named ≠ frame := by simpa [Call.names] using notNamed
      obtain ⟨answer, later⟩ := omits.release different
      exact ⟨fun _ => congrArg Answer.ofResult answer, retime, later⟩
  | evict =>
      have notVictim : replacer.victim? ≠ some frame := by
        rwa [← answer_evict, ne_eq, ← Answer.evicted.injEq]
      have victim := omits.victim?_eq notVictim
      simp only [Replacer.perform, evict, victim]
      cases replacer.victim? with
      | none => exact ⟨fun _ => rfl, retime, omits⟩
      | some named => exact ⟨fun _ => rfl, retime, omits.forget named⟩
  | size => exact ⟨fun notSize => absurd rfl notSize, retime, omits⟩
  | capacity => exact ⟨fun _ => congrArg Answer.number omits.capacity_eq.symm, retime, omits⟩
  | k => exact ⟨fun _ => congrArg Answer.number omits.k_eq.symm, retime, omits⟩

theorem evictableCount_eq {admissions others : List Admission} (keeps : Keeps replacer admissions)
    (otherKeeps : Keeps other others) : replacer.evictableCount =
      other.evictableCount + if replacer.isEvictable frame then 1 else 0 := by
  have kept : other.evictableCount = (replacer.besides frame).countP (·.evictable) := by
    rw [otherKeeps.evictableCount_eq_countP, omits.tracked_eq, List.countP_map]
    rfl
  rw [keeps.evictableCount_eq_countP, kept, isEvictable, besides]
  cases present : replacer.lookup frame with
  | none =>
      have absent : frame ∉ replacer.tracked.map (·.frame) := by
        intro member
        obtain ⟨tracked, stored, rfl⟩ := List.mem_map.mp member
        simpa using List.find?_eq_none.mp present tracked stored
      rw [Keyed.filter_ne_eq_self absent]
      rfl
  | some tracked =>
      obtain ⟨stored, rfl⟩ := keeps.lookup_eq_some_iff.mp present
      rw [(Keyed.perm_cons_filter keeps.nodup_frames stored).countP_eq, List.countP_cons]
      rfl

end Omits

/-- A call in a run, and the same call in the run without the calls about a frame.  The frame shows
in the number of evictable frames and in nothing else. -/
structure AgreesBesides (frame : FrameId) (moment other : Replacer × Call) : Prop where
  call_eq : moment.2 = other.2
  answer_eq : moment.2 ≠ .size →
    (perform moment.2 moment.1).answer = (perform other.2 other.1).answer
  evictableCount_eq : (perform moment.2 moment.1).state.evictableCount =
    (perform other.2 other.1).state.evictableCount +
      if (perform moment.2 moment.1).state.isEvictable frame then 1 else 0

theorem Omits.run (omits : Omits frame retime replacer other)
    (follows : ∃ chronicle, Follows replacer chronicle)
    (otherFollows : ∃ chronicle, Follows other chronicle) {calls : List Call}
    (spared : .evicted (some frame) ∉ Run.answers Replacer.perform replacer calls) :
    List.Forall₂ (AgreesBesides frame)
      ((Run.moments Replacer.perform replacer calls).filter (!·.2.names frame))
      (Run.moments Replacer.perform other (calls.filter (!·.names frame))) := by
  induction calls generalizing replacer other retime with
  | nil => exact .nil
  | cons call rest inductionHypothesis =>
      rw [Run.answers_cons, List.mem_cons, not_or] at spared
      obtain ⟨chronicle, followed⟩ := follows
      have nextFollows := (followed.perform call).related
      cases names : call.names frame with
      | true =>
          have later := inductionHypothesis (omits.perform_named names) ⟨_, nextFollows⟩
            otherFollows spared.2
          simpa [names] using later
      | false =>
          obtain ⟨otherChronicle, otherFollowed⟩ := otherFollows
          have otherNextFollows := (otherFollowed.perform call).related
          obtain ⟨answer, retimeNext, nextOmits⟩ := omits.perform names (Ne.symm spared.1)
          have agrees : AgreesBesides frame (replacer, call) (other, call) :=
            ⟨rfl, answer, nextOmits.evictableCount_eq nextFollows.keeps otherNextFollows.keeps⟩
          have later := inductionHypothesis nextOmits ⟨_, nextFollows⟩ ⟨_, otherNextFollows⟩
            spared.2
          simpa [names] using And.intro agrees later

/-- A frame that no call of a run gives up may be left out of the run: without the calls about it
all others are answered as before, and there is one evictable frame less exactly where the frame
was evictable. -/
theorem answers_without_frame {capacity k : Nat} {fresh : Replacer}
    (created : create capacity k = .ok fresh) (calls : List Call) (frame : FrameId)
    (spared : .evicted (some frame) ∉ Run.answers perform fresh calls) :
    List.Forall₂ (AgreesBesides frame)
      ((Run.moments perform fresh calls).filter (!·.2.names frame))
      (Run.moments perform fresh (calls.filter (!·.names frame))) := by
  have follows := follows_create created
  obtain ⟨positive, rfl⟩ := eq_of_create created
  have omits : Omits frame id { capacity, k, k_pos := positive }
      { capacity, k, k_pos := positive } := by
    constructor
    case capacity_eq => rfl
    case k_eq => rfl
    case tracked_eq => rfl
    case ascending => exact strictMonoOn_id
    case past => rintro time ⟨tracked, stored, _⟩; cases stored
  exact omits.run ⟨_, follows⟩ ⟨_, follows⟩ spared

/-- Frame `1` is evictable when frames `2` and `0` are given up, but both come before it.  Without
its accesses frame `0` goes for its access at time `0` and not at time `1`. -/
theorem answers_without_frame_never_first :
    let fresh : Replacer := { capacity := 3, k := 2 }
    let calls : List Call :=
      [.touch 1, .touch 0, .touch 1, .touch 2, .touch 0, .mark 0 true, .mark 1 true, .mark 2 true,
        .evict, .touch 1, .size, .evict, .release 2, .mark 1 false, .size]
    create 3 2 = .ok fresh ∧ .evicted (some 1) ∉ Run.answers perform fresh calls ∧
      calls.filter (!·.names 1) =
        [.touch 0, .touch 2, .touch 0, .mark 0 true, .mark 2 true, .evict, .size, .evict,
          .release 2, .size] ∧
      Run.answers perform fresh calls =
        [.done, .done, .done, .done, .done, .done, .done, .done, .evicted (some 2), .done,
          .number 2, .evicted (some 0), .done, .done, .number 0] ∧
      Run.answers perform fresh (calls.filter (!·.names 1)) =
        [.done, .done, .done, .done, .done, .evicted (some 2), .number 1, .evicted (some 0), .done,
          .number 0] ∧
      List.Forall₂ (AgreesBesides 1)
        ((Run.moments perform fresh calls).filter (!·.2.names 1))
        (Run.moments perform fresh (calls.filter (!·.names 1))) := by
  intro fresh calls
  have created : create 3 2 = .ok fresh := rfl
  have spared : .evicted (some 1) ∉ Run.answers perform fresh calls := by decide
  exact ⟨created, spared, by decide, by decide, by decide,
    answers_without_frame created calls 1 spared⟩

end Replacer

end PageBuffer
