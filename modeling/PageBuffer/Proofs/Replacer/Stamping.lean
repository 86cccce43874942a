import Mathlib.Data.List.Perm.Subperm
import PageBuffer.Proofs.Replacer.Refinement
import PageBuffer.Proofs.Replacer.Steps
import PageBuffer.Threads

/-!
What a replacer knows of its frames, whatever threads have called.

Accesses are stamped in the order in which they take effect.  A window holds the last stamps that
its frame was given since it was given up, and a frame is tracked as long as it has any.
-/

namespace PageBuffer.Replacer

/-- The time at which an access took effect. -/
def Event.stamp? : Event → Option Nat
  | .accessed _ time => some time
  | _ => none

/-- A call and what came of it. -/
structure Made where
  call : Call
  outcome : Outcome Replacer Event Answer
  deriving DecidableEq, Repr

namespace Made

/-- The stamps that were given, as the log has them. -/
def stamps (made : Made) : List Nat :=
  made.outcome.events.filterMap (·.stamp?)

/-- Whether this is an access that succeeded. -/
def isAccess (made : Made) : Bool :=
  match made.call, made.outcome.answer with
  | .touch _, .done => true
  | _, _ => false

/-- What becomes of the stamps that a frame was given since it was last given up. -/
def advance (frame : FrameId) (history : History) (made : Made) : History :=
  match made.call, made.outcome.answer with
  | .touch named, .done => if named = frame then history ++ made.stamps else history
  | .evict, .evicted victim => if victim = some frame then [] else history
  | .release named, .done => if named = frame then [] else history
  | _, _ => history

end Made

/-- The calls of a run, with what came of each. -/
def trace (replacer : Replacer) (calls : List Call) : List Made :=
  List.zipWith Made.mk calls (Run.outcomes perform replacer calls)

/-- The stamps that a frame was given since it was last evicted or released. -/
def stampsOf (frame : FrameId) (trace : List Made) : History :=
  trace.foldl (Made.advance frame) []

variable {replacer fresh : Replacer} {capacity k : Nat} {frame : FrameId} {call : Call}
  {outcome : Outcome Replacer Event Answer} {history : FrameId → History}

@[simp]
theorem trace_nil (replacer : Replacer) : trace replacer [] = [] := rfl

@[simp]
theorem trace_cons (replacer : Replacer) (call : Call) (rest : List Call) :
    trace replacer (call :: rest) =
      ⟨call, perform call replacer⟩ :: trace (perform call replacer).state rest := rfl

section Clock

theorem Does.stamps_eq (does : Does replacer call outcome) :
    (Made.mk call outcome).stamps =
      if (Made.mk call outcome).isAccess then [replacer.clock] else [] := by
  cases does <;> rfl

theorem Does.clock_eq (does : Does replacer call outcome) :
    outcome.state.clock = replacer.clock + if (Made.mk call outcome).isAccess then 1 else 0 := by
  cases does with
  | touched inRange => exact (touch_of_inRange inRange).2.1
  | marked => exact clock_mark _ _ _
  | _ => rfl

theorem clock_of_create (created : create capacity k = .ok fresh) : fresh.clock = 0 := by
  obtain ⟨_, rfl⟩ := eq_of_create created
  rfl

/-- The clock counts the accesses. -/
theorem clock_finalState (replacer : Replacer) (calls : List Call) :
    (Run.finalState perform replacer calls).clock =
      replacer.clock + (trace replacer calls).countP (·.isAccess) := by
  induction calls generalizing replacer with
  | nil => rfl
  | cons call rest inductionHypothesis =>
      rw [Run.finalState_cons, inductionHypothesis, (does call replacer).clock_eq, trace_cons,
        List.countP_cons]
      omega

/-- Accesses are stamped one after the other, from the time at which the run begins. -/
theorem map_stamps_accesses (replacer : Replacer) (calls : List Call) :
    ((trace replacer calls).filter (·.isAccess)).map (·.stamps) =
      (List.range' replacer.clock ((trace replacer calls).countP (·.isAccess))).map ([·]) := by
  induction calls generalizing replacer with
  | nil => rfl
  | cons call rest inductionHypothesis =>
      have later := inductionHypothesis (perform call replacer).state
      rw [(does call replacer).clock_eq] at later
      rw [trace_cons]
      cases access : (Made.mk call (perform call replacer)).isAccess with
      | true =>
          rw [access, if_pos rfl] at later
          rw [List.filter_cons_of_pos access, List.countP_cons_of_pos access, List.map_cons, later,
            (does call replacer).stamps_eq, access, List.range'_succ]
          rfl
      | false =>
          rw [access] at later
          have noAccess : ¬(Made.mk call (perform call replacer)).isAccess = true := by
            rw [access]
            exact Bool.false_ne_true
          rw [List.filter_cons_of_neg noAccess, List.countP_cons_of_neg noAccess]
          exact later

end Clock

/-- The replacer has stamped the accesses to each frame like this since the frame was given up. -/
structure Dated (history : FrameId → History) (replacer : Replacer) : Prop where
  window_eq : ∀ frame, (replacer.lookup frame).map (·.window) =
    if history frame = [] then none else some ((history frame).latest replacer.k)
  ascending : ∀ frame, (history frame).Pairwise (· < ·)
  past : ∀ frame, ∀ time ∈ history frame, time < replacer.clock
  disjoint : ∀ one other, one ≠ other → (history one).Disjoint (history other)
  inRange : ∀ frame, history frame ≠ [] → 0 ≤ frame ∧ frame < replacer.capacity

theorem dated_create (created : create capacity k = .ok fresh) : Dated (fun _ => []) fresh := by
  obtain ⟨positive, rfl⟩ := eq_of_create created
  constructor <;> simp [lookup]

namespace Dated

variable (dated : Dated history replacer)

include dated

theorem isSome_iff (frame : FrameId) : (replacer.lookup frame).isSome ↔ history frame ≠ [] := by
  have window := dated.window_eq frame
  cases found : replacer.lookup frame <;> simp_all

theorem eq_nil_of_absent (absent : replacer.lookup frame = none) : history frame = [] := by
  by_contra accessed
  simpa [absent] using (dated.isSome_iff frame).mpr accessed

theorem window_of_present {tracked : Tracked} (present : replacer.lookup frame = some tracked) :
    tracked.window = (history frame).latest replacer.k := by
  have window := dated.window_eq frame
  rw [present] at window
  split at window
  · contradiction
  · exact Option.some.inj window

theorem touch (inRange : 0 ≤ frame ∧ frame < replacer.capacity) :
    Dated (fun other => if frame = other then history other ++ [replacer.clock] else history other)
      (replacer.touch frame).state := by
  have clockEq := (touch_of_inRange inRange).2.1
  constructor
  case window_eq =>
    intro other
    rw [k_touch]
    by_cases same : frame = other
    · subst same
      rw [if_pos rfl, if_neg (by simp)]
      cases found : replacer.lookup frame with
      | none =>
          rw [lookup_touch_new inRange found, dated.eq_nil_of_absent found, List.nil_append,
            History.latest_singleton replacer.k_pos]
          rfl
      | some tracked =>
          rw [lookup_touch_known inRange found,
            History.latest_append_singleton replacer.k_pos, ← dated.window_of_present found]
          rfl
    · rw [lookup_touch_of_ne inRange (Ne.symm same), if_neg same]
      exact dated.window_eq other
  case ascending =>
    intro other
    split
    · refine List.pairwise_append.mpr ⟨dated.ascending other, List.pairwise_singleton _ _, ?_⟩
      intro time before now member
      rw [List.mem_singleton.mp member]
      exact dated.past other time before
    · exact dated.ascending other
  case past =>
    intro other time member
    rw [clockEq]
    split at member
    · rcases List.mem_append.mp member with before | now
      · exact Nat.lt_succ_of_lt (dated.past other time before)
      · rw [List.mem_singleton.mp now]
        exact Nat.lt_succ_self _
    · exact Nat.lt_succ_of_lt (dated.past other time member)
  case disjoint =>
    -- A stamp that is given now is in no other history, since those are past.
    have unused : ∀ other, (history other).Disjoint [replacer.clock] := by
      intro other time before now
      rw [List.mem_singleton.mp now] at before
      exact Nat.lt_irrefl _ (dated.past other _ before)
    intro one other different
    have apart := dated.disjoint one other different
    by_cases first : frame = one <;> by_cases second : frame = other <;>
      simp only [first, second, if_true, if_false]
    · exact absurd (first.symm.trans second) different
    · rw [if_neg different]
      exact List.disjoint_append_left.mpr ⟨apart, List.disjoint_symm (unused other)⟩
    · rw [if_neg (Ne.symm different)]
      exact List.disjoint_append_right.mpr ⟨apart, unused one⟩
    · exact apart
  case inRange =>
    intro other accessed
    rw [capacity_touch]
    split at accessed
    · rename_i same
      exact same ▸ inRange
    · exact dated.inRange other accessed

theorem mark (frame : FrameId) (evictable : Bool) :
    Dated history (replacer.mark frame evictable) where
  window_eq other := by
    rw [k_mark, ← dated.window_eq other, lookup_mark]
    split
    · rw [Option.map_map]
      rfl
    · rfl
  ascending := dated.ascending
  past := by simpa using dated.past
  disjoint := dated.disjoint
  inRange := by simpa using dated.inRange

theorem forget (frame : FrameId) :
    Dated (fun other => if frame = other then [] else history other) (replacer.forget frame) where
  window_eq other := by
    rw [lookup_forget]
    by_cases same : frame = other
    · simp [same]
    · rw [if_neg (Ne.symm same), if_neg same]
      exact dated.window_eq other
  ascending other := by
    split
    · exact .nil
    · exact dated.ascending other
  past other time member := by
    split at member
    · cases member
    · exact dated.past other time member
  disjoint one other different := by
    have apart := dated.disjoint one other different
    split
    · exact List.disjoint_nil_left _
    · split
      · exact List.disjoint_nil_right _
      · exact apart
  inRange other accessed := by
    split at accessed
    · contradiction
    · exact dated.inRange other accessed

theorem does (does : Does replacer call outcome) :
    Dated (fun frame => (Made.mk call outcome).advance frame (history frame)) outcome.state := by
  cases does with
  | touched inRange => exact dated.touch inRange
  | marked => exact dated.mark _ _
  | evicted victim =>
      simp only [Made.advance, Option.some.injEq]
      exact dated.forget _
  | @absent named absent =>
      -- There are no stamps to drop.
      have unchanged : ∀ other, (if named = other then [] else history other) = history other := by
        intro other
        split
        · rename_i same
          exact (dated.eq_nil_of_absent (same ▸ absent)).symm
        · rfl
      simp only [Made.advance, unchanged]
      exact dated
  | released => exact dated.forget _
  | _ => exact dated

theorem run (calls : List Call) :
    Dated (fun frame => (trace replacer calls).foldl (Made.advance frame) (history frame))
      (Run.finalState perform replacer calls) := by
  induction calls generalizing replacer history with
  | nil => exact dated
  | cons call rest inductionHypothesis =>
      exact inductionHypothesis (dated.does (Replacer.does call replacer))

end Dated

section Counting

variable {admissions : List Admission} (keeps : Keeps replacer admissions)

/-- By how much a call changes the number of evictable frames. -/
def countChange (replacer : Replacer) : Call → Int
  | .mark frame evictable =>
      match replacer.lookup frame with
      | none => 0
      | some tracked =>
          if tracked.evictable = evictable then 0 else if evictable then 1 else -1
  | .evict => if replacer.victim?.isSome then -1 else 0
  | .release frame => if (replacer.lookup frame).any (·.evictable) then -1 else 0
  | .touch _ | .size | .capacity | .k => 0

include keeps

theorem Keeps.evictableCount_forget {tracked : Tracked}
    (present : replacer.lookup frame = some tracked) (evictable : tracked.evictable = true) :
    ((replacer.forget frame).evictableCount : Int) = replacer.evictableCount - 1 :=
  Int.ofNat_sub (keeps.evictableCount_pos present evictable)

/-- The count goes up and down with the frames that are evictable, and never below zero. -/
theorem Does.evictableCount_eq (does : Does replacer call outcome) :
    (outcome.state.evictableCount : Int) = replacer.evictableCount + replacer.countChange call := by
  cases does with
  | touched inRange => rw [(touch_of_inRange inRange).2.2.1, countChange, Int.add_zero]
  | @marked frame evictable =>
      rw [countChange, mark]
      cases present : replacer.lookup frame with
      | none => exact (Int.add_zero _).symm
      | some tracked =>
          simp only
          split
          · exact (Int.add_zero _).symm
          · rename_i different
            cases evictable with
            | true => rfl
            | false =>
                have positive := keeps.evictableCount_pos present (by simpa using different)
                exact Int.ofNat_sub positive
  | evicted victim =>
      obtain ⟨tracked, present, evictable⟩ := keeps.lookup_of_victim victim
      rw [keeps.evictableCount_forget present evictable, countChange, victim]
      rfl
  | stuck noVictim => simp [countChange, noVictim]
  | absent absent => simp [countChange, absent]
  | released present evictable =>
      rw [keeps.evictableCount_forget present evictable, countChange, present, Option.any_some,
        evictable]
      rfl
  | refused present pinned => simp [countChange, present, pinned]
  | outside => exact (Int.add_zero _).symm
  | size => exact (Int.add_zero _).symm
  | capacity => exact (Int.add_zero _).symm
  | k => exact (Int.add_zero _).symm

end Counting

/-- What holds of a replacer after a run that came to this trace. -/
structure Orderly (capacity k : Nat) (trace : List Made) (replacer : Replacer) : Prop where
  clock_eq : replacer.clock = trace.countP (·.isAccess)
  tracked_iff : ∀ frame, (replacer.lookup frame).isSome ↔ stampsOf frame trace ≠ []
  lookup_of_mem : ∀ tracked ∈ replacer.tracked, replacer.lookup tracked.frame = some tracked
  inRange : ∀ tracked ∈ replacer.tracked, 0 ≤ tracked.frame ∧ tracked.frame < capacity
  window_eq : ∀ tracked ∈ replacer.tracked,
    tracked.window = (stampsOf tracked.frame trace).latest k
  length_window : ∀ tracked ∈ replacer.tracked,
    tracked.window.length = min k (stampsOf tracked.frame trace).length
  window_ne_nil : ∀ tracked ∈ replacer.tracked, tracked.window ≠ []
  ascending : ∀ tracked ∈ replacer.tracked, tracked.window.Pairwise (· < ·)
  past : ∀ tracked ∈ replacer.tracked, ∀ time ∈ tracked.window, time < replacer.clock
  disjoint : replacer.tracked.Pairwise fun one other => one.window.Disjoint other.window
  evictableCount_eq : replacer.evictableCount = replacer.tracked.countP (·.evictable)
  evictableCount_le : replacer.evictableCount ≤ capacity
  balanced : ∀ call, ((perform call replacer).state.evictableCount : Int) =
    replacer.evictableCount + replacer.countChange call

/-- Frames of a range of numbers, each tracked once, are not more than the numbers. -/
theorem length_tracked_le (distinct : (replacer.tracked.map (·.frame)).Nodup)
    (inRange : ∀ tracked ∈ replacer.tracked, 0 ≤ tracked.frame ∧ tracked.frame < capacity) :
    replacer.tracked.length ≤ capacity := by
  have within : replacer.tracked.map (·.frame) ⊆ (List.range capacity).map Int.ofNat := by
    intro frame member
    obtain ⟨tracked, stored, rfl⟩ := List.mem_map.mp member
    obtain ⟨natural, bounded⟩ := inRange tracked stored
    obtain ⟨number, same⟩ := Int.eq_ofNat_of_zero_le natural
    rw [same] at bounded ⊢
    exact List.mem_map_of_mem (List.mem_range.mpr (Int.ofNat_lt.mp bounded))
  simpa using (List.subperm_of_subset distinct within).length_le

theorem Dated.orderly {made : List Made} {admissions : List Admission}
    (dated : Dated (fun frame => stampsOf frame made) replacer) (keeps : Keeps replacer admissions)
    (clockEq : replacer.clock = made.countP (·.isAccess)) :
    Orderly replacer.capacity replacer.k made replacer := by
  have present : ∀ tracked ∈ replacer.tracked, replacer.lookup tracked.frame = some tracked :=
    fun tracked stored => keeps.lookup_eq_some_iff.mpr ⟨stored, rfl⟩
  have window : ∀ tracked ∈ replacer.tracked,
      tracked.window = (stampsOf tracked.frame made).latest replacer.k :=
    fun tracked stored => dated.window_of_present (present tracked stored)
  have part : ∀ tracked ∈ replacer.tracked, tracked.window.Sublist (stampsOf tracked.frame made) :=
    fun tracked stored => window tracked stored ▸ List.drop_sublist _ _
  have inRange : ∀ tracked ∈ replacer.tracked,
      0 ≤ tracked.frame ∧ tracked.frame < replacer.capacity :=
    fun tracked stored =>
      dated.inRange tracked.frame ((dated.isSome_iff _).mp (present tracked stored ▸ rfl))
  constructor
  case clock_eq => exact clockEq
  case tracked_iff => exact dated.isSome_iff
  case lookup_of_mem => exact present
  case inRange => exact inRange
  case window_eq => exact window
  case length_window =>
    intro tracked stored
    rw [window tracked stored, History.length_latest]
  case window_ne_nil => exact keeps.window_ne_nil
  case ascending => exact fun tracked stored => (dated.ascending _).sublist (part tracked stored)
  case past =>
    exact fun tracked stored time member => dated.past _ time ((part tracked stored).subset member)
  case disjoint =>
    refine (List.pairwise_map.mp keeps.nodup_frames).imp_of_mem ?_
    intro one other stored otherStored different
    exact List.disjoint_of_subset_left (part one stored).subset
      (List.disjoint_of_subset_right (part other otherStored).subset
        (dated.disjoint _ _ different))
  case evictableCount_eq => exact keeps.evictableCount_eq_countP
  case evictableCount_le =>
    rw [keeps.evictableCount_eq_countP]
    exact Nat.le_trans List.countP_le_length (length_tracked_le keeps.nodup_frames inRange)
  case balanced => exact fun call => (Replacer.does call replacer).evictableCount_eq keeps

theorem orderly_finalState (created : create capacity k = .ok fresh) (calls : List Call) :
    Orderly capacity k (trace fresh calls) (Run.finalState perform fresh calls) := by
  obtain ⟨⟨_, follows⟩, sameCapacity, sameK⟩ :=
    follows_of_reached created calls _ (Run.finalState_mem_states perform fresh calls)
  have clockEq := clock_finalState fresh calls
  rw [clock_of_create created, Nat.zero_add] at clockEq
  have orderly := ((dated_create created).run calls).orderly follows.keeps clockEq
  rwa [sameCapacity, sameK] at orderly

/-- Threads may call a replacer in any order.  The accesses that succeed are stamped `0`, `1` and
so on, in the order in which they take effect.  A schedule may end with any call, and the replacer
is then as said in `Orderly`.  Its clock and its count fit words as long as the number of accesses
and that of frames do. -/
theorem orderly_after_any_schedule {Thread : Type} (created : create capacity k = .ok fresh)
    (handles : Nat) (schedule : List (Thread × Call)) :
    let made := trace fresh (schedule.map (·.2))
    let replacer := (Threads.run perform ⟨fresh, handles⟩ schedule).2.value
    (made.filter (·.isAccess)).map (·.stamps) =
        (List.range (made.countP (·.isAccess))).map ([·]) ∧
      Orderly capacity k made replacer ∧
      (capacity < UInt64.size → made.countP (·.isAccess) < UInt64.size →
        replacer.clock < UInt64.size ∧ replacer.evictableCount < UInt64.size) := by
  intro made replacer
  have orderly : Orderly capacity k made replacer := by
    simp only [replacer, Threads.run_eq]
    exact orderly_finalState created (schedule.map (·.2))
  refine ⟨?_, orderly, fun frames accesses => ⟨?_, ?_⟩⟩
  · rw [map_stamps_accesses, clock_of_create created, List.range_eq_range']
  · rw [orderly.clock_eq]
    exact accesses
  · exact Nat.lt_of_le_of_lt orderly.evictableCount_le frames

/-- Two threads share a replacer.  Frame `0` has been accessed three times and keeps the last two
stamps; frame `1` was evicted and has started anew. -/
theorem orderly_after_any_schedule_two :
    let fresh : Replacer := { capacity := 3, k := 2 }
    let schedule : List (Bool × Call) :=
      [(true, .touch 0), (false, .touch 1), (true, .touch 0), (false, .touch 3), (true, .touch 0),
        (false, .mark 1 true), (true, .mark 0 true), (true, .evict), (false, .touch 1),
        (true, .mark 0 false), (true, .release 0), (false, .mark 0 true), (false, .release 2)]
    let made := trace fresh (schedule.map (·.2))
    let replacer := (Threads.run perform ⟨fresh, 2⟩ schedule).2.value
    create 3 2 = .ok fresh ∧
      replacer =
        { capacity := 3, k := 2, clock := 5, evictableCount := 1,
          tracked :=
            [{ frame := 0, window := [2, 3], evictable := true },
              { frame := 1, window := [4], evictable := false }] } ∧
      stampsOf 0 made = [0, 2, 3] ∧ stampsOf 1 made = [4] ∧ stampsOf 2 made = [] ∧
      (made.filter (·.isAccess)).map (·.stamps) = [[0], [1], [2], [3], [4]] ∧
      Orderly 3 2 made replacer ∧
      replacer.clock < UInt64.size ∧ replacer.evictableCount < UInt64.size := by
  intro fresh schedule made replacer
  have created : create 3 2 = .ok fresh := rfl
  obtain ⟨stamps, orderly, fits⟩ := orderly_after_any_schedule created 2 schedule
  have accesses : made.countP (·.isAccess) = 5 := by decide
  refine ⟨created, by decide, by decide, by decide, by decide, stamps.trans ?_, orderly,
    fits (by decide) (lt_of_eq_of_lt accesses (by decide))⟩
  exact congrArg (fun count => (List.range count).map ([·])) accesses

end PageBuffer.Replacer
