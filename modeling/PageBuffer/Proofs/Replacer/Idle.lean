import PageBuffer.Proofs.Replacer.Refinement

/-!
Calls that do nothing to a replacer.

A call that fails, that finds no frame to work on, or that asks for what is so already leaves the
clock, the count and every window alone.  Such calls may be left out of a run.
-/

namespace PageBuffer.Replacer

variable {replacer fresh : Replacer} {capacity k : Nat} {frame : FrameId} {error : BufferError}
  {call : Call}

section Refusing

/-- The range check on machine words.  The sign is looked at before the number is read as an
unsigned word. -/
def isOutside (capacity : UInt64) (frame : Int64) : Bool :=
  frame < 0 || capacity ≤ frame.toUInt64

theorem toNat_toUInt64_of_natural {word : Int64} (natural : 0 ≤ word.toInt) :
    (word.toUInt64.toNat : Int) = word.toInt := by
  have signed : word.toInt = word.toUInt64.toBitVec.toInt := rfl
  have unsigned : word.toUInt64.toBitVec.toNat = word.toUInt64.toNat := rfl
  have bounded := word.toUInt64.toNat_lt
  rw [signed, BitVec.toInt_eq_toNat_cond] at natural ⊢
  split at natural <;> omega

theorem isOutside_iff (capacity : UInt64) (frame : Int64) :
    isOutside capacity frame = true ↔
      frame.toInt < 0 ∨ (capacity.toNat : Int) ≤ frame.toInt := by
  have negative : frame < 0 ↔ frame.toInt < 0 := Int64.lt_iff_toInt_lt
  simp only [isOutside, Bool.or_eq_true, decide_eq_true_eq, negative, UInt64.le_iff_toNat_le]
  by_cases natural : 0 ≤ frame.toInt
  · rw [← toNat_toUInt64_of_natural natural, Int.ofNat_le]
  · omega

/-- Read as an unsigned word, frame `-2` would be below the largest capacity. -/
example : isOutside 0xffffffffffffffff (-2) = true ∧
    (-2 : Int64).toUInt64 < 0xffffffffffffffff := by decide

/-- When calls are refused or find nothing, and with what answer. -/
structure Refusals (replacer : Replacer) : Prop where
  touch_iff : ∀ frame error, (replacer.touch frame).answer = .error error ↔
    (frame < 0 ∨ (replacer.capacity : Int) ≤ frame) ∧
      error = .invalidFrame frame replacer.capacity
  touch_word_iff : ∀ (capacity : UInt64) (frame : Int64), capacity.toNat = replacer.capacity →
    ((replacer.touch frame.toInt).answer ≠ .ok () ↔ isOutside capacity frame = true)
  release_iff : ∀ frame error, (replacer.release frame).answer = .error error ↔
    (∃ tracked, replacer.lookup frame = some tracked ∧ tracked.evictable = false) ∧
      error = .removeNonEvictable frame
  evict_iff : replacer.evict.answer = none ↔ replacer.evictableCount = 0

theorem touch_eq_ok_iff :
    (replacer.touch frame).answer = .ok () ↔ 0 ≤ frame ∧ frame < replacer.capacity := by
  constructor
  · intro answered
    by_contra outOfRange
    rw [touch_of_outOfRange outOfRange] at answered
    cases answered
  · intro inRange
    exact (touch_of_inRange inRange).1

theorem touch_ne_ok_iff :
    (replacer.touch frame).answer ≠ .ok () ↔ frame < 0 ∨ (replacer.capacity : Int) ≤ frame := by
  rw [ne_eq, touch_eq_ok_iff, not_and_or, Int.not_le, Int.not_lt]

theorem touch_eq_error_iff : (replacer.touch frame).answer = .error error ↔
    (frame < 0 ∨ (replacer.capacity : Int) ≤ frame) ∧
      error = .invalidFrame frame replacer.capacity := by
  rw [← touch_ne_ok_iff]
  by_cases inRange : 0 ≤ frame ∧ frame < replacer.capacity
  · simp [(touch_of_inRange inRange).1]
  · simp [touch_of_outOfRange inRange, eq_comm]

theorem release_eq_error_iff : (replacer.release frame).answer = .error error ↔
    (∃ tracked, replacer.lookup frame = some tracked ∧ tracked.evictable = false) ∧
      error = .removeNonEvictable frame := by
  by_cases unpinned :
      ∀ tracked, replacer.lookup frame = some tracked → tracked.evictable = true
  · rw [(release_of_unpinned unpinned).1]
    simp only [reduceCtorEq, false_iff, not_and]
    rintro ⟨tracked, present, pinned⟩
    rw [unpinned tracked present] at pinned
    cases pinned
  · push Not at unpinned
    obtain ⟨tracked, present, pinned⟩ := unpinned
    rw [ne_eq, Bool.not_eq_true] at pinned
    rw [release_of_pinned present pinned, Except.error.injEq, eq_comm, iff_and_self]
    exact fun _ => ⟨tracked, present, pinned⟩

theorem Keeps.refusals {admissions : List Admission} (keeps : Keeps replacer admissions) :
    Refusals replacer where
  touch_iff _ _ := touch_eq_error_iff
  touch_word_iff capacity frame same := by
    rw [isOutside_iff, same, touch_ne_ok_iff]
  release_iff _ _ := release_eq_error_iff
  evict_iff := by rw [answer_evict, keeps.victim?_eq_none_iff]

end Refusing

/-- The call fails, finds no frame to work on, or sets what is set already. -/
def isIdle (replacer : Replacer) : Call → Bool
  | .touch frame => (replacer.touch frame).answer ≠ .ok ()
  | .mark frame evictable => (replacer.lookup frame).all (·.evictable = evictable)
  | .evict => replacer.evict.answer = none
  | .release frame => (replacer.release frame).answer ≠ .ok () ∨ replacer.lookup frame = none
  | .size | .capacity | .k => false

/-- The calls of a run that are not idle where they come. -/
def effective (replacer : Replacer) (calls : List Call) : List Call :=
  ((Run.moments perform replacer calls).filter fun (reached, call) => !reached.isIdle call).map
    (·.2)

theorem Does.state_eq_of_idle {outcome : Outcome Replacer Event Answer}
    (does : Does replacer call outcome) (idle : replacer.isIdle call = true) :
    outcome.state = replacer := by
  cases does with
  | touched inRange => simp [isIdle, (touch_of_inRange inRange).1] at idle
  | @marked frame evictable =>
      rw [mark]
      cases present : replacer.lookup frame with
      | none => rfl
      | some tracked =>
          have already : tracked.evictable = evictable := by simpa [isIdle, present] using idle
          exact if_pos already
  | evicted victim => simp [isIdle, answer_evict, victim] at idle
  | released present evictable => simp [isIdle, release, present, evictable] at idle
  | _ => rfl

theorem state_perform_of_idle (idle : replacer.isIdle call = true) :
    (perform call replacer).state = replacer :=
  (does call replacer).state_eq_of_idle idle

theorem effective_cons_of_idle (idle : replacer.isIdle call = true) (rest : List Call) :
    effective replacer (call :: rest) = effective replacer rest := by
  simp [effective, idle, state_perform_of_idle idle]

theorem effective_cons_of_not_idle (works : replacer.isIdle call = false) (rest : List Call) :
    effective replacer (call :: rest) = call :: effective (perform call replacer).state rest := by
  simp [effective, works]

/-- Without the idle calls the others are made in the same states. -/
theorem moments_effective (replacer : Replacer) (calls : List Call) :
    Run.moments perform replacer (effective replacer calls) =
      (Run.moments perform replacer calls).filter fun (reached, call) => !reached.isIdle call := by
  induction calls generalizing replacer with
  | nil => rfl
  | cons call rest inductionHypothesis =>
      cases idle : replacer.isIdle call with
      | true =>
          rw [effective_cons_of_idle idle, inductionHypothesis]
          simp [idle, state_perform_of_idle idle]
      | false =>
          rw [effective_cons_of_not_idle idle, Run.moments_cons, inductionHypothesis]
          simp [idle]

theorem finalState_effective (replacer : Replacer) (calls : List Call) :
    Run.finalState perform replacer (effective replacer calls) =
      Run.finalState perform replacer calls := by
  induction calls generalizing replacer with
  | nil => rfl
  | cons call rest inductionHypothesis =>
      cases idle : replacer.isIdle call with
      | true =>
          rw [effective_cons_of_idle idle, inductionHypothesis, Run.finalState_cons,
            state_perform_of_idle idle]
      | false =>
          rw [effective_cons_of_not_idle idle, Run.finalState_cons, inductionHypothesis,
            Run.finalState_cons]

/-- In any state that a replacer reaches its calls fail exactly as said in `Refusals`.  The idle
calls of a run may be left out of it: the other calls come to the same, what they log included, and
so does the run. -/
theorem idle_calls_leave_no_trace (created : create capacity k = .ok fresh) (calls : List Call) :
    (∀ replacer ∈ Run.states perform fresh calls,
        replacer.capacity = capacity ∧ Refusals replacer) ∧
      Run.outcomes perform fresh (effective fresh calls) =
        ((Run.moments perform fresh calls).filter fun (reached, call) =>
          !reached.isIdle call).map (fun (reached, call) => perform call reached) ∧
      Run.finalState perform fresh (effective fresh calls) =
        Run.finalState perform fresh calls := by
  refine ⟨?_, ?_, finalState_effective fresh calls⟩
  · intro replacer member
    obtain ⟨⟨_, follows⟩, sameCapacity, _⟩ := follows_of_reached created calls replacer member
    exact ⟨sameCapacity, follows.keeps.refusals⟩
  · rw [Run.outcomes_eq_map_moments, moments_effective]

/-- Nine of thirteen calls are idle, each in its own way.  Frame `2` is given up with the one access
that it has had, and its next access is stamped `1`. -/
theorem idle_calls_leave_no_trace_nine :
    let fresh : Replacer := { capacity := 3, k := 2 }
    let calls : List Call :=
      [.touch 3, .touch (-1), .evict, .touch 2, .mark 2 false, .release 2, .mark 0 true, .release 1,
        .mark 2 true, .mark 2 true, .evict, .evict, .touch 2]
    create 3 2 = .ok fresh ∧
      effective fresh calls = [.touch 2, .mark 2 true, .evict, .touch 2] ∧
      Run.answers perform fresh (effective fresh calls) =
        [.done, .done, .evicted (some 2), .done] ∧
      Run.outcomes perform fresh (effective fresh calls) =
        ((Run.moments perform fresh calls).filter fun (reached, call) =>
          !reached.isIdle call).map (fun (reached, call) => perform call reached) ∧
      Run.finalState perform fresh calls =
        { capacity := 3, k := 2, clock := 2,
          tracked := [{ frame := 2, window := [1], evictable := false }] } := by
  intro fresh calls
  have created : create 3 2 = .ok fresh := rfl
  obtain ⟨_, outcomes, final⟩ := idle_calls_leave_no_trace created calls
  exact ⟨created, by decide, by decide, outcomes, final.symm.trans (by decide)⟩

end PageBuffer.Replacer
