import PageBuffer.Proofs.Replacer.Steps
import PageBuffer.Proofs.Simulation

/-!
A replacer with bounded windows answers as the one that never forgets an access.
-/

namespace PageBuffer.Replacer

variable {replacer : Replacer} {chronicle : Chronicle} {frame : FrameId}

/-- A replacer that keeps what a chronicle has written down. -/
structure Follows (replacer : Replacer) (chronicle : Chronicle) : Prop where
  keeps : Keeps replacer chronicle.admissions
  capacity_eq : replacer.capacity = chronicle.capacity
  k_eq : replacer.k = chronicle.k
  clock_eq : replacer.clock = chronicle.clock

theorem follows_create {capacity k : Nat} {fresh : Replacer}
    (created : create capacity k = .ok fresh) : Follows fresh { capacity, k } := by
  have keeps := keeps_create created
  obtain ⟨positive, rfl⟩ := eq_of_create created
  exact ⟨keeps, rfl, rfl, rfl⟩

namespace Chronicle

theorem not_mem_frames_of_lookup_eq_none (absent : chronicle.lookup frame = none) :
    frame ∉ chronicle.admissions.map (·.frame) := by
  intro member
  rcases List.mem_map.mp member with ⟨known, stored, rfl⟩
  simpa using List.find?_eq_none.mp absent known stored

theorem mem_of_lookup_eq_some {known : Admission} (found : chronicle.lookup frame = some known) :
    known ∈ chronicle.admissions ∧ known.frame = frame :=
  ⟨List.mem_of_find?_eq_some found, by simpa using List.find?_some found⟩

theorem victim?_eq_some {best : Admission} (stored : best ∈ chronicle.admissions)
    (evictable : best.evictable = true)
    (first : ∀ other ∈ chronicle.admissions, other.evictable = true → other ≠ best →
      History.precedes chronicle.k best.history other.history = true) :
    chronicle.victim? = some best := by
  apply History.find?_unpreceded (List.mem_filter.mpr ⟨stored, evictable⟩)
  intro other member
  rcases List.mem_filter.mp member with ⟨otherStored, otherEvictable⟩
  exact first other otherStored otherEvictable

theorem victim?_eq_none (pinned : ∀ other ∈ chronicle.admissions, other.evictable = false) :
    chronicle.victim? = none := by
  have noneEvictable : chronicle.evictables = [] := by
    simpa [evictables, List.filter_eq_nil_iff] using pinned
  rw [victim?, noneEvictable]
  rfl

end Chronicle

namespace Follows

variable (follows : Follows replacer chronicle)

include follows

theorem touch (frame : FrameId) :
    Answer.ofResult (replacer.touch frame).answer = (chronicle.touch frame).1 ∧
      Follows (replacer.touch frame).state (chronicle.touch frame).2 := by
  by_cases inRange : 0 ≤ frame ∧ frame < replacer.capacity
  case neg =>
    rw [touch_of_outOfRange inRange, Chronicle.touch, ← follows.capacity_eq, if_neg inRange]
    exact ⟨rfl, follows⟩
  case pos =>
    rcases touch_of_inRange inRange with ⟨answer, clockEq, _, _⟩
    rw [answer, Chronicle.touch, ← follows.capacity_eq, if_pos inRange]
    refine ⟨rfl, ?_, ?_, ?_, ?_⟩
    case refine_2 => exact (capacity_touch _ _).trans follows.capacity_eq
    case refine_3 => exact (k_touch _ _).trans follows.k_eq
    case refine_4 => rw [clockEq, follows.clock_eq]
    case refine_1 =>
      cases found : chronicle.lookup frame with
      | none =>
          rw [← follows.clock_eq]
          exact follows.keeps.touch_new inRange
            (Chronicle.not_mem_frames_of_lookup_eq_none found)
      | some known =>
          rcases Chronicle.mem_of_lookup_eq_some found with ⟨stored, rfl⟩
          rw [← follows.clock_eq]
          exact follows.keeps.touch_known inRange stored

theorem mark (frame : FrameId) (evictable : Bool) :
    Follows (replacer.mark frame evictable) (chronicle.mark frame evictable) := by
  unfold Chronicle.mark
  cases found : chronicle.lookup frame with
  | none =>
      have absent := Chronicle.not_mem_frames_of_lookup_eq_none found
      rw [follows.keeps.mark_absent absent]
      exact follows
  | some known =>
      rcases Chronicle.mem_of_lookup_eq_some found with ⟨stored, rfl⟩
      constructor
      case keeps => exact follows.keeps.mark_known stored evictable
      case capacity_eq => exact (capacity_mark _ _ _).trans follows.capacity_eq
      case k_eq => exact (k_mark _ _ _).trans follows.k_eq
      case clock_eq => exact (clock_mark _ _ _).trans follows.clock_eq

theorem forget {known : Admission} (stored : known ∈ chronicle.admissions)
    (evictable : known.evictable = true) :
    Follows (replacer.forget known.frame)
      { chronicle with admissions := chronicle.without known.frame } where
  keeps := follows.keeps.forget stored evictable
  capacity_eq := follows.capacity_eq
  k_eq := follows.k_eq
  clock_eq := follows.clock_eq

theorem evict :
    Answer.evicted replacer.evict.answer = chronicle.evict.1 ∧
      Follows replacer.evict.state chronicle.evict.2 := by
  unfold Replacer.evict Chronicle.evict
  rcases follows.keeps.victim?_cases with
    ⟨noVictim, pinned⟩ | ⟨best, stored, evictable, chosen, first⟩
  · rw [noVictim, Chronicle.victim?_eq_none pinned]
    exact ⟨rfl, follows⟩
  · rw [follows.k_eq] at first
    rw [chosen, Chronicle.victim?_eq_some stored evictable first]
    exact ⟨rfl, follows.forget stored evictable⟩

theorem release (frame : FrameId) :
    Answer.ofResult (replacer.release frame).answer = (chronicle.release frame).1 ∧
      Follows (replacer.release frame).state (chronicle.release frame).2 := by
  unfold Chronicle.release
  cases found : chronicle.lookup frame with
  | none =>
      rw [follows.keeps.release_absent (Chronicle.not_mem_frames_of_lookup_eq_none found)]
      exact ⟨rfl, follows⟩
  | some known =>
      rcases Chronicle.mem_of_lookup_eq_some found with ⟨stored, rfl⟩
      cases evictable : known.evictable with
      | true =>
          rw [follows.keeps.release_evictable stored evictable]
          simp only [evictable, if_true]
          exact ⟨rfl, follows.forget stored evictable⟩
      | false =>
          rw [follows.keeps.release_pinned stored evictable]
          simp only [evictable, Bool.false_eq_true, if_false]
          exact ⟨rfl, follows⟩

theorem evictableCount_eq : replacer.evictableCount = chronicle.evictables.length := by
  rw [follows.keeps.evictableCount_eq, List.countP_eq_length_filter]
  rfl

/-- Each call is answered as by the chronicle, which the replacer goes on following. -/
theorem perform (call : Call) :
    Run.Matches Follows id (Replacer.perform call replacer) (Chronicle.perform call chronicle) := by
  cases call with
  | touch frame => exact ⟨(follows.touch frame).1, (follows.touch frame).2⟩
  | mark frame evictable => exact ⟨rfl, follows.mark frame evictable⟩
  | evict => exact ⟨follows.evict.1, follows.evict.2⟩
  | release frame => exact ⟨(follows.release frame).1, (follows.release frame).2⟩
  | size => exact ⟨congrArg Answer.number follows.evictableCount_eq, follows⟩
  | capacity => exact ⟨congrArg Answer.number follows.capacity_eq, follows⟩
  | k => exact ⟨congrArg Answer.number follows.k_eq, follows⟩

end Follows

section Reached

variable {capacity k : Nat} {fresh : Replacer}

@[simp]
theorem capacity_perform (call : Call) (replacer : Replacer) :
    (perform call replacer).state.capacity = replacer.capacity :=
  (does call replacer).capacity_eq

@[simp]
theorem k_perform (call : Call) (replacer : Replacer) :
    (perform call replacer).state.k = replacer.k :=
  (does call replacer).k_eq

/-- In any state that a replacer reaches it follows some chronicle, and its sizes are as created. -/
theorem follows_of_reached (created : create capacity k = .ok fresh) (calls : List Call) :
    ∀ replacer ∈ Run.states perform fresh calls,
      (∃ chronicle, Follows replacer chronicle) ∧ replacer.capacity = capacity ∧
        replacer.k = k := by
  have follows := follows_create created
  have always : ∀ outcome ∈ Run.outcomes perform fresh calls, True := fun _ _ => trivial
  refine Run.forall_states perform ?_ ?_ always
  · rintro call _ reached ⟨⟨chronicle, follows⟩, sameCapacity, sameK⟩ _
    refine ⟨⟨_, (follows.perform call).related⟩, ?_, ?_⟩
    · rw [capacity_perform, sameCapacity]
    · rw [k_perform, sameK]
  · exact ⟨⟨_, follows⟩, follows.capacity_eq, follows.k_eq⟩

end Reached

/-- A replacer answers every run of calls as the chronicle that keeps complete histories does.  In
any state that it reaches no two windows have the same oldest time, so that the smaller frame number
never decides which frame to give up. -/
theorem answers_eq_answers_of_chronicle {capacity k : Nat} {fresh : Replacer}
    (created : create capacity k = .ok fresh) (calls : List Call) :
    Run.answers Replacer.perform fresh calls =
        Run.answers Chronicle.perform { capacity, k } calls ∧
      (∀ tracked ∈ (Run.finalState Replacer.perform fresh calls).tracked, tracked.window ≠ []) ∧
      ((Run.finalState Replacer.perform fresh calls).tracked.map (·.window.head?)).Nodup := by
  have start := follows_create created
  have step : ∀ call replacer chronicle, Follows replacer chronicle → True →
      Run.Matches Follows id (Replacer.perform call replacer) (Chronicle.perform call chronicle) :=
    fun call _ _ follows _ => follows.perform call
  have allowed : Run.Allowed Chronicle.perform (fun _ _ => True) { capacity, k } calls :=
    fun _ _ _ _ => trivial
  have answers := Run.answers_eq_map step start allowed
  have final := (Run.related_finalState step start allowed).keeps
  exact ⟨answers.trans (List.map_id _), final.window_ne_nil, final.nodup_fronts⟩

/-- Frame `1` is given up for its single access, then frame `2` for its second latest access before
that of frame `0`, although frame `0` was accessed first. -/
theorem answers_eq_answers_of_chronicle_two_back :
    let fresh : Replacer := { capacity := 3, k := 2 }
    let calls : List Call :=
      [.touch 0, .touch 2, .touch 2, .touch 0, .touch 0, .touch 1, .touch 3, .mark 0 true,
        .mark 1 true, .mark 2 true, .size, .evict, .evict, .release 0, .evict]
    create 3 2 = .ok fresh ∧
      Run.answers Chronicle.perform { capacity := 3, k := 2 } calls =
        [.done, .done, .done, .done, .done, .done, .failed (.invalidFrame 3 3), .done, .done,
          .done, .number 3, .evicted (some 1), .evicted (some 2), .done, .evicted none] ∧
      Run.answers Replacer.perform fresh calls =
        Run.answers Chronicle.perform { capacity := 3, k := 2 } calls ∧
      (∀ tracked ∈ (Run.finalState Replacer.perform fresh calls).tracked, tracked.window ≠ []) ∧
      ((Run.finalState Replacer.perform fresh calls).tracked.map (·.window.head?)).Nodup := by
  intro fresh calls
  have created : create 3 2 = .ok fresh := rfl
  exact ⟨created, by decide, answers_eq_answers_of_chronicle created calls⟩

end PageBuffer.Replacer
