import PageBuffer.Proofs.Replacer.Stamping

/-!
Giving up every frame that may go.

Each eviction takes the evictable frame that precedes all the others, so that the frames go in the
k-distance order, all of them and each once.  The count of evictable frames tells beforehand how many
evictions there are, and pinned frames stay as they are.
-/

namespace PageBuffer.Replacer

variable {replacer fresh : Replacer} {capacity k : Nat} {frame : FrameId}
  {history : FrameId → History} {admissions : List Admission}

section Drain

theorem drain_of_stuck (noVictim : replacer.victim? = none) : replacer.drain = ⟨[], replacer, []⟩ := by
  rw [drain]
  split
  · rfl
  · rename_i frame evicted
    rw [answer_evict, noVictim] at evicted
    cases evicted

theorem drain_of_victim (victim : replacer.victim? = some frame) :
    replacer.drain = ⟨frame :: (replacer.forget frame).drain.answer,
      (replacer.forget frame).drain.state,
      .evicted frame (replacer.evictableCount - 1) :: (replacer.forget frame).drain.events⟩ := by
  have evicted : replacer.evict =
      ⟨some frame, replacer.forget frame, [.evicted frame (replacer.evictableCount - 1)]⟩ := by
    rw [evict, victim]
    rfl
  rw [drain]
  split
  · rename_i noVictim
    rw [answer_evict, victim] at noVictim
    cases noVictim
  · rename_i other otherEvicted
    rw [answer_evict, victim, Option.some.injEq] at otherEvicted
    rw [evicted, otherEvicted]
    rfl

theorem length_tracked_forget_lt (victim : replacer.victim? = some frame) :
    (replacer.forget frame).tracked.length < replacer.tracked.length := by
  have evicted : replacer.evict.state = replacer.forget frame := by
    rw [evict, victim]
  rw [← evicted]
  exact length_tracked_evict_lt ((answer_evict replacer).trans victim)

theorem perform_evict_of_victim (victim : replacer.victim? = some frame) :
    perform .evict replacer = ⟨.evicted (some frame), replacer.forget frame,
      [.evicted frame (replacer.evictableCount - 1)]⟩ := by
  rw [perform, evict, victim]
  rfl

theorem perform_evict_of_stuck (noVictim : replacer.victim? = none) :
    perform .evict replacer = ⟨.evicted none, replacer, []⟩ := by
  rw [perform, evict, noVictim]

/-- As many evictions as there are frames to give up, one call each, and no more. -/
structure DrainedByCalls (replacer : Replacer) (count : Nat) : Prop where
  answers_eq : Run.answers perform replacer (List.replicate count .evict) =
    replacer.drain.answer.map fun frame => .evicted (some frame)
  events_eq : Run.events perform replacer (List.replicate count .evict) = replacer.drain.events
  finalState_eq : Run.finalState perform replacer (List.replicate count .evict) =
    replacer.drain.state
  perform_evict : perform .evict replacer.drain.state = ⟨.evicted none, replacer.drain.state, []⟩

theorem drainedByCalls (replacer : Replacer) :
    DrainedByCalls replacer replacer.drain.answer.length := by
  cases victim : replacer.victim? with
  | none =>
      constructor
      all_goals simp only [drain_of_stuck victim, perform_evict_of_stuck victim]
      all_goals rfl
  | some frame =>
      have later := drainedByCalls (replacer.forget frame)
      constructor
      all_goals simp only [drain_of_victim victim, List.length_cons, List.replicate_succ,
        Run.answers_cons, Run.events_cons, Run.finalState_cons, perform_evict_of_victim victim]
      case answers_eq => rw [later.answers_eq, List.map_cons]
      case events_eq => rw [later.events_eq, List.singleton_append]
      case finalState_eq => exact later.finalState_eq
      case perform_evict => exact later.perform_evict
termination_by replacer.tracked.length
decreasing_by exact length_tracked_forget_lt victim

end Drain

section Order

/-- A list in k-distance order is that of the short histories by their first accesses, followed by
that of the long ones by their `k`-th latest. -/
structure Ranked (k : Nat) (history : FrameId → History) (early late : List FrameId) : Prop where
  early_isShort : ∀ frame ∈ early, (history frame).isShort k = true
  late_isLong : ∀ frame ∈ late, (history frame).isShort k = false
  early_pairwise : early.Pairwise fun one other =>
    History.isEarlier (history one).first? (history other).first? = true
  late_pairwise : late.Pairwise fun one other =>
    History.isEarlier ((history one).kthLatest? k) ((history other).kthLatest? k) = true

theorem exists_ranked {frames : List FrameId}
    (sorted : frames.Pairwise fun one other =>
      History.precedes k (history one) (history other) = true) :
    ∃ early late, frames = early ++ late ∧ Ranked k history early late := by
  induction sorted with
  | nil => exact ⟨[], [], rfl, ⟨by simp, by simp, .nil, .nil⟩⟩
  | @cons head rest first sorted inductionHypothesis =>
      obtain ⟨early, late, rfl, ranked⟩ := inductionHypothesis
      cases short : (history head).isShort k with
      | true =>
          refine ⟨head :: early, late, rfl, ⟨?_, ranked.late_isLong, ?_, ranked.late_pairwise⟩⟩
          · exact List.forall_mem_cons.mpr ⟨short, ranked.early_isShort⟩
          · refine List.pairwise_cons.mpr ⟨?_, ranked.early_pairwise⟩
            intro other member
            have before := first other (List.mem_append_left late member)
            rwa [History.precedes, short, ranked.early_isShort other member] at before
      | false =>
          -- A long history precedes no short one, so no short one comes after it.
          have noneEarly : early = [] := by
            apply List.eq_nil_iff_forall_not_mem.mpr
            intro other member
            have before := first other (List.mem_append_left late member)
            rw [History.precedes, short, ranked.early_isShort other member] at before
            cases before
          subst noneEarly
          refine ⟨[], head :: late, rfl, ⟨ranked.early_isShort, ?_, ranked.early_pairwise, ?_⟩⟩
          · exact List.forall_mem_cons.mpr ⟨short, ranked.late_isLong⟩
          · refine List.pairwise_cons.mpr ⟨?_, ranked.late_pairwise⟩
            intro other member
            have before := first other member
            rwa [History.precedes, short, ranked.late_isLong other member] at before

end Order

/-- The replacer with pinned frames only. -/
def emptied (replacer : Replacer) : Replacer :=
  { replacer with tracked := replacer.tracked.filter (!·.evictable), evictableCount := 0 }

/-- What the evictions of these frames log, where `count` frames are evictable at first. -/
def departures (count : Nat) (frames : List FrameId) : List Event :=
  frames.mapIdx fun index frame => .evicted frame (count - (index + 1))

theorem departures_cons (count : Nat) (frame : FrameId) (rest : List FrameId) :
    departures count (frame :: rest) =
      .evicted frame (count - 1) :: departures (count - 1) rest := by
  simp only [departures, List.mapIdx_cons, Nat.zero_add, Nat.sub_sub, Nat.add_comm 1]

namespace Keeps

theorem emptied_of_stuck (keeps : Keeps replacer admissions)
    (noVictim : replacer.victim? = none) : replacer.emptied = replacer := by
  have noneEvictable := keeps.victim?_eq_none_iff.mp noVictim
  have all : replacer.tracked.filter (!·.evictable) = replacer.tracked := by
    rw [keeps.evictableCount_eq_countP, List.countP_eq_zero] at noneEvictable
    rw [List.filter_eq_self]
    intro tracked stored
    simpa using noneEvictable tracked stored
  rw [emptied, all, ← noneEvictable]

theorem emptied_forget {known : Admission} (keeps : Keeps replacer admissions)
    (stored : known ∈ admissions) (evictable : known.evictable = true) :
    (replacer.forget known.frame).emptied = replacer.emptied := by
  have same : (replacer.tracked.filter (·.frame ≠ known.frame)).filter (!·.evictable) =
      replacer.tracked.filter (!·.evictable) := by
    rw [List.filter_filter]
    apply List.filter_congr
    intro tracked member
    by_cases gone : tracked.frame = known.frame
    · have present := keeps.lookup_eq_some_iff.mpr ⟨member, gone⟩
      rw [keeps.lookup_of_mem stored, Option.some.injEq] at present
      simp [← present, evictable]
    · simp [gone]
  simp only [emptied, Replacer.forget, same]

/-- Frames are given up in k-distance order. -/
theorem exists_drain_eq {replacer : Replacer} {admissions : List Admission}
    (keeps : Keeps replacer admissions) :
    ∃ order : List Admission, order.Perm (admissions.filter (·.evictable)) ∧
      (order.Pairwise fun one other =>
        History.precedes replacer.k one.history other.history = true) ∧
      replacer.drain = ⟨order.map (·.frame), replacer.emptied,
        departures replacer.evictableCount (order.map (·.frame))⟩ := by
  rcases keeps.victim?_cases with ⟨noVictim, pinned⟩ | ⟨best, stored, evictable, victim, first⟩
  · have noneEvictable : admissions.filter (·.evictable) = [] := by
      rw [List.filter_eq_nil_iff]
      intro known member
      simp [pinned known member]
    refine ⟨[], by rw [noneEvictable], .nil, ?_⟩
    rw [drain_of_stuck noVictim, keeps.emptied_of_stuck noVictim]
    rfl
  · -- What is drained after the victim is the order of all the others, which the victim precedes.
    obtain ⟨order, perm, sorted, drained⟩ := (keeps.forget stored evictable).exists_drain_eq
    have others := keeps.apart.perm_cons stored
    refine ⟨best :: order, ?_, ?_, ?_⟩
    · apply List.Perm.trans _ (others.filter _).symm
      rw [List.filter_cons_of_pos evictable]
      exact perm.cons best
    · refine List.pairwise_cons.mpr ⟨?_, sorted⟩
      intro other member
      rcases List.mem_filter.mp (perm.mem_iff.mp member) with ⟨inRest, otherEvictable⟩
      rcases List.mem_filter.mp inRest with ⟨otherStored, different⟩
      refine first other otherStored otherEvictable ?_
      rintro rfl
      simp at different
    · rw [drain_of_victim victim, drained, keeps.emptied_forget stored evictable, List.map_cons,
        departures_cons]
      rfl
termination_by replacer.tracked.length
decreasing_by exact length_tracked_forget_lt victim

/-- Pinned frames are known as before, and no others. -/
theorem lookup_emptied (keeps : Keeps replacer admissions) (frame : FrameId) :
    replacer.emptied.lookup frame = (replacer.lookup frame).filter (!·.evictable) := by
  apply Option.ext
  intro tracked
  rw [lookup, emptied, Keyed.find?_eq_some_iff (Keyed.nodup_filter keeps.nodup_frames _),
    Option.filter_eq_some_iff, keeps.lookup_eq_some_iff, List.mem_filter, and_right_comm]

end Keeps

/-- The tracked frames with all the accesses since they were admitted. -/
def admissionsOf (history : FrameId → History) (replacer : Replacer) : List Admission :=
  replacer.tracked.map fun tracked => ⟨tracked.frame, history tracked.frame, tracked.evictable⟩

theorem map_frame_filter_admissionsOf (history : FrameId → History) (replacer : Replacer) :
    ((admissionsOf history replacer).filter (·.evictable)).map (·.frame) =
      (replacer.tracked.filter (·.evictable)).map (·.frame) := by
  rw [admissionsOf, List.filter_map, List.map_map]
  rfl

theorem Dated.keeps (dated : Dated history replacer) (keeps : Keeps replacer admissions) :
    Keeps replacer (admissionsOf history replacer) := by
  have present : ∀ tracked ∈ replacer.tracked, replacer.lookup tracked.frame = some tracked :=
    fun tracked stored => keeps.lookup_eq_some_iff.mpr ⟨stored, rfl⟩
  constructor
  case apart =>
    constructor
    case distinct =>
      rw [admissionsOf, List.map_map]
      exact keeps.nodup_frames
    case accessed =>
      intro admission member
      obtain ⟨tracked, stored, rfl⟩ := List.mem_map.mp member
      exact (dated.isSome_iff _).mp (present tracked stored ▸ rfl)
    case past =>
      intro admission member time
      obtain ⟨tracked, _, rfl⟩ := List.mem_map.mp member
      exact dated.past tracked.frame time
    case disjoint =>
      intro one member other otherMember different
      obtain ⟨tracked, _, rfl⟩ := List.mem_map.mp member
      obtain ⟨otherTracked, _, rfl⟩ := List.mem_map.mp otherMember
      exact dated.disjoint _ _ different
  case tracked_perm =>
    have kept : (admissionsOf history replacer).map (·.tracked replacer.k) = replacer.tracked := by
      rw [admissionsOf, List.map_map, List.map_congr_left (g := id), List.map_id]
      intro tracked stored
      simp [Admission.tracked, ← dated.window_of_present (present tracked stored)]
    rw [kept]
  case evictableCount_eq =>
    rw [keeps.evictableCount_eq_countP, admissionsOf, List.countP_map]
    rfl

/-- What becomes of a replacer whose frames are given up until there is none to give up.  The
history of a frame has all its accesses since it was admitted. -/
structure Drains (k : Nat) (history : FrameId → History) (replacer : Replacer) : Prop where
  ranked : ∃ early late, replacer.drain.answer = early ++ late ∧ Ranked k history early late
  nodup : replacer.drain.answer.Nodup
  mem_iff : ∀ frame, frame ∈ replacer.drain.answer ↔
    ∃ tracked, replacer.lookup frame = some tracked ∧ tracked.evictable = true
  length_eq : replacer.drain.answer.length = replacer.evictableCount
  events_eq : replacer.drain.events = departures replacer.evictableCount replacer.drain.answer
  drainedByCalls : DrainedByCalls replacer replacer.evictableCount
  evictableCount_eq : replacer.drain.state.evictableCount = 0
  lookup_eq : ∀ frame, replacer.drain.state.lookup frame =
    (replacer.lookup frame).filter (!·.evictable)
  state_eq : replacer.drain.state = replacer.emptied

theorem Dated.perm_drain (dated : Dated history replacer) (keeps : Keeps replacer admissions) :
    replacer.drain.answer.Perm ((replacer.tracked.filter (·.evictable)).map (·.frame)) := by
  obtain ⟨order, perm, _, drained⟩ := (dated.keeps keeps).exists_drain_eq
  rw [drained, ← map_frame_filter_admissionsOf history]
  exact perm.map _

theorem Dated.mem_drain_iff (dated : Dated history replacer) (keeps : Keeps replacer admissions)
    (frame : FrameId) : frame ∈ replacer.drain.answer ↔
      ∃ tracked, replacer.lookup frame = some tracked ∧ tracked.evictable = true := by
  simp only [(dated.perm_drain keeps).mem_iff, List.mem_map, List.mem_filter,
    keeps.lookup_eq_some_iff]
  constructor
  · rintro ⟨tracked, ⟨stored, evictable⟩, same⟩
    exact ⟨tracked, ⟨stored, same⟩, evictable⟩
  · rintro ⟨tracked, ⟨stored, same⟩, evictable⟩
    exact ⟨tracked, ⟨stored, evictable⟩, same⟩

/-- Each frame is given up before all those that it precedes. -/
theorem Dated.pairwise_drain (dated : Dated history replacer) (keeps : Keeps replacer admissions) :
    replacer.drain.answer.Pairwise fun one other =>
      History.precedes replacer.k (history one) (history other) = true := by
  obtain ⟨order, perm, sorted, drained⟩ := (dated.keeps keeps).exists_drain_eq
  have historyOf : ∀ admission ∈ order, admission.history = history admission.frame := by
    intro admission member
    obtain ⟨tracked, _, rfl⟩ := List.mem_map.mp (List.mem_of_mem_filter (perm.mem_iff.mp member))
    rfl
  rw [drained, List.pairwise_map]
  refine sorted.imp_of_mem ?_
  intro one other member otherMember before
  rwa [← historyOf one member, ← historyOf other otherMember]

theorem Dated.drains (dated : Dated history replacer) (keeps : Keeps replacer admissions) :
    Drains replacer.k history replacer := by
  obtain ⟨order, _, _, drained⟩ := (dated.keeps keeps).exists_drain_eq
  have frames := dated.perm_drain keeps
  have length : replacer.drain.answer.length = replacer.evictableCount := by
    rw [frames.length_eq, List.length_map, keeps.evictableCount_eq_countP,
      List.countP_eq_length_filter]
  constructor
  case ranked => exact exists_ranked (dated.pairwise_drain keeps)
  case nodup => exact frames.nodup_iff.mpr (Keyed.nodup_filter keeps.nodup_frames _)
  case mem_iff => exact dated.mem_drain_iff keeps
  case length_eq => exact length
  case events_eq => rw [drained]
  case drainedByCalls =>
    rw [← length]
    exact Replacer.drainedByCalls replacer
  case evictableCount_eq =>
    rw [drained]
    rfl
  case lookup_eq =>
    rw [drained]
    exact keeps.lookup_emptied
  case state_eq => rw [drained]

/-- Let any run of calls have led to a replacer.  Evicting until there is no victim gives up the
evictable frames and no others, in k-distance order, and leaves the pinned ones as they are. -/
theorem drains_after_any_run (created : create capacity k = .ok fresh) (calls : List Call) :
    Drains k (fun frame => stampsOf frame (trace fresh calls))
      (Run.finalState perform fresh calls) := by
  obtain ⟨⟨_, follows⟩, _, sameK⟩ :=
    follows_of_reached created calls _ (Run.finalState_mem_states perform fresh calls)
  have drains := ((dated_create created).run calls).drains follows.keeps
  rwa [sameK] at drains

/-- Frame `2` has been accessed once only, frame `0` twice, frame `1` before and after that, and
frame `3` is pinned. -/
theorem drains_after_any_run_three_of_four :
    let fresh : Replacer := { capacity := 4, k := 2 }
    let calls : List Call :=
      [.touch 1, .touch 0, .touch 0, .touch 1, .touch 1, .touch 2, .touch 3, .mark 0 true,
        .mark 1 true, .mark 2 true]
    let replacer := Run.finalState perform fresh calls
    create 4 2 = .ok fresh ∧ replacer.evictableCount = 3 ∧
      replacer.drain.answer = [2, 0, 1] ∧
      replacer.drain.events = [.evicted 2 2, .evicted 0 1, .evicted 1 0] ∧
      replacer.drain.state =
        { capacity := 4, k := 2, clock := 7
          tracked := [{ frame := 3, window := [6], evictable := false }] } ∧
      Drains 2 (fun frame => stampsOf frame (trace fresh calls)) replacer := by
  intro fresh calls replacer
  have created : create 4 2 = .ok fresh := rfl
  exact ⟨created, by decide, by decide +kernel, by decide +kernel, by decide +kernel,
    drains_after_any_run created calls⟩

end PageBuffer.Replacer
