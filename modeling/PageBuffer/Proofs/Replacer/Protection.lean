import Mathlib.Data.List.Induction
import PageBuffer.Proofs.Replacer.Ranking

/-!
Accesses only protect.

An access moves its frame back in the order of giving up, if at all, and no other frame against
another.  From any moment on, a frame that has been accessed `k` times comes after all those that
have not.
-/

namespace PageBuffer.Replacer

variable {replacer fresh : Replacer} {capacity k : Nat} {frame other : FrameId}
  {history : FrameId → History} {admissions : List Admission}

section Access

/-- The frame has gone back in the order, if it has moved at all, and the others stand to each other
as before. -/
structure Demotes (frame : FrameId) (order later : List FrameId) : Prop where
  perm : later.Perm order
  stays_behind : ∀ other, [other, frame].Sublist order → [other, frame].Sublist later
  erase_eq : later.erase frame = order.erase frame

theorem Keeps.exists_touch (keeps : Keeps replacer admissions)
    (inRange : 0 ≤ frame ∧ frame < replacer.capacity) :
    ∃ touched, Keeps (replacer.touch frame).state touched := by
  by_cases known : frame ∈ admissions.map (·.frame)
  · obtain ⟨admission, stored, rfl⟩ := List.mem_map.mp known
    exact ⟨_, keeps.touch_known inRange stored⟩
  · exact ⟨_, keeps.touch_new inRange known⟩

/-- An access brings its frame forward against no other frame. -/
theorem Dated.demotes (dated : Dated history replacer) (keeps : Keeps replacer admissions)
    (member : frame ∈ replacer.evictionOrder) :
    Demotes frame replacer.evictionOrder (replacer.touch frame).state.evictionOrder := by
  have ordered := dated.ordered keeps
  have accessed := (dated.isSome_iff frame).mp ((ordered.mem_iff frame).mp member)
  have inRange := dated.inRange frame accessed
  have datedLater := dated.touch inRange
  obtain ⟨touched, keepsLater⟩ := keeps.exists_touch inRange
  have orderedLater := datedLater.ordered keepsLater
  have sameMembers : ∀ other,
      other ∈ (replacer.touch frame).state.evictionOrder ↔ other ∈ replacer.evictionOrder := by
    intro other
    rw [orderedLater.mem_iff, datedLater.isSome_iff, ordered.mem_iff, dated.isSome_iff]
    by_cases same : frame = other
    · subst same
      simp [accessed]
    · rw [if_neg same]
  have perm := (List.perm_ext_iff_of_nodup orderedLater.nodup ordered.nodup).mpr sameMembers
  constructor
  case perm => exact perm
  case stays_behind =>
    intro other part
    obtain ⟨otherMember, _, before⟩ := (ordered.pair_sublist_iff other frame).mp part
    have different : frame ≠ other := by
      rintro rfl
      exact precedes_asymm history replacer.k frame frame before before
    apply (orderedLater.pair_sublist_iff other frame).mpr
    refine ⟨(sameMembers other).mpr otherMember, (sameMembers frame).mpr member, ?_⟩
    have ascending := datedLater.ascending frame
    rw [if_pos rfl] at ascending
    rw [k_touch, if_neg different, if_pos rfl]
    exact History.precedes_append_singleton replacer.k_pos ascending before
  case erase_eq =>
    -- Both are the other frames in the order of their histories, which the access has not changed.
    have others : (replacer.touch frame).state.evictionOrder.erase frame |>.Pairwise
        fun one other => History.precedes replacer.k (history one) (history other) = true := by
      refine (orderedLater.pairwise.sublist List.erase_sublist).imp_of_mem ?_
      intro one other oneMember otherMember before
      have oneDifferent := ((orderedLater.nodup.mem_erase_iff).mp oneMember).1
      have otherDifferent := ((orderedLater.nodup.mem_erase_iff).mp otherMember).1
      rwa [k_touch, if_neg (Ne.symm oneDifferent), if_neg (Ne.symm otherDifferent)] at before
    apply List.Perm.eq_of_pairwise _ others (ordered.pairwise.sublist List.erase_sublist)
      (perm.erase frame)
    intro one other _ _ before after
    exact absurd after (precedes_asymm history replacer.k one other before)

end Access

section Since

/-- What was known of a frame before a call is kept whole or dropped. -/
theorem Made.exists_advance_append (frame : FrameId) (before history : History) (made : Made) :
    ∃ kept, (kept = [] ∨ kept = before) ∧
      made.advance frame (before ++ history) = kept ++ made.advance frame history := by
  unfold Made.advance
  split
  · refine ⟨before, .inr rfl, ?_⟩
    split
    · exact List.append_assoc _ _ _
    · rfl
  · split
    · exact ⟨[], .inl rfl, rfl⟩
    · exact ⟨before, .inr rfl, rfl⟩
  · split
    · exact ⟨[], .inl rfl, rfl⟩
    · exact ⟨before, .inr rfl, rfl⟩
  · exact ⟨before, .inr rfl, rfl⟩

theorem exists_foldl_advance (frame : FrameId) (before : History) (trace : List Made) :
    ∃ kept, (kept = [] ∨ kept = before) ∧
      trace.foldl (Made.advance frame) before = kept ++ stampsOf frame trace := by
  induction trace using List.reverseRecOn with
  | nil => exact ⟨before, .inr rfl, (List.append_nil before).symm⟩
  | append_singleton trace made inductionHypothesis =>
      obtain ⟨kept, still, same⟩ := inductionHypothesis
      obtain ⟨left, stillLeft, advanced⟩ :=
        made.exists_advance_append frame kept (stampsOf frame trace)
      refine ⟨left, ?_, ?_⟩
      · rcases stillLeft with rfl | rfl
        · exact .inl rfl
        · exact still
      · rw [List.foldl_concat, same, advanced, stampsOf, stampsOf, List.foldl_concat]

theorem Made.mem_advance {time : Nat} {made : Made} {history : History}
    (member : time ∈ made.advance frame history) : time ∈ history ∨ time ∈ made.stamps := by
  unfold Made.advance at member
  split at member
  · split at member
    · exact List.mem_append.mp member
    · exact .inl member
  · split at member
    · cases member
    · exact .inl member
  · split at member
    · cases member
    · exact .inl member
  · exact .inl member

/-- The stamps of a run are no earlier than its beginning. -/
theorem clock_le_of_mem_stampsOf {time : Nat} (calls : List Call)
    (member : time ∈ stampsOf frame (trace replacer calls)) : replacer.clock ≤ time := by
  have later : ∀ (history : History) (replacer : Replacer) (calls : List Call),
      time ∈ (trace replacer calls).foldl (Made.advance frame) history →
        time ∈ history ∨ replacer.clock ≤ time := by
    intro history replacer calls
    induction calls generalizing replacer history with
    | nil => exact .inl
    | cons call rest inductionHypothesis =>
        intro member
        have clock := (does call replacer).clock_eq
        rcases inductionHypothesis _ _ member with now | after
        · rcases Made.mem_advance now with before | stamped
          · exact .inl before
          · rw [(does call replacer).stamps_eq] at stamped
            split at stamped
            · exact .inr (Nat.le_of_eq (List.mem_singleton.mp stamped).symm)
            · cases stamped
        · exact .inr (Nat.le_trans (by omega) after)
  rcases later [] replacer calls member with none | since
  · cases none
  · exact since

/-- The accesses since a moment within the present admission are those that the calls made since
then have stamped. -/
theorem Dated.countSince_clock {replacer : Replacer} (dated : Dated history replacer)
    (frame : FrameId) (calls : List Call) :
    ((trace replacer calls).foldl (Made.advance frame) (history frame)).countSince replacer.clock =
      (stampsOf frame (trace replacer calls)).length := by
  obtain ⟨kept, still, same⟩ := exists_foldl_advance frame (history frame) (trace replacer calls)
  have past : ∀ time ∈ kept, time < replacer.clock := by
    rcases still with rfl | rfl
    · simp
    · exact dated.past frame
  rw [same, History.countSince_append, History.countSince_eq_zero past, Nat.zero_add]
  exact History.countSince_eq_length fun time => clock_le_of_mem_stampsOf calls

end Since

/-- How often a frame has been accessed since some state was reached, within its present admission.
The calls are those made since then. -/
def accessesSince (reached : Replacer) (calls : List Call) (frame : FrameId) : Nat :=
  (stampsOf frame (trace reached calls)).length

/-- A frame that is not accessed has no accesses, whatever else is called. -/
theorem accessesSince_eq_zero {reached : Replacer} {calls : List Call}
    (only : ∀ made ∈ trace reached calls, made.isAccess = true → made.call = .touch frame)
    (different : other ≠ frame) : accessesSince reached calls other = 0 := by
  have nothing : ∀ made : Made, (made.isAccess = true → made.call = .touch frame) →
      made.advance other [] = [] := by
    intro made only
    unfold Made.advance
    split
    · rename_i named touched done
      have sameFrame : named = frame := by
        have call := only (by rw [Made.isAccess, touched, done])
        rw [touched] at call
        exact Call.touch.inj call
      rw [if_neg (sameFrame ▸ different.symm)]
    · exact ite_self []
    · exact ite_self []
    · rfl
  rw [accessesSince, List.length_eq_zero_iff, stampsOf]
  generalize trace reached calls = made at only
  induction made with
  | nil => rfl
  | cons first rest inductionHypothesis =>
      obtain ⟨onlyFirst, onlyRest⟩ := List.forall_mem_cons.mp only
      rw [List.foldl_cons, nothing first onlyFirst]
      exact inductionHypothesis onlyRest

theorem Dated.pair_sublist_of_accessesSince {reached : Replacer} {calls : List Call} {one : FrameId}
    (dated : Dated history reached)
    (keeps : Keeps (Run.finalState perform reached calls) admissions)
    (oneMember : one ∈ (Run.finalState perform reached calls).evictionOrder)
    (otherMember : other ∈ (Run.finalState perform reached calls).evictionOrder)
    (few : accessesSince reached calls one < (Run.finalState perform reached calls).k)
    (many : (Run.finalState perform reached calls).k ≤ accessesSince reached calls other) :
    [one, other].Sublist (Run.finalState perform reached calls).evictionOrder := by
  have datedNow := dated.run calls
  apply ((datedNow.ordered keeps).pair_sublist_iff one other).mpr
  refine ⟨oneMember, otherMember, ?_⟩
  apply History.precedes_of_countSince (datedNow.ascending one) (datedNow.ascending other)
  · rw [dated.countSince_clock]
    exact few
  · rw [dated.countSince_clock]
    exact many

/-- Let any run of calls have led to a replacer, and take the order in which it would give up its
tracked frames if none was pinned.  An access to one of them brings it forward against no other, and
changes nothing between the others.  Take any moment of the run: a frame that has been accessed
fewer than `k` times since then stands before one that has been accessed `k` times, which is the last
of all if there was no access to another.  The clock counts the accesses, and so it fits a word as
long as there were fewer than `2 ^ 64 - 1` before the one considered. -/
theorem accesses_only_protect (created : create capacity k = .ok fresh) (calls : List Call) :
    let replacer := Run.finalState perform fresh calls
    let order := replacer.evictionOrder
    order.Nodup ∧ (∀ frame, frame ∈ order ↔ (replacer.lookup frame).isSome) ∧
      Run.answers perform replacer.unpinned (List.replicate order.length .evict) =
        order.map (fun frame => .evicted (some frame)) ∧
      (∀ frame ∈ order,
        (perform (.touch frame) replacer).answer = .done ∧
          Demotes frame order (perform (.touch frame) replacer).state.evictionOrder ∧
          (perform (.touch frame) replacer).state.clock =
            (trace fresh calls).countP (·.isAccess) + 1) ∧
      ∀ earlier later, calls = earlier ++ later →
        let accesses := accessesSince (Run.finalState perform fresh earlier) later
        (∀ one ∈ order, ∀ other ∈ order, accesses one < k → k ≤ accesses other →
            [one, other].Sublist order) ∧
          ∀ frame ∈ order, k ≤ accesses frame →
            (∀ made ∈ trace (Run.finalState perform fresh earlier) later,
              made.isAccess = true → made.call = .touch frame) →
            order.getLast? = some frame := by
  intro replacer order
  obtain ⟨⟨_, follows⟩, _, sameK⟩ :=
    follows_of_reached created calls _ (Run.finalState_mem_states perform fresh calls)
  have ordered := ((dated_create created).run calls).ordered follows.keeps
  refine ⟨ordered.nodup, ordered.mem_iff, (drainedByCalls replacer.unpinned).answers_eq, ?_, ?_⟩
  · intro frame member
    have dated := (dated_create created).run calls
    have inRange := dated.inRange frame
      ((dated.isSome_iff frame).mp ((ordered.mem_iff frame).mp member))
    obtain ⟨answer, clockLater, _⟩ := touch_of_inRange inRange
    have clockEq : replacer.clock = (trace fresh calls).countP (·.isAccess) := by
      rw [← Nat.zero_add (List.countP _ _), ← clock_of_create created]
      exact clock_finalState fresh calls
    refine ⟨congrArg Answer.ofResult answer, dated.demotes follows.keeps member, ?_⟩
    rw [← clockEq]
    exact clockLater
  · rintro earlier later rfl accesses
    have comesBefore : ∀ one ∈ order, ∀ other ∈ order, accesses one < k → k ≤ accesses other →
        [one, other].Sublist order := by
      have dated := (dated_create created).run earlier
      simp only [order, replacer, Run.finalState_append] at follows sameK ⊢
      intro one oneMember other otherMember few many
      rw [← sameK] at few many
      exact dated.pair_sublist_of_accessesSince follows.keeps oneMember otherMember few many
    refine ⟨comesBefore, ?_⟩
    intro frame member many only
    apply getLast?_of_sorted ordered.pairwise (precedes_asymm _ replacer.k) member
    intro other otherMember different
    have few : accesses other < k := by
      rw [← sameK]
      exact lt_of_eq_of_lt (accessesSince_eq_zero only different) replacer.k_pos
    exact ((ordered.pair_sublist_iff other frame).mp
      (comesBefore other otherMember frame member few many)).2.2

/-- Frame `1` is accessed twice in the end, and so comes last, behind frame `0` that it stood before.
Frame `2` was given up once and has started anew.  One more access puts frame `0` behind it. -/
theorem accesses_only_protect_three :
    let fresh : Replacer := { capacity := 4, k := 2 }
    let earlier : List Call :=
      [.touch 2, .mark 2 true, .evict, .touch 1, .touch 0, .touch 1, .touch 2, .touch 2, .touch 0]
    let later : List Call := [.touch 1, .mark 1 true, .touch 4, .touch 1]
    let replacer := Run.finalState perform fresh (earlier ++ later)
    let order := replacer.evictionOrder
    create 4 2 = .ok fresh ∧
      (Run.finalState perform fresh earlier).evictionOrder = [1, 0, 2] ∧ order = [0, 2, 1] ∧
      accessesSince (Run.finalState perform fresh earlier) later 1 = 2 ∧
      [0, 1].Sublist order ∧ order.getLast? = some 1 ∧
      (perform (.touch 0) replacer).state.evictionOrder = [2, 0, 1] ∧
      Demotes 0 order (perform (.touch 0) replacer).state.evictionOrder := by
  intro fresh earlier later replacer order
  have created : create 4 2 = .ok fresh := rfl
  have orderEq : order = [0, 2, 1] := by decide +kernel
  have zeroMember : 0 ∈ order := by simp [orderEq]
  have oneMember : 1 ∈ order := by simp [orderEq]
  obtain ⟨_, _, _, access, since⟩ := accesses_only_protect created (earlier ++ later)
  obtain ⟨_, demotes, _⟩ := access 0 zeroMember
  obtain ⟨comesBefore, last⟩ := since earlier later rfl
  refine ⟨created, by decide +kernel, orderEq, by decide, ?_, ?_, by decide +kernel, demotes⟩
  · exact comesBefore 0 zeroMember 1 oneMember (by decide) (by decide)
  · exact last 1 oneMember (by decide) (by decide)

end PageBuffer.Replacer
