import PageBuffer.Proofs.Replacer.Draining

/-!
The order in which all tracked frames would be given up.

It is found by unpinning every frame and draining, and it is the k-distance order on the histories
since admission.  Whether one history precedes another can be told from how often each has been
accessed since a time, and one more access never brings a history forward.
-/

namespace PageBuffer

namespace History

variable {k time oldest : Nat} {history one other : History}

/-- How many accesses there have been since a time. -/
def countSince (time : Nat) (history : History) : Nat :=
  history.countP (time ≤ ·)

theorem countSince_eq_zero (past : ∀ access ∈ history, access < time) :
    history.countSince time = 0 := by
  rw [countSince, List.countP_eq_zero]
  intro access member
  simpa using past access member

theorem countSince_eq_length (since : ∀ access ∈ history, time ≤ access) :
    history.countSince time = history.length := by
  rw [countSince, List.countP_eq_length]
  intro access member
  simpa using since access member

theorem countSince_append (time : Nat) (one other : History) :
    countSince time (one ++ other) = one.countSince time + other.countSince time :=
  List.countP_append

theorem exists_kthLatest? (positive : 0 < k) (long : history.isShort k = false) :
    ∃ oldest, history.kthLatest? k = some oldest := by
  have enough : k ≤ history.length := by simpa [isShort] using long
  have inside : history.length - k < history.length := by omega
  exact ⟨history[history.length - k], List.getElem?_eq_getElem inside⟩

/-- The `k`-th latest access is followed by `k - 1` others. -/
theorem exists_append_of_kthLatest? (long : history.isShort k = false)
    (found : history.kthLatest? k = some oldest) :
    ∃ earlier later : History, history = earlier ++ oldest :: later ∧ later.length + 1 = k := by
  have enough : k ≤ history.length := by simpa [isShort] using long
  obtain ⟨inside, isOldest⟩ := List.getElem?_eq_some_iff.mp found
  refine ⟨history.take (history.length - k), history.drop (history.length - k + 1), ?_, ?_⟩
  · rw [← isOldest, ← List.drop_eq_getElem_cons inside, List.take_append_drop]
  · rw [List.length_drop]
    omega

/-- There have been `k` accesses since a time if the `k`-th latest is no earlier than that. -/
theorem le_kthLatest_iff (ascending : history.Pairwise (· < ·))
    (long : history.isShort k = false) (found : history.kthLatest? k = some oldest) :
    time ≤ oldest ↔ k ≤ history.countSince time := by
  obtain ⟨earlier, later, rfl, length⟩ := exists_append_of_kthLatest? long found
  obtain ⟨_, ascendingLater, before⟩ := List.pairwise_append.mp ascending
  have after := (List.pairwise_cons.mp ascendingLater).1
  rw [countSince_append]
  constructor
  · intro since
    have counted : countSince time (oldest :: later) = k := by
      rw [countSince_eq_length, List.length_cons, length]
      intro access member
      rcases List.mem_cons.mp member with rfl | inLater
      · exact since
      · exact Nat.le_trans since (Nat.le_of_lt (after access inLater))
    omega
  · intro counted
    by_contra notSince
    have past : countSince time earlier = 0 := by
      apply countSince_eq_zero
      intro access member
      exact Nat.lt_trans (before access member oldest List.mem_cons_self) (Nat.not_le.mp notSince)
    have onlyLater : countSince time (oldest :: later) = later.countSince time :=
      List.countP_cons_of_neg (by simpa using notSince)
    have atMost : later.countSince time ≤ later.length := List.countP_le_length
    omega

/-- What has been accessed fewer than `k` times since some time precedes what has been accessed `k`
times. -/
theorem precedes_of_countSince (ascending : one.Pairwise (· < ·))
    (otherAscending : other.Pairwise (· < ·)) (few : one.countSince time < k)
    (many : k ≤ other.countSince time) : precedes k one other = true := by
  have positive : 0 < k := Nat.lt_of_le_of_lt (Nat.zero_le _) few
  have otherLong : other.isShort k = false := by
    have atMost : other.countSince time ≤ other.length := List.countP_le_length
    simp only [isShort, decide_eq_false_iff_not]
    omega
  unfold precedes
  rw [otherLong]
  cases short : one.isShort k with
  | true => rfl
  | false =>
      obtain ⟨oldest, found⟩ := exists_kthLatest? positive short
      obtain ⟨otherOldest, otherFound⟩ := exists_kthLatest? positive otherLong
      have before := mt (le_kthLatest_iff ascending short found).mp (Nat.not_le.mpr few)
      have since := (le_kthLatest_iff otherAscending otherLong otherFound).mpr many
      simp only [found, otherFound, isEarlier, decide_eq_true_eq]
      omega

theorem isShort_append_singleton (long : history.isShort k = false) (time : Nat) :
    (history ++ [time]).isShort k = false := by
  simp only [isShort, List.length_append, decide_eq_false_iff_not] at long ⊢
  omega

/-- One more access never brings a history forward. -/
theorem precedes_append_singleton (positive : 0 < k)
    (ascending : (other ++ [time]).Pairwise (· < ·)) (before : precedes k one other = true) :
    precedes k one (other ++ [time]) = true := by
  unfold precedes at before ⊢
  cases short : one.isShort k <;> cases otherShort : other.isShort k <;>
    simp only [short, otherShort, Bool.false_eq_true] at before
  case false.false =>
    have longer := isShort_append_singleton otherShort time
    obtain ⟨otherOldest, otherFound⟩ := exists_kthLatest? positive otherShort
    obtain ⟨later, laterFound⟩ := exists_kthLatest? positive longer
    have notBefore : otherOldest ≤ later := by
      rw [le_kthLatest_iff ascending longer laterFound, countSince_append]
      have enough := (le_kthLatest_iff (List.pairwise_append.mp ascending).1 otherShort
        otherFound).mp (Nat.le_refl otherOldest)
      exact Nat.le_add_right_of_le enough
    obtain ⟨oldest, found⟩ := exists_kthLatest? positive short
    simp only [longer, found, otherFound, laterFound, isEarlier, decide_eq_true_eq] at before ⊢
    exact Nat.lt_of_lt_of_le before notBefore
  case true.true =>
    cases (other ++ [time]).isShort k with
    | false => rfl
    | true =>
        -- The history stays short, and so goes by its first access, which is the same.
        cases other with
        | nil => cases first : one.first? <;> simp [first?, isEarlier] at before
        | cons head rest => exact before
  case true.false =>
    have longer := isShort_append_singleton otherShort time
    rw [longer]

end History

namespace Replacer

section Sorted

variable {α : Type} {relation : α → α → Prop} {list : List α} {one other : α}

/-- In a sorted list one item stands before another if it comes before it. -/
theorem pair_sublist_iff (sorted : list.Pairwise relation)
    (asymm : ∀ one other, relation one other → ¬relation other one) :
    [one, other].Sublist list ↔ one ∈ list ∧ other ∈ list ∧ relation one other := by
  constructor
  · intro part
    exact ⟨part.subset (by simp), part.subset (by simp),
      List.pairwise_iff_forall_sublist.mp sorted part⟩
  · rintro ⟨stored, otherStored, before⟩
    obtain ⟨earlier, later, rfl⟩ := List.append_of_mem stored
    have laterSublist : [one, other].Sublist (one :: later) := by
      apply List.Sublist.cons_cons
      rw [List.singleton_sublist]
      rcases List.mem_append.mp otherStored with inEarlier | inLater
      · have after := (List.pairwise_append.mp sorted).2.2 other inEarlier one List.mem_cons_self
        exact absurd before (asymm other one after)
      · rcases List.mem_cons.mp inLater with rfl | member
        · exact absurd before (asymm other other before)
        · exact member
    exact laterSublist.trans (List.sublist_append_right earlier _)

/-- In a sorted list the item that comes after all the others stands last. -/
theorem getLast?_of_sorted (sorted : list.Pairwise relation)
    (asymm : ∀ one other, relation one other → ¬relation other one) (stored : other ∈ list)
    (last : ∀ one ∈ list, one ≠ other → relation one other) : list.getLast? = some other := by
  obtain ⟨earlier, later, rfl⟩ := List.append_of_mem stored
  cases later with
  | nil => simp
  | cons next later =>
      have before : relation other next := by
        have tail := (List.pairwise_append.mp sorted).2.1
        exact (List.pairwise_cons.mp tail).1 next List.mem_cons_self
      have different : next ≠ other := by
        rintro rfl
        exact asymm next next before before
      exact absurd (last next (by simp) different) (asymm other next before)

end Sorted

variable {replacer fresh : Replacer} {capacity k : Nat} {frame other : FrameId}
  {history : FrameId → History} {admissions : List Admission}

/-- The calls that make every tracked frame evictable. -/
def unpinCalls (replacer : Replacer) : List Call :=
  replacer.tracked.map fun tracked => .mark tracked.frame true

/-- The replacer with no frame pinned. -/
def unpinned (replacer : Replacer) : Replacer :=
  Run.finalState perform replacer replacer.unpinCalls

/-- The order in which all tracked frames would be given up if none was pinned. -/
def evictionOrder (replacer : Replacer) : List FrameId :=
  replacer.unpinned.drain.answer

section Unpinned

theorem Keeps.exists_mark (keeps : Keeps replacer admissions) (frame : FrameId) (evictable : Bool) :
    ∃ marked, Keeps (replacer.mark frame evictable) marked := by
  by_cases known : frame ∈ admissions.map (·.frame)
  · obtain ⟨admission, stored, rfl⟩ := List.mem_map.mp known
    exact ⟨_, keeps.mark_known stored evictable⟩
  · rw [keeps.mark_absent known]
    exact ⟨admissions, keeps⟩

/-- What marking frames as evictable, one after the other, comes to. -/
structure Unpins (history : FrameId → History) (replacer : Replacer) (frames : List FrameId)
    (reached : Replacer) : Prop where
  keeps : ∃ marked, Keeps reached marked
  dated : Dated history reached
  k_eq : reached.k = replacer.k
  lookup_eq : ∀ frame, reached.lookup frame = if frame ∈ frames
    then (replacer.lookup frame).map ({ · with evictable := true }) else replacer.lookup frame

theorem Dated.unpins (dated : Dated history replacer) (keeps : Keeps replacer admissions)
    (frames : List FrameId) :
    Unpins history replacer frames
      (Run.finalState perform replacer (frames.map (.mark · true))) := by
  induction frames generalizing replacer admissions with
  | nil => exact ⟨⟨admissions, keeps⟩, dated, rfl, by simp⟩
  | cons head rest inductionHypothesis =>
      obtain ⟨marked, keepsMarked⟩ := keeps.exists_mark head true
      have later := inductionHypothesis (dated.mark head true) keepsMarked
      refine ⟨later.keeps, later.dated, later.k_eq.trans (k_mark _ _ _), ?_⟩
      intro frame
      rw [List.map_cons, Run.finalState_cons]
      refine (later.lookup_eq frame).trans ?_
      rw [lookup_mark]
      by_cases first : frame = head <;> by_cases inRest : frame ∈ rest <;>
        simp [first, inRest, Function.comp_def]

/-- What the order of giving up is: each tracked frame stands in it once, and before all those that
its history precedes. -/
structure Ordered (history : FrameId → History) (replacer : Replacer) : Prop where
  nodup : replacer.evictionOrder.Nodup
  mem_iff : ∀ frame, frame ∈ replacer.evictionOrder ↔ (replacer.lookup frame).isSome
  pairwise : replacer.evictionOrder.Pairwise fun one other =>
    History.precedes replacer.k (history one) (history other) = true

theorem Dated.unpins_unpinned (dated : Dated history replacer)
    (keeps : Keeps replacer admissions) :
    Unpins history replacer (replacer.tracked.map (·.frame)) replacer.unpinned := by
  have unpins := dated.unpins keeps (replacer.tracked.map (·.frame))
  rwa [List.map_map] at unpins

/-- A frame is tracked if the calls that unpin all tracked frames name it. -/
theorem Keeps.mem_frames_iff (keeps : Keeps replacer admissions) (frame : FrameId) :
    frame ∈ replacer.tracked.map (·.frame) ↔ (replacer.lookup frame).isSome := by
  simp only [List.mem_map, Option.isSome_iff_exists, keeps.lookup_eq_some_iff]

theorem Dated.ordered (dated : Dated history replacer) (keeps : Keeps replacer admissions) :
    Ordered history replacer := by
  have unpins := dated.unpins_unpinned keeps
  obtain ⟨marked, keepsMarked⟩ := unpins.keeps
  constructor
  case nodup =>
    apply (unpins.dated.perm_drain keepsMarked).nodup_iff.mpr
    exact Keyed.nodup_filter keepsMarked.nodup_frames _
  case mem_iff =>
    intro frame
    refine (unpins.dated.mem_drain_iff keepsMarked frame).trans ?_
    have named := keeps.mem_frames_iff frame
    rw [unpins.lookup_eq]
    cases present : replacer.lookup frame <;> simp_all
  case pairwise =>
    rw [← unpins.k_eq]
    exact unpins.dated.pairwise_drain keepsMarked

end Unpinned

theorem precedes_asymm (history : FrameId → History) (k : Nat) (one other : FrameId)
    (before : History.precedes k (history one) (history other) = true) :
    ¬History.precedes k (history other) (history one) = true := by
  rw [History.precedes_asymm before]
  exact Bool.false_ne_true

theorem Ordered.pair_sublist_iff (ordered : Ordered history replacer) (one other : FrameId) :
    [one, other].Sublist replacer.evictionOrder ↔
      one ∈ replacer.evictionOrder ∧ other ∈ replacer.evictionOrder ∧
        History.precedes replacer.k (history one) (history other) = true :=
  Replacer.pair_sublist_iff ordered.pairwise (precedes_asymm history replacer.k)

end Replacer

end PageBuffer
