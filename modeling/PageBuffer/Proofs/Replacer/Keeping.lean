import PageBuffer.Proofs.Keyed
import PageBuffer.Proofs.Replacer.Order

/-!
What a replacer with bounded windows keeps of a list of admissions with complete histories.

No two accesses happen at the same time, so the fronts of two windows differ, and the victim is the
admission that precedes all the other evictable ones.
-/

namespace PageBuffer.Replacer

variable {clock later : Nat} {admissions others : List Admission} {known admission : Admission}
  {frame : FrameId}

/-- Admissions of distinct frames, each accessed, and no two of them at the same time. -/
structure Apart (clock : Nat) (admissions : List Admission) : Prop where
  distinct : (admissions.map (·.frame)).Nodup
  accessed : ∀ admission ∈ admissions, admission.history ≠ []
  past : ∀ admission ∈ admissions, ∀ time ∈ admission.history, time < clock
  disjoint : ∀ one ∈ admissions, ∀ other ∈ admissions, one.frame ≠ other.frame →
    one.history.Disjoint other.history

namespace Apart

variable (apart : Apart clock admissions)

include apart

theorem of_perm (perm : admissions.Perm others) : Apart clock others where
  distinct := (perm.map _).nodup_iff.mp apart.distinct
  accessed one stored := apart.accessed one (perm.mem_iff.mpr stored)
  past one stored := apart.past one (perm.mem_iff.mpr stored)
  disjoint one stored other otherStored :=
    apart.disjoint one (perm.mem_iff.mpr stored) other (perm.mem_iff.mpr otherStored)

theorem without (frame : FrameId) : Apart clock (admissions.filter (·.frame ≠ frame)) where
  distinct := Keyed.nodup_filter apart.distinct _
  accessed one stored := apart.accessed one (List.mem_of_mem_filter stored)
  past one stored := apart.past one (List.mem_of_mem_filter stored)
  disjoint one stored other otherStored :=
    apart.disjoint one (List.mem_of_mem_filter stored) other (List.mem_of_mem_filter otherStored)

/-- A frame's history may be replaced by one that has nothing in common with the other frames'. -/
theorem put (notBefore : clock ≤ later) (accessed : admission.history ≠ [])
    (past : ∀ time ∈ admission.history, time < later)
    (disjoint : ∀ other ∈ admissions, admission.frame ≠ other.frame →
      admission.history.Disjoint other.history) :
    Apart later (admission :: admissions.filter (·.frame ≠ admission.frame)) := by
  have rest := apart.without admission.frame
  have disjointRest : ∀ other ∈ admissions.filter (·.frame ≠ admission.frame),
      admission.history.Disjoint other.history := by
    intro other stored
    have different : other.frame ≠ admission.frame := by simpa using (List.mem_filter.mp stored).2
    exact disjoint other (List.mem_of_mem_filter stored) different.symm
  constructor
  case distinct =>
    rw [List.map_cons, List.nodup_cons]
    refine ⟨?_, rest.distinct⟩
    simp
  case accessed =>
    intro one stored
    rcases List.mem_cons.mp stored with rfl | inRest
    · exact accessed
    · exact rest.accessed one inRest
  case past =>
    intro one stored time member
    rcases List.mem_cons.mp stored with rfl | inRest
    · exact past time member
    · exact Nat.lt_of_lt_of_le (rest.past one inRest time member) notBefore
  case disjoint =>
    intro one stored other otherStored different
    rcases List.mem_cons.mp stored with rfl | inRest <;>
      rcases List.mem_cons.mp otherStored with rfl | otherInRest
    · exact absurd rfl different
    · exact disjointRest other otherInRest
    · exact List.disjoint_symm (disjointRest one inRest)
    · exact rest.disjoint one inRest other otherInRest different

/-- An access at the current time goes on with a history, or starts one. -/
theorem access (history : History)
    (past : ∀ time ∈ history, time < clock)
    (disjoint : ∀ other ∈ admissions, frame ≠ other.frame → history.Disjoint other.history)
    (evictable : Bool) :
    Apart (clock + 1) ({ frame, history := history ++ [clock], evictable } ::
      admissions.filter (·.frame ≠ frame)) := by
  apply apart.put
  case notBefore => exact Nat.le_succ clock
  case accessed => simp
  case past =>
    intro time member
    rcases List.mem_append.mp member with before | now
    · exact Nat.lt_succ_of_lt (past time before)
    · exact (List.mem_singleton.mp now).symm ▸ Nat.lt_succ_self clock
  case disjoint =>
    intro other stored different time member inOther
    rcases List.mem_append.mp member with before | now
    · exact disjoint other stored different before inOther
    · have before := apart.past other stored time inOther
      rw [List.mem_singleton.mp now] at before
      exact Nat.lt_irrefl clock before

theorem find?_eq_of_mem (stored : known ∈ admissions) :
    admissions.find? (·.frame = known.frame) = some known :=
  (Keyed.find?_eq_some_iff apart.distinct).mpr ⟨stored, rfl⟩

theorem perm_cons (stored : known ∈ admissions) :
    admissions.Perm (known :: admissions.filter (·.frame ≠ known.frame)) :=
  Keyed.perm_cons_filter apart.distinct stored

end Apart

/-- The replacer tracks the frames of these admissions, with as much of their histories as fits. -/
structure Keeps (replacer : Replacer) (admissions : List Admission) : Prop where
  apart : Apart replacer.clock admissions
  tracked_perm : replacer.tracked.Perm (admissions.map (·.tracked replacer.k))
  evictableCount_eq : replacer.evictableCount = admissions.countP (·.evictable)

theorem eq_of_create {capacity k : Nat} {fresh : Replacer}
    (created : create capacity k = .ok fresh) :
    ∃ k_pos : 0 < k, fresh = { capacity, k, k_pos } := by
  unfold create at created
  split at created
  case isTrue positive => exact ⟨positive, (Except.ok.inj created).symm⟩
  case isFalse => contradiction

theorem keeps_create {capacity k : Nat} {fresh : Replacer}
    (created : create capacity k = .ok fresh) : Keeps fresh [] := by
  obtain ⟨positive, rfl⟩ := eq_of_create created
  constructor
  case apart => constructor <;> simp
  case tracked_perm => exact .nil
  case evictableCount_eq => rfl

section Sizes

variable (replacer : Replacer) (frame : FrameId) (evictable : Bool)

@[simp]
theorem k_touch : (replacer.touch frame).state.k = replacer.k := by
  unfold touch
  split <;> rfl

@[simp]
theorem capacity_touch : (replacer.touch frame).state.capacity = replacer.capacity := by
  unfold touch
  split <;> rfl

/-- A mark changes the entry of the frame and the count, and nothing else. -/
theorem mark_eq_update : replacer.mark frame evictable =
    { replacer with
      tracked := (replacer.mark frame evictable).tracked
      evictableCount := (replacer.mark frame evictable).evictableCount } := by
  unfold mark
  split
  · rfl
  · split <;> rfl

@[simp]
theorem k_mark : (replacer.mark frame evictable).k = replacer.k :=
  congrArg (·.k) (mark_eq_update replacer frame evictable)

@[simp]
theorem capacity_mark : (replacer.mark frame evictable).capacity = replacer.capacity :=
  congrArg (·.capacity) (mark_eq_update replacer frame evictable)

@[simp]
theorem clock_mark : (replacer.mark frame evictable).clock = replacer.clock :=
  congrArg (·.clock) (mark_eq_update replacer frame evictable)

end Sizes

variable {replacer : Replacer}

theorem answer_evict (replacer : Replacer) : replacer.evict.answer = replacer.victim? := by
  unfold evict
  split
  · rename_i noVictim
    exact noVictim.symm
  · rename_i victim
    exact victim.symm

theorem touch_of_outOfRange (outOfRange : ¬(0 ≤ frame ∧ frame < replacer.capacity)) :
    replacer.touch frame =
      ⟨.error (.invalidFrame frame replacer.capacity), replacer, [.outOfRange frame]⟩ := by
  rw [touch, if_pos]
  by_contra inside
  rw [not_or] at inside
  exact outOfRange ⟨Int.not_lt.mp inside.1, Int.not_le.mp inside.2⟩

theorem touch_of_inRange (inRange : 0 ≤ frame ∧ frame < replacer.capacity) :
    (replacer.touch frame).answer = .ok () ∧
      (replacer.touch frame).state.clock = replacer.clock + 1 ∧
      (replacer.touch frame).state.evictableCount = replacer.evictableCount ∧
      (replacer.touch frame).state.tracked =
        match replacer.lookup frame with
        | none => replacer.tracked ++
            [{ frame, window := [replacer.clock], evictable := false }]
        | some _ => replacer.modify frame (Tracked.access replacer.k replacer.clock) := by
  rw [touch, if_neg (not_or.mpr ⟨Int.not_lt.mpr inRange.1, Int.not_le.mpr inRange.2⟩)]
  exact ⟨rfl, rfl, rfl, rfl⟩

section Lookups

variable {other : FrameId}

theorem lookup_touch_of_ne (inRange : 0 ≤ frame ∧ frame < replacer.capacity)
    (different : other ≠ frame) :
    (replacer.touch frame).state.lookup other = replacer.lookup other := by
  have sameFrame : ∀ tracked : Tracked,
      (tracked.access replacer.k replacer.clock).frame = tracked.frame := fun _ => rfl
  rw [lookup, (touch_of_inRange inRange).2.2.2]
  split
  · rw [List.find?_append, ← lookup]
    simp [Ne.symm different]
  · rw [find?_modify replacer sameFrame, if_neg different]

/-- The first access starts a window. -/
theorem lookup_touch_new (inRange : 0 ≤ frame ∧ frame < replacer.capacity)
    (absent : replacer.lookup frame = none) :
    (replacer.touch frame).state.lookup frame =
      some { frame, window := [replacer.clock], evictable := false } := by
  rw [lookup, (touch_of_inRange inRange).2.2.2, absent]
  simp only
  rw [List.find?_append, ← lookup, absent]
  simp

theorem lookup_touch_known (inRange : 0 ≤ frame ∧ frame < replacer.capacity) {tracked : Tracked}
    (present : replacer.lookup frame = some tracked) :
    (replacer.touch frame).state.lookup frame =
      some (tracked.access replacer.k replacer.clock) := by
  have sameFrame : ∀ tracked : Tracked,
      (tracked.access replacer.k replacer.clock).frame = tracked.frame := fun _ => rfl
  rw [lookup, (touch_of_inRange inRange).2.2.2, present]
  simp only
  rw [find?_modify replacer sameFrame, if_pos rfl, present]
  rfl

/-- A mark shows at its frame and nowhere else, and it makes no frame tracked or untracked. -/
theorem lookup_mark (frame other : FrameId) (evictable : Bool) :
    (replacer.mark frame evictable).lookup other = if other = frame
      then (replacer.lookup other).map ({ · with evictable }) else replacer.lookup other := by
  have sameFrame : ∀ tracked : Tracked, ({ tracked with evictable }).frame = tracked.frame :=
    fun _ => rfl
  unfold mark
  cases present : replacer.lookup frame with
  | none =>
      by_cases same : other = frame
      · simp [same, present]
      · simp [same]
  | some tracked =>
      simp only
      split
      · rename_i already
        split
        · rename_i same
          rw [same, present, Option.map_some, ← already]
        · rfl
      · exact find?_modify replacer sameFrame frame other

theorem lookup_forget (frame other : FrameId) :
    (replacer.forget frame).lookup other =
      if other = frame then none else replacer.lookup other := by
  simp only [forget, lookup, List.find?_filter]
  split
  · rename_i same
    simp [same]
  · rename_i different
    congr 1
    funext tracked
    by_cases sought : tracked.frame = other <;> simp [sought, different]

theorem lookup_pin_new (inRange : 0 ≤ frame ∧ frame < replacer.capacity)
    (absent : replacer.lookup frame = none) :
    ((replacer.touch frame).state.mark frame false).lookup frame =
      some { frame, window := [replacer.clock], evictable := false } := by
  rw [lookup_mark, if_pos rfl, lookup_touch_new inRange absent]
  rfl

theorem lookup_pin_known (inRange : 0 ≤ frame ∧ frame < replacer.capacity) {tracked : Tracked}
    (present : replacer.lookup frame = some tracked) :
    ((replacer.touch frame).state.mark frame false).lookup frame =
      some { tracked.access replacer.k replacer.clock with evictable := false } := by
  rw [lookup_mark, if_pos rfl, lookup_touch_known inRange present]
  rfl

/-- A frame that was accessed and pinned is tracked as such. -/
theorem lookup_pin_self (inRange : 0 ≤ frame ∧ frame < replacer.capacity) :
    ∃ tracked, ((replacer.touch frame).state.mark frame false).lookup frame = some tracked ∧
      tracked.evictable = false := by
  cases found : replacer.lookup frame with
  | none => exact ⟨_, lookup_pin_new inRange found, rfl⟩
  | some tracked => exact ⟨_, lookup_pin_known inRange found, rfl⟩

theorem lookup_pin_of_ne (inRange : 0 ≤ frame ∧ frame < replacer.capacity)
    (different : other ≠ frame) :
    ((replacer.touch frame).state.mark frame false).lookup other = replacer.lookup other := by
  rw [lookup_mark, if_neg different, lookup_touch_of_ne inRange different]

/-- What is not tracked as pinned is dropped on request. -/
theorem release_of_unpinned
    (unpinned : ∀ tracked, replacer.lookup frame = some tracked → tracked.evictable = true) :
    (replacer.release frame).answer = .ok () ∧ (replacer.release frame).events = [] ∧
      ∀ other, (replacer.release frame).state.lookup other =
        if other = frame then none else replacer.lookup other := by
  rw [release]
  cases present : replacer.lookup frame with
  | none =>
      refine ⟨rfl, rfl, ?_⟩
      intro other
      by_cases same : other = frame
      · simp [same, present]
      · simp [same]
  | some tracked =>
      simp only [unpinned tracked present, if_true, true_and]
      exact lookup_forget frame

theorem release_of_pinned {tracked : Tracked} (present : replacer.lookup frame = some tracked)
    (pinned : tracked.evictable = false) :
    (replacer.release frame).answer = .error (.removeNonEvictable frame) := by
  rw [release, present]
  simp [pinned]

@[simp]
theorem capacity_release (replacer : Replacer) (frame : FrameId) :
    (replacer.release frame).state.capacity = replacer.capacity := by
  unfold release
  split
  · rfl
  · split <;> rfl

@[simp]
theorem k_release (replacer : Replacer) (frame : FrameId) :
    (replacer.release frame).state.k = replacer.k := by
  unfold release
  split
  · rfl
  · split <;> rfl

end Lookups

namespace Keeps

variable (keeps : Keeps replacer admissions)

include keeps

theorem of_perm (perm : admissions.Perm others) : Keeps replacer others where
  apart := keeps.apart.of_perm perm
  tracked_perm := keeps.tracked_perm.trans (perm.map _)
  evictableCount_eq := keeps.evictableCount_eq.trans (perm.countP_eq _)

theorem nodup_frames : (replacer.tracked.map (·.frame)).Nodup := by
  rw [(keeps.tracked_perm.map _).nodup_iff, List.map_map]
  exact keeps.apart.distinct

theorem lookup_eq (frame : FrameId) :
    replacer.lookup frame =
      (admissions.find? (·.frame = frame)).map (·.tracked replacer.k) := by
  rw [lookup, Keyed.find?_eq_of_perm keeps.nodup_frames keeps.tracked_perm frame, List.find?_map]
  rfl

theorem lookup_of_absent (absent : frame ∉ admissions.map (·.frame)) :
    replacer.lookup frame = none := by
  rw [keeps.lookup_eq, Option.map_eq_none_iff, List.find?_eq_none]
  intro one stored
  simp only [decide_eq_true_eq]
  rintro rfl
  exact absent (List.mem_map_of_mem stored)

theorem lookup_of_mem (stored : known ∈ admissions) :
    replacer.lookup known.frame = some (known.tracked replacer.k) := by
  rw [keeps.lookup_eq, keeps.apart.find?_eq_of_mem stored]
  rfl

/-- A change to the entry of one frame is a change to its admission. -/
theorem modify_perm (stored : known ∈ admissions) {change : Tracked → Tracked}
    (changed : change (known.tracked replacer.k) = admission.tracked replacer.k) :
    (replacer.modify known.frame change).Perm
      ((admission :: admissions.filter (·.frame ≠ known.frame)).map
        (·.tracked replacer.k)) := by
  have distinct : ((admissions.map (·.tracked replacer.k)).map (·.frame)).Nodup := by
    rw [List.map_map]
    exact keeps.apart.distinct
  apply (keeps.tracked_perm.map _).trans
  apply (Keyed.map_change_perm distinct (List.mem_map_of_mem stored) change).trans
  rw [changed, List.map_cons, List.filter_map]
  exact .refl _

theorem countP_evictable (stored : known ∈ admissions) :
    replacer.evictableCount = (admissions.filter (·.frame ≠ known.frame)).countP (·.evictable) +
      if known.evictable then 1 else 0 := by
  rw [keeps.evictableCount_eq, (keeps.apart.perm_cons stored).countP_eq, List.countP_cons]

/-- The first access to a frame admits it, pinned. -/
theorem touch_new (inRange : 0 ≤ frame ∧ frame < replacer.capacity)
    (absent : frame ∉ admissions.map (·.frame)) :
    Keeps (replacer.touch frame).state
      ({ frame, history := [replacer.clock], evictable := false } ::
        admissions.filter (·.frame ≠ frame)) := by
  rcases touch_of_inRange inRange with ⟨_, clockEq, countEq, trackedEq⟩
  rw [keeps.lookup_of_absent absent] at trackedEq
  constructor
  case apart =>
    rw [clockEq]
    exact keeps.apart.access [] (by simp) (by simp) false
  case tracked_perm =>
    have window := History.latest_singleton replacer.k_pos replacer.clock
    rw [trackedEq, k_touch, Keyed.filter_ne_eq_self absent, List.map_cons, Admission.tracked,
      window]
    exact (List.perm_append_singleton _ _).trans (keeps.tracked_perm.cons _)
  case evictableCount_eq =>
    rw [countEq, Keyed.filter_ne_eq_self absent, List.countP_cons, keeps.evictableCount_eq]
    rfl

/-- A further access goes on with the frame's history. -/
theorem touch_known (inRange : 0 ≤ known.frame ∧ known.frame < replacer.capacity)
    (stored : known ∈ admissions) :
    Keeps (replacer.touch known.frame).state
      ({ known with history := known.history ++ [replacer.clock] } ::
        admissions.filter (·.frame ≠ known.frame)) := by
  rcases touch_of_inRange inRange with ⟨_, clockEq, countEq, trackedEq⟩
  rw [keeps.lookup_of_mem stored] at trackedEq
  constructor
  case apart =>
    rw [clockEq]
    exact keeps.apart.access known.history (keeps.apart.past known stored)
      (keeps.apart.disjoint known stored) known.evictable
  case tracked_perm =>
    rw [trackedEq, k_touch]
    exact keeps.modify_perm stored (known.access_tracked replacer.k_pos replacer.clock)
  case evictableCount_eq =>
    rw [countEq, keeps.countP_evictable stored, List.countP_cons]

theorem mark_absent (absent : frame ∉ admissions.map (·.frame)) (evictable : Bool) :
    replacer.mark frame evictable = replacer := by
  rw [mark, keeps.lookup_of_absent absent]

theorem mark_known (stored : known ∈ admissions) (evictable : Bool) :
    Keeps (replacer.mark known.frame evictable)
      ({ known with evictable } :: admissions.filter (·.frame ≠ known.frame)) := by
  by_cases same : known.evictable = evictable
  · have unchanged : replacer.mark known.frame evictable = replacer := by
      rw [mark, keeps.lookup_of_mem stored]
      exact if_pos same
    rw [unchanged, ← same]
    exact keeps.of_perm (keeps.apart.perm_cons stored)
  · have marked : replacer.mark known.frame evictable =
        { replacer with
          tracked := replacer.modify known.frame ({ · with evictable })
          evictableCount :=
            if evictable then replacer.evictableCount + 1 else replacer.evictableCount - 1 } := by
      rw [mark, keeps.lookup_of_mem stored]
      exact if_neg same
    rw [marked]
    constructor
    case apart =>
      exact keeps.apart.put (Nat.le_refl _) (keeps.apart.accessed known stored)
        (keeps.apart.past known stored) (keeps.apart.disjoint known stored)
    case tracked_perm => exact keeps.modify_perm stored rfl
    case evictableCount_eq =>
      have count := keeps.countP_evictable stored
      rw [List.countP_cons]
      cases evictable <;> simp_all

omit keeps in
theorem mark_front {rest : List Admission} (front : Keeps replacer (known :: rest))
    (evictable : Bool) :
    Keeps (replacer.mark known.frame evictable) ({ known with evictable } :: rest) := by
  have marked := front.mark_known List.mem_cons_self evictable
  rwa [Keyed.filter_cons_ne front.apart.distinct] at marked

/-- An access that pins its frame, by which the frame is admitted. -/
theorem pin_new (inRange : 0 ≤ frame ∧ frame < replacer.capacity)
    (absent : frame ∉ admissions.map (·.frame)) :
    Keeps ((replacer.touch frame).state.mark frame false)
      ({ frame, history := [replacer.clock], evictable := false } ::
        admissions.filter (·.frame ≠ frame)) :=
  mark_front (keeps.touch_new inRange absent) false

/-- An access that pins its frame, which was admitted before. -/
theorem pin_known (inRange : 0 ≤ known.frame ∧ known.frame < replacer.capacity)
    (stored : known ∈ admissions) :
    Keeps ((replacer.touch known.frame).state.mark known.frame false)
      ({ known with history := known.history ++ [replacer.clock], evictable := false } ::
        admissions.filter (·.frame ≠ known.frame)) :=
  mark_front (keeps.touch_known inRange stored) false

/-- Giving up an evictable frame drops its admission, and no other. -/
theorem forget (stored : known ∈ admissions) (evictable : known.evictable = true) :
    Keeps (replacer.forget known.frame) (admissions.filter (·.frame ≠ known.frame)) := by
  constructor
  case apart => exact keeps.apart.without known.frame
  case tracked_perm =>
    apply (keeps.tracked_perm.filter _).trans
    rw [List.filter_map]
    exact .refl _
  case evictableCount_eq =>
    have count := keeps.countP_evictable stored
    rw [if_pos evictable] at count
    exact Nat.sub_eq_of_eq_add count

theorem release_absent (absent : frame ∉ admissions.map (·.frame)) :
    replacer.release frame = ⟨.ok (), replacer, []⟩ := by
  rw [release, keeps.lookup_of_absent absent]

theorem release_evictable (stored : known ∈ admissions) (evictable : known.evictable = true) :
    replacer.release known.frame = ⟨.ok (), replacer.forget known.frame, []⟩ := by
  rw [release, keeps.lookup_of_mem stored]
  exact if_pos evictable

theorem release_pinned (stored : known ∈ admissions) (pinned : known.evictable = false) :
    replacer.release known.frame =
      ⟨.error (.removeNonEvictable known.frame), replacer, [.refused known.frame]⟩ := by
  rw [release, keeps.lookup_of_mem stored]
  apply if_neg
  simp [pinned]

/-- The windows of two frames have fronts, which differ. -/
theorem exists_fronts {one other : Admission} (stored : one ∈ admissions)
    (otherStored : other ∈ admissions) (different : one.frame ≠ other.frame) :
    ∃ oldest otherOldest, (one.history.latest replacer.k).head? = some oldest ∧
      (other.history.latest replacer.k).head? = some otherOldest ∧ oldest ≠ otherOldest := by
  obtain ⟨oldest, member, front⟩ :=
    History.exists_head?_latest replacer.k_pos (keeps.apart.accessed one stored)
  obtain ⟨otherOldest, otherMember, otherFront⟩ :=
    History.exists_head?_latest replacer.k_pos (keeps.apart.accessed other otherStored)
  refine ⟨oldest, otherOldest, front, otherFront, ?_⟩
  rintro rfl
  exact keeps.apart.disjoint one stored other otherStored different member otherMember

/-- There is a victim if any admission is evictable, and it precedes all the others that are. -/
theorem victim?_cases :
    (replacer.victim? = none ∧ ∀ other ∈ admissions, other.evictable = false) ∨
      ∃ best ∈ admissions, best.evictable = true ∧ replacer.victim? = some best.frame ∧
        ∀ other ∈ admissions, other.evictable = true → other ≠ best →
          History.precedes replacer.k best.history other.history = true := by
  have tracked : ∀ other ∈ admissions, other.evictable = true →
      other.tracked replacer.k ∈ replacer.tracked.filter (·.evictable) := by
    intro other stored evictable
    exact List.mem_filter.mpr
      ⟨keeps.tracked_perm.mem_iff.mpr (List.mem_map_of_mem stored), evictable⟩
  cases found : Tracked.earliest? replacer.k (replacer.tracked.filter (·.evictable)) with
  | none =>
      refine .inl ⟨by simp [victim?, found], ?_⟩
      intro other stored
      by_contra evictable
      have inNone := tracked other stored (by simpa using evictable)
      rw [Tracked.earliest?_eq_none_iff.mp found] at inNone
      simp at inNone
  | some item =>
      rcases List.mem_filter.mp (Tracked.earliest?_mem found) with ⟨inTracked, itemEvictable⟩
      rcases List.mem_map.mp (keeps.tracked_perm.mem_iff.mp inTracked) with ⟨best, stored, rfl⟩
      refine .inr ⟨best, stored, itemEvictable, by simp [victim?, found], ?_⟩
      intro other otherStored evictable different
      -- The fronts of the two windows differ, so the order does not come to the frame numbers.
      have differentFrames : best.frame ≠ other.frame := by
        intro same
        exact different (Keyed.eq_of_key_eq keeps.apart.distinct otherStored stored same.symm)
      obtain ⟨oldest, otherOldest, front, otherFront, fronts⟩ :=
        keeps.exists_fronts stored otherStored differentFrames
      exact Tracked.precedes_of_isLE_order front otherFront fronts
        (Tracked.isLE_order_earliest? found (tracked other otherStored evictable))

theorem lookup_eq_some_iff {tracked : Tracked} :
    replacer.lookup frame = some tracked ↔ tracked ∈ replacer.tracked ∧ tracked.frame = frame :=
  Keyed.find?_eq_some_iff keeps.nodup_frames

theorem evictableCount_eq_countP :
    replacer.evictableCount = replacer.tracked.countP (·.evictable) := by
  rw [keeps.evictableCount_eq, keeps.tracked_perm.countP_eq, List.countP_map]
  rfl

theorem evictableCount_pos {tracked : Tracked}
    (present : replacer.lookup frame = some tracked) (evictable : tracked.evictable = true) :
    0 < replacer.evictableCount := by
  rw [keeps.evictableCount_eq_countP, List.countP_pos_iff]
  exact ⟨tracked, (keeps.lookup_eq_some_iff.mp present).1, evictable⟩

theorem lookup_of_victim (chosen : replacer.victim? = some frame) :
    ∃ tracked, replacer.lookup frame = some tracked ∧ tracked.evictable = true := by
  rcases keeps.victim?_cases with ⟨none, _⟩ | ⟨best, stored, evictable, victim, _⟩
  · rw [none] at chosen
    cases chosen
  · rw [victim, Option.some.injEq] at chosen
    exact ⟨_, chosen ▸ keeps.lookup_of_mem stored, evictable⟩

/-- The count of evictable frames tells whether there is a victim. -/
theorem victim?_eq_none_iff : replacer.victim? = none ↔ replacer.evictableCount = 0 := by
  rw [keeps.evictableCount_eq, List.countP_eq_zero]
  rcases keeps.victim?_cases with ⟨noVictim, pinned⟩ | ⟨best, stored, evictable, victim, _⟩
  · exact iff_of_true noVictim fun known member => by simp [pinned known member]
  · exact iff_of_false (by simp [victim]) fun pinned => pinned best stored evictable

/-- As long as some evictable frame has a partial window, the victim has one. -/
theorem exists_victim_of_partial {tracked : Tracked}
    (present : replacer.lookup frame = some tracked) (evictable : tracked.evictable = true)
    (short : tracked.isFull replacer.k = false) :
    ∃ best, replacer.victim? = some best.frame ∧ replacer.lookup best.frame = some best ∧
      best.isFull replacer.k = false := by
  have candidate : tracked ∈ replacer.tracked.filter (·.evictable) :=
    List.mem_filter.mpr ⟨(keeps.lookup_eq_some_iff.mp present).1, evictable⟩
  cases found : Tracked.earliest? replacer.k (replacer.tracked.filter (·.evictable)) with
  | none =>
      rw [Tracked.earliest?_eq_none_iff.mp found] at candidate
      cases candidate
  | some best =>
      have stored := (List.mem_filter.mp (Tracked.earliest?_mem found)).1
      have sorted := Tracked.isLE_order_earliest? found candidate
      refine ⟨best, by simp [victim?, found], keeps.lookup_eq_some_iff.mpr ⟨stored, rfl⟩, ?_⟩
      exact Tracked.isFull_eq_false_of_isLE_order sorted short

/-- No evictable frame whose window is full as the victim's is has an earlier oldest access. -/
theorem front_le_of_victim {other : FrameId} {tracked otherTracked : Tracked}
    (victim : replacer.victim? = some frame) (present : replacer.lookup frame = some tracked)
    (otherPresent : replacer.lookup other = some otherTracked)
    (evictable : otherTracked.evictable = true)
    (sameFull : tracked.isFull replacer.k = otherTracked.isFull replacer.k)
    {oldest otherOldest : Nat} (front : tracked.window.head? = some oldest)
    (otherFront : otherTracked.window.head? = some otherOldest) : oldest ≤ otherOldest := by
  obtain ⟨best, found, rfl⟩ := Option.map_eq_some_iff.mp victim
  have bestStored := (List.mem_filter.mp (Tracked.earliest?_mem found)).1
  obtain rfl : best = tracked := by
    rw [keeps.lookup_eq_some_iff.mpr ⟨bestStored, rfl⟩] at present
    exact Option.some.inj present
  have candidate : otherTracked ∈ replacer.tracked.filter (·.evictable) :=
    List.mem_filter.mpr ⟨(keeps.lookup_eq_some_iff.mp otherPresent).1, evictable⟩
  exact Tracked.front_le_of_isLE_order sameFull front otherFront
    (Tracked.isLE_order_earliest? found candidate)

theorem window_ne_nil : ∀ tracked ∈ replacer.tracked, tracked.window ≠ [] := by
  intro tracked member
  rcases List.mem_map.mp (keeps.tracked_perm.mem_iff.mp member) with ⟨known, stored, rfl⟩
  obtain ⟨oldest, _, front⟩ :=
    History.exists_head?_latest replacer.k_pos (keeps.apart.accessed known stored)
  rw [Admission.window_tracked]
  intro empty
  simp [empty] at front

/-- No two windows have the same oldest time. -/
theorem nodup_fronts : (replacer.tracked.map (·.window.head?)).Nodup := by
  rw [(keeps.tracked_perm.map _).nodup_iff, List.map_map]
  refine List.Nodup.map_on ?_ (List.Nodup.of_map _ keeps.apart.distinct)
  intro one stored other otherStored same
  apply Keyed.eq_of_key_eq keeps.apart.distinct stored otherStored
  by_contra different
  obtain ⟨oldest, otherOldest, front, otherFront, fronts⟩ :=
    keeps.exists_fronts stored otherStored different
  have sameFront : (one.history.latest replacer.k).head? =
      (other.history.latest replacer.k).head? := same
  rw [front, otherFront, Option.some.injEq] at sameFront
  exact fronts sameFront

end Keeps

end PageBuffer.Replacer
