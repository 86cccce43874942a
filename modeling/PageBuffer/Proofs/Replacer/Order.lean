import PageBuffer.Replacer.Chronicle

/-!
The eviction order on bounded windows is the k-distance order on complete histories.

A window holds the last `k` accesses, so that its front is the first access of a history of fewer
than `k`, and the `k`-th latest of any other.
-/

namespace PageBuffer

namespace History

variable {k time : Nat} {history one other : History}

/-- The last `k` accesses. -/
def latest (k : Nat) (history : History) : List Nat :=
  history.drop (history.length - k)

@[simp]
theorem length_latest : (history.latest k).length = min k history.length := by
  rw [latest, List.length_drop]
  omega

/-- One more access pushes the oldest out of a full window. -/
theorem latest_append_singleton (positive : 0 < k) (history : History) (time : Nat) :
    latest k (history ++ [time]) =
      (if (history.latest k).length = k then (history.latest k).tail else history.latest k) ++
        [time] := by
  have appendedLength : (history ++ [time]).length = history.length + 1 := by simp
  rw [length_latest, latest, appendedLength]
  by_cases full : k ≤ history.length
  · have advance : history.length + 1 - k = (history.length - k) + 1 := by omega
    rw [if_pos (Nat.min_eq_left full), advance, latest, List.tail_drop,
      List.drop_append_of_le_length (by omega)]
  · have wholeNow : history.length + 1 - k = 0 := by omega
    have wholeBefore : history.length - k = 0 := by omega
    rw [if_neg (by omega), latest, wholeNow, wholeBefore]
    rfl

theorem latest_singleton (positive : 0 < k) (time : Nat) : latest k [time] = [time] := by
  have whole : 1 - k = 0 := by omega
  simp [latest, whole]

theorem exists_head?_latest (positive : 0 < k) (nonempty : history ≠ []) :
    ∃ oldest ∈ history, (history.latest k).head? = some oldest := by
  cases kept : history.latest k with
  | nil =>
      have short := congrArg List.length kept
      have long := List.length_pos_iff.mpr nonempty
      rw [length_latest, List.length_nil] at short
      omega
  | cons oldest rest =>
      have inWindow : oldest ∈ history.latest k := by simp [kept]
      exact ⟨oldest, List.mem_of_mem_drop inWindow, rfl⟩

theorem first?_eq_head?_latest (short : history.isShort k = true) :
    history.first? = (history.latest k).head? := by
  have whole : history.length - k = 0 := by
    simp only [isShort, decide_eq_true_eq] at short
    omega
  rw [first?, latest, whole, List.drop_zero]

theorem kthLatest?_eq_head?_latest : history.kthLatest? k = (history.latest k).head? := by
  rw [kthLatest?, latest, List.head?_drop]

theorem isEarlier_asymm {first second : Option Nat} (earlier : isEarlier first second = true) :
    isEarlier second first = false := by
  cases first <;> cases second <;> simp_all [isEarlier]
  omega

theorem precedes_asymm (before : precedes k one other = true) : precedes k other one = false := by
  unfold precedes at before ⊢
  cases oneShort : one.isShort k <;> cases otherShort : other.isShort k <;>
    simp only [oneShort, otherShort, Bool.false_eq_true] at before ⊢
  · exact isEarlier_asymm before
  · exact isEarlier_asymm before

/-- What precedes all the others is the only one that none precedes. -/
theorem find?_unpreceded {α : Type} {list : List α} {historyOf : α → History} {best : α}
    (stored : best ∈ list)
    (first : ∀ other ∈ list, other ≠ best →
      precedes k (historyOf best) (historyOf other) = true) :
    (list.find? fun candidate =>
      list.all fun other => !precedes k (historyOf other) (historyOf candidate)) = some best := by
  have unpreceded : ∀ other ∈ list, precedes k (historyOf other) (historyOf best) = false := by
    intro other otherStored
    by_cases same : other = best
    · rw [same, not_precedes_self]
    · exact precedes_asymm (first other otherStored same)
  cases found : list.find? fun candidate =>
      list.all fun other => !precedes k (historyOf other) (historyOf candidate) with
  | none =>
      have preceded := List.find?_eq_none.mp found best stored
      exact absurd (by simpa using unpreceded) preceded
  | some candidate =>
      have candidateStored := List.mem_of_find?_eq_some found
      have passed : precedes k (historyOf best) (historyOf candidate) = false := by
        simpa using List.all_eq_true.mp (List.find?_eq_some_iff_append.mp found).1 best stored
      by_cases same : candidate = best
      · rw [same]
      · rw [first candidate candidateStored same] at passed
        contradiction

end History

namespace Replacer

/-- What is kept of an admission where windows hold `k` accesses. -/
def Admission.tracked (k : Nat) (admission : Admission) : Tracked :=
  { frame := admission.frame
    window := admission.history.latest k
    evictable := admission.evictable }

variable {k : Nat} {admission one other : Admission}

@[simp]
theorem Admission.frame_tracked : (admission.tracked k).frame = admission.frame := rfl

@[simp]
theorem Admission.window_tracked : (admission.tracked k).window = admission.history.latest k := rfl

@[simp]
theorem Admission.evictable_tracked : (admission.tracked k).evictable = admission.evictable := rfl

theorem Admission.access_tracked (positive : 0 < k) (admission : Admission) (time : Nat) :
    (admission.tracked k).access k time =
      { admission with history := admission.history ++ [time] }.tracked k := by
  simp only [tracked, Tracked.access, History.latest_append_singleton positive]
  rfl

theorem Admission.isFull_tracked :
    (admission.tracked k).isFull k = !admission.history.isShort k := by
  simp only [tracked, Tracked.isFull, History.isShort, History.length_latest]
  rw [← decide_not, decide_eq_decide]
  omega

end Replacer

namespace Tracked

open Replacer

instance (k : Nat) : Std.TransCmp (order k) :=
  inferInstanceAs (Std.TransCmp (compareLex (compareOn (isFull k))
    (compareLex (compareOn (·.window.head?)) (compareOn (·.frame)))))

variable {k : Nat} {frames : List Tracked} {best other : Tracked}

/-- No frame comes before the first one. -/
theorem isLE_order_earliest? (found : earliest? k frames = some best) (stored : other ∈ frames) :
    (order k best other).isLE = true := by
  induction frames generalizing best other with
  | nil => simp at stored
  | cons head rest inductionHypothesis =>
      simp only [earliest?] at found
      cases foundInRest : earliest? k rest with
      | none =>
          rw [earliest?_eq_none_iff.mp foundInRest] at stored
          simp only [foundInRest, Option.some.injEq] at found
          rw [List.mem_singleton.mp stored, found]
          simp [Std.ReflCmp.compare_self]
      | some candidate =>
          have least : ∀ {other}, other ∈ rest → (order k candidate other).isLE = true :=
            inductionHypothesis foundInRest
          simp only [foundInRest] at found
          split at found
          case isTrue before =>
            cases Option.some.inj found
            rcases List.mem_cons.mp stored with rfl | inRest
            · simp [before]
            · exact least inRest
          case isFalse notBefore =>
            cases Option.some.inj found
            have headFirst : (order k head candidate).isLE = true := by
              have swapped : order k head candidate = (order k candidate head).swap :=
                Std.OrientedCmp.eq_swap
              rw [swapped]
              cases compared : order k candidate head
              case lt => exact absurd compared notBefore
              case eq => rfl
              case gt => rfl
            rcases List.mem_cons.mp stored with rfl | inRest
            · simp [Std.ReflCmp.compare_self]
            · exact Std.TransCmp.isLE_trans headFirst (least inRest)

/-- A full window never comes before a partial one. -/
theorem isFull_eq_false_of_isLE_order (sorted : (order k best other).isLE = true)
    (short : other.isFull k = false) : best.isFull k = false := by
  cases full : best.isFull k with
  | false => rfl
  | true =>
      simp only [order, full, short] at sorted
      cases sorted

/-- Of two windows that are both full, or both partial, the one that comes first starts first. -/
theorem front_le_of_isLE_order (sameFull : best.isFull k = other.isFull k)
    {oldest otherOldest : Nat} (front : best.window.head? = some oldest)
    (otherFront : other.window.head? = some otherOldest)
    (sorted : (order k best other).isLE = true) : oldest ≤ otherOldest := by
  simp only [order, sameFull, front, otherFront, Std.ReflCmp.compare_self,
    Ordering.eq_then] at sorted
  rcases Nat.lt_or_ge otherOldest oldest with after | notAfter
  · have compared : compare (some oldest) (some otherOldest) = .gt := Nat.compare_eq_gt.mpr after
    simp [compared] at sorted
  · exact notAfter

theorem length_window_access {tracked : Tracked} (positive : 0 < k)
    (fits : tracked.window.length ≤ k) (time : Nat) :
    (tracked.access k time).window.length = min k (tracked.window.length + 1) := by
  simp only [access, List.length_append, List.length_singleton]
  split
  · rw [List.length_tail]
    omega
  · omega

/-- Where the fronts of two windows differ, the frame numbers do not matter to the order, and it is
that of the histories. -/
theorem precedes_of_isLE_order {one other : Admission} {oldest otherOldest : Nat}
    (front : (one.history.latest k).head? = some oldest)
    (otherFront : (other.history.latest k).head? = some otherOldest)
    (different : oldest ≠ otherOldest)
    (sorted : (order k (one.tracked k) (other.tracked k)).isLE = true) :
    History.precedes k one.history other.history = true := by
  have earlier : ∀ tie, ((compare (some oldest) (some otherOldest)).then tie).isLE = true →
      oldest < otherOldest := by
    intro tie notAfter
    rcases Nat.lt_or_gt_of_ne different with before | after
    · exact before
    · have compared : compare (some oldest) (some otherOldest) = .gt :=
        Nat.compare_eq_gt.mpr after
      simp [compared] at notAfter
  simp only [order, Admission.isFull_tracked] at sorted
  simp only [Admission.tracked, front, otherFront] at sorted
  cases oneShort : one.history.isShort k <;> cases otherShort : other.history.isShort k <;>
    simp only [oneShort, otherShort, History.precedes] at sorted ⊢
  case false.false =>
    rw [History.kthLatest?_eq_head?_latest, History.kthLatest?_eq_head?_latest, front, otherFront]
    simpa [History.isEarlier] using earlier _ sorted
  case false.true => cases sorted
  case true.true =>
    rw [History.first?_eq_head?_latest oneShort, History.first?_eq_head?_latest otherShort, front,
      otherFront]
    simpa [History.isEarlier] using earlier _ sorted

end Tracked

end PageBuffer
