import Mathlib.Data.List.Nodup

/-!
Lists whose items have distinct keys.  Such a list is a finite map: an item is found by its key
wherever it stands, and it can be brought to the front.
-/

namespace PageBuffer.Keyed

variable {α κ : Type} {key : α → κ} {list other : List α} {item : α} {sought : κ}

theorem eq_of_key_eq (distinct : (list.map key).Nodup) {present : α} (stored : item ∈ list)
    (presentStored : present ∈ list) (same : key item = key present) : item = present :=
  List.inj_on_of_nodup_map distinct stored presentStored same

theorem nodup_filter (distinct : (list.map key).Nodup) (test : α → Bool) :
    ((list.filter test).map key).Nodup :=
  (List.filter_sublist.map key).nodup distinct

variable [DecidableEq κ]

theorem find?_eq_some_iff (distinct : (list.map key).Nodup) :
    list.find? (key · = sought) = some item ↔ item ∈ list ∧ key item = sought := by
  constructor
  · intro found
    exact ⟨List.mem_of_find?_eq_some found, by simpa using List.find?_some found⟩
  · rintro ⟨stored, rfl⟩
    cases found : list.find? (key · = key item) with
    | none =>
        have absent := List.find?_eq_none.mp found item stored
        simp at absent
    | some present =>
        have same : key present = key item := by simpa using List.find?_some found
        rw [eq_of_key_eq distinct stored (List.mem_of_find?_eq_some found) same.symm]

/-- Look-ups do not depend on the order of the items. -/
theorem find?_eq_of_perm (distinct : (list.map key).Nodup) (perm : list.Perm other)
    (sought : κ) : list.find? (key · = sought) = other.find? (key · = sought) := by
  have otherDistinct : (other.map key).Nodup := (perm.map key).nodup_iff.mp distinct
  apply Option.ext
  intro item
  rw [find?_eq_some_iff distinct, find?_eq_some_iff otherDistinct, perm.mem_iff]

theorem filter_ne_eq_self (absent : sought ∉ list.map key) :
    list.filter (key · ≠ sought) = list := by
  rw [List.filter_eq_self]
  intro item stored
  simp only [decide_eq_true_eq]
  rintro rfl
  exact absent (List.mem_map_of_mem stored)

theorem filter_cons_ne (distinct : ((item :: list).map key).Nodup) :
    (item :: list).filter (key · ≠ key item) = list := by
  rw [List.map_cons, List.nodup_cons] at distinct
  rw [List.filter_cons_of_neg (by simp), filter_ne_eq_self distinct.1]

/-- A stored item can be brought to the front. -/
theorem perm_cons_filter (distinct : (list.map key).Nodup) (stored : item ∈ list) :
    list.Perm (item :: list.filter (key · ≠ key item)) := by
  induction list with
  | nil => simp at stored
  | cons head tail inductionHypothesis =>
      rw [List.map_cons, List.nodup_cons] at distinct
      rcases List.mem_cons.mp stored with rfl | inTail
      · rw [List.filter_cons_of_neg (by simp), filter_ne_eq_self distinct.1]
      · have different : key head ≠ key item := by
          intro same
          exact distinct.1 (same ▸ List.mem_map_of_mem inTail)
        rw [List.filter_cons_of_pos (by simpa using different)]
        exact ((inductionHypothesis distinct.2 inTail).cons head).trans (.swap _ _ _)

/-- Changing one item changes it where it stands, as if it had been taken out and put back. -/
theorem map_change_perm (distinct : (list.map key).Nodup) (stored : item ∈ list)
    (change : α → α) :
    (list.map fun present => if key present = key item then change present else present).Perm
      (change item :: list.filter (key · ≠ key item)) := by
  apply ((perm_cons_filter distinct stored).map _).trans
  rw [List.map_cons, if_pos rfl]
  apply List.Perm.cons
  rw [List.map_congr_left (g := id), List.map_id]
  intro present kept
  have different : key present ≠ key item := by simpa using (List.mem_filter.mp kept).2
  exact if_neg different

end PageBuffer.Keyed
