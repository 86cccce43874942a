import Mathlib.Data.List.Nodup
import PageBuffer.Settings.Grammar
import PageBuffer.Settings.Json

/-!
Gifts laid over settings one after another.

If no field is given twice their order does not matter, and `Overlays` says what they come to.  The
draft of an object takes gifts as long as that is so.
-/

namespace PageBuffer.Settings

variable {settings other : Settings} {gifts others : List Gift} {field : Field}

/-- The settings with each gift put in its place. -/
def overlaid (settings : Settings) : List Gift → Settings
  | [] => settings
  | gift :: rest => (settings.set gift.1 gift.2).overlaid rest

theorem get_overlaid_of_absent (absent : field ∉ gifts.map Prod.fst) :
    (settings.overlaid gifts).get field = settings.get field := by
  induction gifts generalizing settings with
  | nil => rfl
  | cons gift rest inductionHypothesis =>
      rw [List.map_cons, List.mem_cons, not_or] at absent
      rw [overlaid, inductionHypothesis absent.2, get_set, if_neg absent.1]

theorem get_overlaid_of_mem {gift : Gift} (distinct : (gifts.map Prod.fst).Nodup)
    (given : gift ∈ gifts) : (settings.overlaid gifts).get gift.1 = gift.2 := by
  induction gifts generalizing settings with
  | nil => cases given
  | cons first rest inductionHypothesis =>
      rw [List.map_cons, List.nodup_cons] at distinct
      rw [overlaid]
      rcases List.mem_cons.mp given with rfl | later
      · rw [get_overlaid_of_absent distinct.1, get_set, if_pos rfl]
      · exact inductionHypothesis distinct.2 later

theorem overlays_overlaid (distinct : (gifts.map Prod.fst).Nodup) :
    Overlays gifts (({} : Settings).overlaid gifts) where
  get_given _ given := get_overlaid_of_mem distinct given
  get_absent _ absent := get_overlaid_of_absent absent

/-- Gifts leave nothing open. -/
theorem Overlays.eq (overlays : Overlays gifts settings) (others : Overlays gifts other) :
    settings = other := by
  apply ext_get
  intro field
  by_cases given : field ∈ gifts.map Prod.fst
  · obtain ⟨gift, member, rfl⟩ := List.mem_map.mp given
    rw [overlays.get_given gift member, others.get_given gift member]
  · rw [overlays.get_absent field given, others.get_absent field given]

theorem Overlays.of_perm (overlays : Overlays gifts settings) (perm : gifts.Perm others) :
    Overlays others settings where
  get_given gift given := overlays.get_given gift (perm.mem_iff.mpr given)
  get_absent field absent :=
    overlays.get_absent field fun given => absent ((perm.map Prod.fst).mem_iff.mp given)

theorem overlaid_eq_of_perm (distinct : (gifts.map Prod.fst).Nodup) (perm : gifts.Perm others) :
    ({} : Settings).overlaid gifts = ({} : Settings).overlaid others := by
  have distinctOthers := (perm.map Prod.fst).nodup_iff.mp distinct
  exact ((overlays_overlaid distinct).of_perm perm).eq (overlays_overlaid distinctOthers)

namespace Draft

/-- The draft with each gift taken, as long as no field has been given before. -/
def giveAll (draft : Draft) : List Gift → Except Json.Fault Draft
  | [] => .ok draft
  | gift :: rest =>
      if gift.1 ∈ draft.given then .error .mismatched else (draft.give gift.1 gift.2).giveAll rest

theorem giveAll_append (draft : Draft) (gifts others : List Gift) :
    draft.giveAll (gifts ++ others) = draft.giveAll gifts >>= fun next => next.giveAll others := by
  induction gifts generalizing draft with
  | nil => rfl
  | cons gift rest inductionHypothesis =>
      rw [List.cons_append, giveAll, giveAll]
      split
      · rfl
      · exact inductionHypothesis _

theorem giveAll_map_settings (draft : Draft) (gifts : List Gift) :
    (draft.giveAll gifts).map Draft.settings =
      if (∀ gift ∈ gifts, gift.1 ∉ draft.given) ∧ (gifts.map Prod.fst).Nodup then
        .ok (draft.settings.overlaid gifts)
      else
        .error .mismatched := by
  induction gifts generalizing draft with
  | nil => simp [giveAll, overlaid, Except.map]
  | cons gift rest inductionHypothesis =>
      rw [giveAll]
      by_cases repeated : gift.1 ∈ draft.given
      · simp [repeated, Except.map]
      · rw [if_neg repeated, inductionHypothesis, overlaid]
        refine if_congr ?_ rfl rfl
        simp only [give, List.mem_cons, not_or, List.map_cons, List.nodup_cons, List.mem_map]
        grind

theorem giveAll_initial_map_settings (gifts : List Gift) :
    (({} : Draft).giveAll gifts).map Draft.settings =
      if (gifts.map Prod.fst).Nodup then .ok (({} : Settings).overlaid gifts)
      else .error .mismatched := by
  simp [giveAll_map_settings]

end Draft

end PageBuffer.Settings
