import PageBuffer.Cache
import PageBuffer.Proofs.Keyed
import PageBuffer.Proofs.Replacer.Order
import PageBuffer.Proofs.Table.Refinement

/-!
The residents of a cache with their frames, and what a page table and a replacer hold of them.

Putting a resident into a frame, or taking it out, does to this list what a finite map from frames
to residents does.
-/

namespace PageBuffer.Cache

variable {cache : Cache} {frame other : Nat} {resident present : Resident} {page : PageId}

def residents (cache : Cache) : List (Nat × Resident) :=
  cache.frames.zipIdx.filterMap fun (resident, frame) => resident.map (frame, ·)

/-- Which page is in which frame, as a page table has it. -/
def mapping (cache : Cache) : Table.Contents PageId FrameId :=
  ⟨cache.residents.map fun (frame, resident) => (resident.page, Int.ofNat frame)⟩

def admission (frame : Nat) (resident : Resident) : Replacer.Admission :=
  { frame := Int.ofNat frame, history := resident.history, evictable := !resident.pinned }

/-- The accesses of each frame, as a replacer that never forgets has them. -/
def admissions (cache : Cache) : List Replacer.Admission :=
  cache.residents.map fun (frame, resident) => admission frame resident

/-- The resident pages, in the order of their frames. -/
def residentPages (cache : Cache) : List PageId :=
  cache.frames.filterMap (·.map (·.page))

theorem mem_residents : (frame, resident) ∈ cache.residents ↔
    cache.frames[frame]? = some (some resident) := by
  simp only [residents, List.mem_filterMap, Prod.exists, List.mem_zipIdx_iff_getElem?]
  constructor
  · rintro ⟨held, index, found, same⟩
    rcases Option.map_eq_some_iff.mp same with ⟨inFrame, rfl, same⟩
    cases same
    exact found
  · intro found
    exact ⟨some resident, frame, found, rfl⟩

theorem nodup_frames : (cache.residents.map (·.1)).Nodup := by
  have indices : cache.frames.zipIdx.Pairwise fun one other => one.2 < other.2 := by
    have ascending := List.pairwise_lt_range' (s := 0) (n := cache.frames.length)
    rwa [← List.zipIdx_map_snd, List.pairwise_map] at ascending
  refine List.Pairwise.map (R := fun one other => one.1 < other.1) _ ?_ ?_
  · intro one other before
    exact Nat.ne_of_lt before
  · rw [residents, List.pairwise_filterMap]
    refine indices.imp ?_
    rintro ⟨one, index⟩ ⟨other, later⟩ before first firstHeld second secondHeld
    rcases Option.map_eq_some_iff.mp firstHeld with ⟨_, _, rfl⟩
    rcases Option.map_eq_some_iff.mp secondHeld with ⟨_, _, rfl⟩
    exact before

theorem nodup_residents : cache.residents.Nodup := List.Nodup.of_map _ nodup_frames

@[simp]
theorem frames_put (cache : Cache) (frame : Nat) (held : Option Resident) :
    (cache.put frame held).frames = cache.frames.set frame held := rfl

@[simp]
theorem free_put (cache : Cache) (frame : Nat) (held : Option Resident) :
    (cache.put frame held).free = cache.free := rfl

/-- A resident put into a frame takes the place of the one there. -/
theorem residents_put_perm (inFrames : frame < cache.frames.length) (resident : Resident) :
    (cache.put frame (some resident)).residents.Perm
      ((frame, resident) :: cache.residents.filter (·.1 ≠ frame)) := by
  have distinct : ((frame, resident) :: cache.residents.filter (·.1 ≠ frame)).Nodup := by
    rw [List.nodup_cons]
    exact ⟨by simp, nodup_residents.filter _⟩
  rw [List.perm_ext_iff_of_nodup nodup_residents distinct]
  rintro ⟨index, present⟩
  rw [mem_residents, frames_put, List.getElem?_set, List.mem_cons, List.mem_filter, mem_residents]
  by_cases same : frame = index
  · subst same
    simp [inFrames, eq_comm]
  · simp [same, Ne.symm same]

theorem residents_put_none_perm (cache : Cache) (frame : Nat) :
    (cache.put frame none).residents.Perm (cache.residents.filter (·.1 ≠ frame)) := by
  rw [List.perm_ext_iff_of_nodup nodup_residents (nodup_residents.filter _)]
  rintro ⟨index, present⟩
  rw [mem_residents, frames_put, List.getElem?_set, List.mem_filter, mem_residents]
  by_cases same : frame = index
  · subst same
    simp
  · simp [same, Ne.symm same]

/-- The resident of a frame can be brought to the front. -/
theorem residents_perm_cons (held : cache.frames[frame]? = some (some resident)) :
    cache.residents.Perm ((frame, resident) :: cache.residents.filter (·.1 ≠ frame)) :=
  Keyed.perm_cons_filter nodup_frames (mem_residents.mpr held)

theorem filter_residents_of_vacant (vacant : cache.frames[frame]? = some none) :
    cache.residents.filter (·.1 ≠ frame) = cache.residents := by
  apply Keyed.filter_ne_eq_self
  intro member
  rcases List.mem_map.mp member with ⟨⟨index, resident⟩, stored, rfl⟩
  rw [mem_residents, vacant] at stored
  simp at stored

/-- A frame that is emptied first may as well be filled at once. -/
theorem access_put_none (cache : Cache) (frame : Nat) (page : PageId) (history : History) :
    (cache.put frame none).access frame page history = cache.access frame page history := by
  simp only [access, put, List.set_set]

section Mapping

theorem map_page_residents : cache.residents.map (·.2.page) = cache.residentPages := by
  rw [residents, List.map_filterMap, residentPages]
  conv_rhs => rw [← List.zipIdx_map_fst 0 cache.frames, List.filterMap_map]
  apply List.filterMap_congr
  rintro ⟨held, frame⟩ _
  cases held <;> rfl

theorem keys_mapping : cache.mapping.keys = cache.residentPages := by
  rw [← map_page_residents]
  simp [mapping, Table.Contents.keys, Function.comp_def]

theorem mem_mapping (held : cache.frames[frame]? = some (some resident)) :
    (resident.page, Int.ofNat frame) ∈ cache.mapping.entries :=
  List.mem_map.mpr ⟨(frame, resident), mem_residents.mpr held, rfl⟩

theorem not_mem_keys_mapping
    (absent : ∀ (frame : Nat) (resident : Resident),
      cache.frames[frame]? = some (some resident) → resident.page ≠ page) :
    page ∉ cache.mapping.keys := by
  rw [keys_mapping, ← map_page_residents]
  intro member
  rcases List.mem_map.mp member with ⟨⟨frame, resident⟩, stored, same⟩
  exact absent frame resident (mem_residents.mp stored) same

theorem exists_of_frameOf?_eq_some (found : cache.frameOf? page = some frame) :
    ∃ resident, cache.frames[frame]? = some (some resident) ∧ resident.page = page := by
  rcases List.findIdx?_eq_some_iff_getElem.mp found with ⟨inFrames, holds, _⟩
  rcases Option.any_eq_true_iff_get _ _ |>.mp holds with ⟨occupied, samePage⟩
  refine ⟨cache.frames[frame].get occupied, ?_, by simpa using samePage⟩
  rw [List.getElem?_eq_getElem inFrames, Option.some_get]

theorem frameOf?_eq_none_iff : cache.frameOf? page = none ↔
    ∀ (frame : Nat) (resident : Resident), cache.frames[frame]? = some (some resident) →
      resident.page ≠ page := by
  rw [frameOf?, List.findIdx?_eq_none_iff]
  constructor
  · intro absent frame resident held
    simpa using absent _ (List.mem_of_getElem? held)
  · intro elsewhere held member
    rcases List.mem_iff_getElem?.mp member with ⟨frame, found⟩
    cases held with
    | none => rfl
    | some resident => simpa using elsewhere frame resident found

theorem frameOf?_put_none (absent : cache.frameOf? page = none) (frame : Nat) :
    (cache.put frame none).frameOf? page = none := by
  rw [frameOf?_eq_none_iff] at absent ⊢
  intro other resident held
  rw [frames_put, List.getElem?_set] at held
  by_cases same : frame = other
  · rw [if_pos same] at held
    split at held <;> simp at held
  · rw [if_neg same] at held
    exact absent other resident held

/-- A page table with this mapping finds pages where the cache does. -/
theorem find?_mapping (distinct : cache.mapping.keys.Nodup) (page : PageId) :
    cache.mapping.find? page = (cache.frameOf? page).map Int.ofNat := by
  cases found : cache.frameOf? page with
  | none =>
      apply Table.Contents.find?_eq_none_iff_not_mem_keys.mpr
      exact not_mem_keys_mapping (frameOf?_eq_none_iff.mp found)
  | some frame =>
      obtain ⟨resident, held, rfl⟩ := exists_of_frameOf?_eq_some found
      have stored := (Keyed.find?_eq_some_iff distinct).mpr ⟨mem_mapping held, rfl⟩
      exact congrArg (Option.map (·.2)) stored

/-- Putting a new page into a vacant frame is an insertion into the page table. -/
theorem mapping_put_perm_of_vacant (vacant : cache.frames[frame]? = some none)
    (absent : cache.frameOf? resident.page = none) :
    (cache.put frame (some resident)).mapping.entries.Perm
      (cache.mapping.insert resident.page (Int.ofNat frame)).entries := by
  have inFrames := (List.getElem?_eq_some_iff.mp vacant).1
  have put := residents_put_perm inFrames resident
  have unmapped : resident.page ∉ cache.mapping.keys :=
    not_mem_keys_mapping (frameOf?_eq_none_iff.mp absent)
  have kept : (cache.mapping.remove resident.page).entries = cache.mapping.entries :=
    Keyed.filter_ne_eq_self unmapped
  rw [filter_residents_of_vacant vacant] at put
  rw [Table.Contents.insert, kept]
  exact put.map _

theorem mapping_put_perm_of_held (held : cache.frames[frame]? = some (some present))
    (samePage : resident.page = present.page) :
    (cache.put frame (some resident)).mapping.entries.Perm cache.mapping.entries := by
  have inFrames := (List.getElem?_eq_some_iff.mp held).1
  apply ((residents_put_perm inFrames resident).map _).trans
  refine .trans ?_ ((residents_perm_cons held).map _).symm
  simp only [List.map_cons, samePage]
  exact .refl _

theorem mapping_put_none_perm (distinct : cache.mapping.keys.Nodup)
    (held : cache.frames[frame]? = some (some resident)) :
    (cache.put frame none).mapping.entries.Perm
      (cache.mapping.remove resident.page).entries := by
  apply ((residents_put_none_perm cache frame).map _).trans
  rw [keys_mapping, ← map_page_residents] at distinct
  rw [Table.Contents.remove, mapping, List.filter_map]
  apply List.Perm.of_eq
  apply congrArg
  apply List.filter_congr
  rintro ⟨index, present⟩ stored
  simp only [Function.comp_apply, decide_eq_decide, not_iff_not]
  constructor
  · rintro rfl
    have same := (mem_residents.mp stored).symm.trans held
    simp at same
    rw [same]
  · intro samePage
    have same := Keyed.eq_of_key_eq distinct stored (mem_residents.mpr held) samePage
    exact congrArg Prod.fst same

end Mapping

section Admissions

theorem mem_admissions (held : cache.frames[frame]? = some (some resident)) :
    admission frame resident ∈ cache.admissions :=
  List.mem_map.mpr ⟨(frame, resident), mem_residents.mpr held, rfl⟩

theorem exists_of_mem_admissions {known : Replacer.Admission} (stored : known ∈ cache.admissions) :
    ∃ frame resident, cache.frames[frame]? = some (some resident) ∧
      known = admission frame resident := by
  rcases List.mem_map.mp stored with ⟨⟨frame, resident⟩, member, rfl⟩
  exact ⟨frame, resident, mem_residents.mp member, rfl⟩

theorem filter_admissions (cache : Cache) (frame : Nat) :
    cache.admissions.filter (·.frame ≠ Int.ofNat frame) =
      (cache.residents.filter (·.1 ≠ frame)).map fun (frame, resident) =>
        admission frame resident := by
  rw [admissions, List.filter_map]
  apply congrArg
  apply List.filter_congr
  rintro ⟨index, resident⟩ _
  simp [admission]

theorem admissions_put_perm (inFrames : frame < cache.frames.length) (resident : Resident) :
    (cache.put frame (some resident)).admissions.Perm
      (admission frame resident :: cache.admissions.filter (·.frame ≠ Int.ofNat frame)) := by
  rw [filter_admissions]
  exact (residents_put_perm inFrames resident).map _

theorem admissions_put_none_perm (cache : Cache) (frame : Nat) :
    (cache.put frame none).admissions.Perm
      (cache.admissions.filter (·.frame ≠ Int.ofNat frame)) := by
  rw [filter_admissions]
  exact (residents_put_none_perm cache frame).map _

theorem not_mem_frames_admissions (vacant : cache.frames[frame]? = some none) :
    Int.ofNat frame ∉ cache.admissions.map (·.frame) := by
  intro member
  rcases List.mem_map.mp member with ⟨known, stored, same⟩
  obtain ⟨index, resident, held, rfl⟩ := exists_of_mem_admissions stored
  cases Int.ofNat.inj same
  rw [vacant] at held
  simp at held

theorem unpinned_eq (cache : Cache) :
    cache.unpinned = (cache.admissions.filter (·.evictable)).map fun known =>
      (known.frame.toNat, known.history) := by
  rw [unpinned, admissions, residents, List.map_filterMap, ← List.filterMap_eq_filter,
    List.filterMap_filterMap, List.map_filterMap]
  apply List.filterMap_congr
  rintro ⟨held, frame⟩ _
  cases held with
  | none => rfl
  | some resident => cases pinned : resident.pinned <;> simp [admission, pinned, Option.guard]

theorem evictableCount_eq (cache : Cache) :
    cache.evictableCount = cache.admissions.countP (·.evictable) := by
  rw [evictableCount, unpinned_eq, List.length_map, List.countP_eq_length_filter]

/-- The frame of the admission that precedes all the other evictable ones is the cache's victim. -/
theorem victim?_eq_some {best : Replacer.Admission} (stored : best ∈ cache.admissions)
    (evictable : best.evictable = true)
    (first : ∀ other ∈ cache.admissions, other.evictable = true → other ≠ best →
      History.precedes cache.k best.history other.history = true) :
    cache.victim? = some best.frame.toNat := by
  have inUnpinned : ∀ other ∈ cache.admissions, other.evictable = true →
      (other.frame.toNat, other.history) ∈ cache.unpinned := by
    intro other otherStored otherEvictable
    rw [unpinned_eq]
    exact List.mem_map.mpr ⟨other, List.mem_filter.mpr ⟨otherStored, otherEvictable⟩, rfl⟩
  have unpreceded : (cache.unpinned.find? fun candidate => cache.unpinned.all fun other =>
      !History.precedes cache.k other.2 candidate.2) = some (best.frame.toNat, best.history) := by
    apply History.find?_unpreceded (inUnpinned best stored evictable)
    intro other member different
    rw [unpinned_eq] at member
    rcases List.mem_map.mp member with ⟨known, knownEvictable, rfl⟩
    rcases List.mem_filter.mp knownEvictable with ⟨knownStored, knownEvictable⟩
    refine first known knownStored knownEvictable ?_
    rintro rfl
    exact different rfl
  rw [victim?, unpreceded]
  rfl

theorem victim?_eq_none (pinned : ∀ known ∈ cache.admissions, known.evictable = false) :
    cache.victim? = none := by
  have noneEvictable : cache.admissions.filter (·.evictable) = [] := by
    simpa [List.filter_eq_nil_iff] using pinned
  rw [victim?, unpinned_eq, noneEvictable]
  rfl

end Admissions

theorem len_eq (cache : Cache) : cache.len = cache.residents.length := by
  rw [len, residents, List.length_filterMap_eq_countP]
  conv_lhs => rw [← List.zipIdx_map_fst 0 cache.frames, List.countP_map]
  apply List.countP_congr
  simp

@[simp]
theorem pages_put (cache : Cache) (frame : Nat) (held : Option Resident) :
    (cache.put frame held).pages = cache.pages.set frame (held.elim noPage (·.page)) := by
  rw [pages, pages, frames_put, List.map_set]

theorem getElem?_pages (frame : Nat) :
    cache.pages[frame]? = cache.frames[frame]?.map (·.elim noPage (·.page)) := by
  rw [pages, List.getElem?_map]

theorem pages_put_of_held (held : cache.frames[frame]? = some (some present))
    (samePage : resident.page = present.page) :
    (cache.put frame (some resident)).pages = cache.pages := by
  have inFrames := (List.getElem?_eq_some_iff.mp held).1
  apply List.ext_getElem?
  intro index
  rw [getElem?_pages, getElem?_pages, frames_put, List.getElem?_set]
  by_cases same : frame = index
  · subst same
    rw [if_pos rfl, if_pos inFrames, held]
    exact congrArg some samePage
  · rw [if_neg same]

end PageBuffer.Cache
