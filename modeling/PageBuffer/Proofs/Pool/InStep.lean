import PageBuffer.Proofs.Pool.Branches
import PageBuffer.Proofs.Pool.Residents

/-!
The parts of a pool, each in step with a cache: the page table has the cache's mapping, the replacer
keeps its admissions, and the free list and the array of pages are the cache's own.

Every change that a pool makes to several of its parts is one change to the cache.
-/

namespace PageBuffer.Pool

variable {hash : HashFunction PageId} {bucketSize depth : Nat} {pool : Pool} {cache : Cache}
  {frame : Nat} {page : PageId} {resident : Resident} {held : Option Resident}

structure InStep (hash : HashFunction PageId) (bucketSize depth : Nat) (pool : Pool)
    (cache : Cache) : Prop where
  represents : Table.Represents hash bucketSize depth pool.pageTable cache.mapping
  keeps : Replacer.Keeps pool.replacer cache.admissions
  capacity_eq : pool.replacer.capacity = cache.frames.length
  k_eq : pool.replacer.k = cache.k
  clock_eq : pool.replacer.clock = cache.clock
  free_eq : pool.free = cache.free.map Int.ofNat
  resident_eq : pool.resident.toList = cache.pages
  page_ne : ∀ (frame : Nat) (resident : Resident), cache.frames[frame]? = some (some resident) →
    resident.page ≠ noPage

namespace InStep

variable (inStep : InStep hash bucketSize depth pool cache)

include inStep

theorem find_eq (page : PageId) :
    pool.find hash page = .ok ((cache.frameOf? page).map Int.ofNat) := by
  rw [find, inStep.represents.find_eq, Cache.find?_mapping inStep.represents.distinct]
  rfl

theorem inFrames (found : cache.frames[frame]? = some held) : frame < pool.resident.size := by
  have sameLength := congrArg List.length inStep.resident_eq
  rw [Array.length_toList, Cache.pages, List.length_map] at sameLength
  rw [sameLength]
  exact (List.getElem?_eq_some_iff.mp found).1

theorem inRange (found : cache.frames[frame]? = some held) :
    0 ≤ Int.ofNat frame ∧ Int.ofNat frame < pool.replacer.capacity := by
  rw [inStep.capacity_eq]
  exact ⟨Int.natCast_nonneg frame, Int.ofNat_lt.mpr (List.getElem?_eq_some_iff.mp found).1⟩

theorem pageIn_eq (found : cache.frames[frame]? = some (some resident)) :
    pool.pageIn (Int.ofNat frame) = .ok resident.page := by
  apply pageIn_eq_ok
  rw [← Array.getElem?_toList, inStep.resident_eq, Cache.getElem?_pages, found]
  rfl

theorem resident_setIfInBounds (frame : Nat) (held : Option Resident) :
    (pool.resident.setIfInBounds frame (held.elim noPage (·.page))).toList =
      (cache.put frame held).pages := by
  rw [Array.toList_setIfInBounds, inStep.resident_eq, Cache.pages_put]

theorem page_ne_put (pageNe : ∀ resident, held = some resident → resident.page ≠ noPage) :
    ∀ (other : Nat) (resident : Resident),
      (cache.put frame held).frames[other]? = some (some resident) → resident.page ≠ noPage := by
  intro other resident found
  rw [Cache.frames_put, List.getElem?_set] at found
  split at found
  · split at found
    · exact pageNe resident (Option.some.inj found)
    · simp at found
  · exact inStep.page_ne other resident found

/-- Changing the resident of a frame, and not its page, is a change to the replacer only. -/
theorem reseat {replacer : Replacer} {clock : Nat} (changed : Resident)
    (found : cache.frames[frame]? = some (some resident)) (samePage : changed.page = resident.page)
    (keeps : Replacer.Keeps replacer
      (Cache.admission frame changed :: cache.admissions.filter (·.frame ≠ Int.ofNat frame)))
    (sameCapacity : replacer.capacity = pool.replacer.capacity)
    (sameK : replacer.k = pool.replacer.k) (sameClock : replacer.clock = clock) :
    InStep hash bucketSize depth { pool with replacer }
      { cache.put frame (some changed) with clock } := by
  have inFrames := (List.getElem?_eq_some_iff.mp found).1
  constructor
  case represents =>
    exact inStep.represents.of_perm (Cache.mapping_put_perm_of_held found samePage).symm
  case keeps => exact keeps.of_perm (Cache.admissions_put_perm inFrames changed).symm
  case capacity_eq => simpa using sameCapacity.trans inStep.capacity_eq
  case k_eq => exact sameK.trans inStep.k_eq
  case clock_eq => exact sameClock
  case free_eq => exact inStep.free_eq
  case resident_eq =>
    exact inStep.resident_eq.trans (Cache.pages_put_of_held found samePage).symm
  case page_ne =>
    apply inStep.page_ne_put
    intro _ same
    rw [← Option.some.inj same, samePage]
    exact inStep.page_ne frame resident found

/-- An access to a resident pins it. -/
theorem exists_pin (found : cache.frames[frame]? = some (some resident)) :
    ∃ next, pool.pin (Int.ofNat frame) = .ok next ∧
      InStep hash bucketSize depth next (cache.access frame resident.page resident.history) := by
  have inRange := inStep.inRange found
  refine ⟨_, pin_eq_ok inRange, ?_⟩
  refine inStep.reseat
    { resident with pinned := true, history := resident.history ++ [cache.clock] }
    found rfl ?_ ?_ ?_ ?_
  · rw [← inStep.clock_eq]
    exact inStep.keeps.pin_known inRange (Cache.mem_admissions found)
  · rw [Replacer.capacity_mark, Replacer.capacity_touch]
  · rw [Replacer.k_mark, Replacer.k_touch]
  · rw [Replacer.clock_mark, (Replacer.touch_of_inRange inRange).2.1, inStep.clock_eq]

theorem unpin (found : cache.frames[frame]? = some (some resident)) :
    InStep hash bucketSize depth { pool with replacer := pool.replacer.mark (Int.ofNat frame) true }
      (cache.put frame (some { resident with pinned := false })) := by
  refine inStep.reseat { resident with pinned := false } found rfl ?_ ?_ ?_ ?_
  · exact inStep.keeps.mark_known (Cache.mem_admissions found) true
  · rw [Replacer.capacity_mark]
  · rw [Replacer.k_mark]
  · rw [Replacer.clock_mark, inStep.clock_eq]

/-- A page can be loaded into a frame that holds none, if its hash is not crowded. -/
theorem exists_load (vacant : cache.frames[frame]? = some none) (shallow : depth ≤ 63)
    (absent : cache.frameOf? page = none) (pageNe : page ≠ noPage)
    (sparse : Table.Sparse hash depth bucketSize (cache.access frame page []).mapping.keys) :
    ∃ next, pool.load hash page (Int.ofNat frame) = .ok next ∧
      InStep hash bucketSize depth next (cache.access frame page []) := by
  have inRange := inStep.inRange vacant
  let loaded : Resident := { page, pinned := true, history := [cache.clock] }
  have mappings : (cache.put frame (some loaded)).mapping.entries.Perm
      (cache.mapping.insert page (Int.ofNat frame)).entries :=
    Cache.mapping_put_perm_of_vacant vacant absent
  obtain ⟨pageTable, events, inserted, represents⟩ :=
    inStep.represents.exists_insert shallow (sparse.of_perm (mappings.map _))
  have inFrames := pageIn_eq_ok (Array.getElem?_eq_getElem (inStep.inFrames vacant))
  refine ⟨pool.seat pageTable page (Int.ofNat frame), load_eq_ok inFrames inRange inserted, ?_⟩
  constructor
  case represents => exact represents.of_perm mappings.symm
  case keeps =>
    have keeps := inStep.keeps.pin_new inRange (Cache.not_mem_frames_admissions vacant)
    rw [inStep.clock_eq] at keeps
    exact keeps.of_perm
      (Cache.admissions_put_perm (List.getElem?_eq_some_iff.mp vacant).1 loaded).symm
  case capacity_eq =>
    rw [seat, Replacer.capacity_mark, Replacer.capacity_touch]
    simpa [Cache.access] using inStep.capacity_eq
  case k_eq =>
    rw [seat, Replacer.k_mark, Replacer.k_touch]
    exact inStep.k_eq
  case clock_eq =>
    rw [seat, Replacer.clock_mark, (Replacer.touch_of_inRange inRange).2.1]
    exact congrArg (· + 1) inStep.clock_eq
  case free_eq => exact inStep.free_eq
  case resident_eq => exact inStep.resident_setIfInBounds frame (some loaded)
  case page_ne =>
    apply inStep.page_ne_put
    intro _ same
    rw [← Option.some.inj same]
    exact pageNe

/-- An unpinned page can be taken out of the page table, the replacer and the array of pages. -/
theorem exists_clear (found : cache.frames[frame]? = some (some resident))
    (unpinned : resident.pinned = false) :
    ∃ pageTable, pool.pageTable.remove hash resident.page = .ok (true, pageTable) ∧
      InStep hash bucketSize depth
        (clear { pool with replacer := pool.replacer.forget (Int.ofNat frame) } pageTable
          (Int.ofNat frame))
        (cache.put frame none) := by
  have present : (cache.mapping.find? resident.page).isSome = true := by
    have stored := (Keyed.find?_eq_some_iff inStep.represents.distinct).mpr
      ⟨Cache.mem_mapping found, rfl⟩
    rw [Table.Contents.find?, stored]
    rfl
  obtain ⟨pageTable, removed, represents⟩ := inStep.represents.exists_remove resident.page
  rw [present] at removed
  refine ⟨pageTable, removed, ?_⟩
  constructor
  case represents =>
    exact represents.of_perm
      (Cache.mapping_put_none_perm inStep.represents.distinct found).symm
  case keeps =>
    have evictable : (Cache.admission frame resident).evictable = true := by
      simp [Cache.admission, unpinned]
    exact (inStep.keeps.forget (Cache.mem_admissions found) evictable).of_perm
      (Cache.admissions_put_none_perm cache frame).symm
  case capacity_eq => simpa [Replacer.forget, clear] using inStep.capacity_eq
  case k_eq => exact inStep.k_eq
  case clock_eq => exact inStep.clock_eq
  case free_eq => exact inStep.free_eq
  case resident_eq => exact inStep.resident_setIfInBounds frame none
  case page_ne => exact inStep.page_ne_put (by simp)

/-- The page of an evicted frame can be taken out of it. -/
theorem exists_vacate (found : cache.frames[frame]? = some (some resident))
    (unpinned : resident.pinned = false) :
    ∃ emptied, vacate { pool with replacer := pool.replacer.forget (Int.ofNat frame) } hash
        (Int.ofNat frame) = .ok emptied ∧
      InStep hash bucketSize depth emptied (cache.put frame none) := by
  obtain ⟨pageTable, removed, cleared⟩ := inStep.exists_clear found unpinned
  have inFrames : pageIn { pool with replacer := pool.replacer.forget (Int.ofNat frame) }
      (Int.ofNat frame) = .ok resident.page := inStep.pageIn_eq found
  exact ⟨_, vacate_eq_ok inFrames (inStep.page_ne frame resident found) removed, cleared⟩

/-- An unpinned page can be dropped and its frame queued. -/
theorem exists_discard (found : cache.frames[frame]? = some (some resident))
    (unpinned : resident.pinned = false) :
    ∃ next, discard { pool with replacer := pool.replacer.forget (Int.ofNat frame) } hash
        resident.page (Int.ofNat frame) = .ok next ∧
      InStep hash bucketSize depth next
        { cache.put frame none with free := cache.free ++ [frame] } := by
  obtain ⟨pageTable, removed, cleared⟩ := inStep.exists_clear found unpinned
  have inFrames : pageIn { pool with replacer := pool.replacer.forget (Int.ofNat frame) }
      (Int.ofNat frame) = .ok resident.page := inStep.pageIn_eq found
  have free_eq : pool.free ++ [Int.ofNat frame] = (cache.free ++ [frame]).map Int.ofNat := by
    rw [List.map_append, ← inStep.free_eq]
    rfl
  exact ⟨_, discard_eq_ok inFrames removed, { cleared with free_eq }⟩

end InStep

end PageBuffer.Pool
