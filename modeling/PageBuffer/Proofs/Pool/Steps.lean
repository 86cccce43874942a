import PageBuffer.Proofs.Pool.Residents

/-!
What the calls on a cache come to, case by case, and that each leaves its free list true.
-/

namespace PageBuffer.Cache

variable {cache : Cache} {frame clock : Nat} {rest : List Nat} {resident : Resident}

/-- The free list has every frame that holds no page, once. -/
structure Tidy (cache : Cache) : Prop where
  free_nodup : cache.free.Nodup
  mem_free : ∀ frame, frame ∈ cache.free ↔ cache.frames[frame]? = some none

theorem tidy_create (size k : Nat) : (create size k).Tidy where
  free_nodup := List.nodup_range
  mem_free frame := by
    rw [create, List.mem_range, List.getElem?_replicate]
    split <;> simp [*]

namespace Tidy

variable (tidy : cache.Tidy)

include tidy

theorem vacant (next : cache.free = frame :: rest) : cache.frames[frame]? = some none :=
  (tidy.mem_free frame).mp (next ▸ List.mem_cons_self)

theorem reseat (found : cache.frames[frame]? = some (some resident)) (changed : Resident) :
    Tidy { cache.put frame (some changed) with clock } where
  free_nodup := tidy.free_nodup
  mem_free other := by
    apply (tidy.mem_free other).trans
    rw [frames_put, List.getElem?_set]
    by_cases same : frame = other
    · subst same
      simp [found]
    · rw [if_neg same]

theorem take (next : cache.free = frame :: rest) (loaded : Resident) :
    Tidy { { cache with free := rest }.put frame (some loaded) with clock } where
  free_nodup := by
    have distinct := tidy.free_nodup
    rw [next, List.nodup_cons] at distinct
    exact distinct.2
  mem_free other := by
    have distinct := tidy.free_nodup
    have inFrames := (List.getElem?_eq_some_iff.mp (tidy.vacant next)).1
    have before := tidy.mem_free other
    rw [next, List.nodup_cons] at distinct
    rw [next, List.mem_cons] at before
    rw [frames_put, List.getElem?_set]
    by_cases same : frame = other
    · subst same
      simpa [inFrames] using distinct.1
    · rw [if_neg same, ← before]
      simp [Ne.symm same]

theorem release (found : cache.frames[frame]? = some (some resident)) :
    Tidy { cache.put frame none with free := cache.free ++ [frame] } where
  free_nodup := by
    have occupied : frame ∉ cache.free := by
      rw [tidy.mem_free, found]
      simp
    rw [List.nodup_append]
    refine ⟨tidy.free_nodup, List.nodup_singleton frame, ?_⟩
    rintro other inFree _ last rfl
    exact occupied (List.mem_singleton.mp last ▸ inFree)
  mem_free other := by
    have inFrames := (List.getElem?_eq_some_iff.mp found).1
    rw [List.mem_append, List.mem_singleton, tidy.mem_free, frames_put, List.getElem?_set]
    by_cases same : frame = other
    · subst same
      simp [inFrames]
    · simp [same, Ne.symm same]

end Tidy

section Branches

theorem residentIn_eq (held : cache.frames[frame]? = some (some resident)) :
    cache.residentIn frame = some resident := by
  rw [residentIn, held]
  rfl

theorem fetch_of_held {page : PageId} (found : cache.frameOf? page = some frame)
    (held : cache.frames[frame]? = some (some resident)) :
    cache.fetch page = (some frame, cache.access frame page resident.history) := by
  rw [fetch, found]
  simp only [residentIn_eq held]
  rfl

theorem fetch_of_free {page : PageId} (absent : cache.frameOf? page = none)
    (free : cache.free = frame :: rest) :
    cache.fetch page = (some frame, { cache with free := rest }.access frame page []) := by
  rw [fetch, absent]
  simp only [free]

theorem fetch_of_evicted {page : PageId} (absent : cache.frameOf? page = none)
    (free : cache.free = []) (chosen : cache.victim? = some frame) :
    cache.fetch page = (some frame, cache.access frame page []) := by
  rw [fetch, absent]
  simp only [free, chosen]

theorem fetch_of_pinned {page : PageId} (absent : cache.frameOf? page = none)
    (free : cache.free = []) (noVictim : cache.victim? = none) :
    cache.fetch page = (none, cache) := by
  rw [fetch, absent]
  simp only [free, noVictim]

theorem delete_of_pinned {page : PageId} (found : cache.frameOf? page = some frame)
    (held : cache.frames[frame]? = some (some resident)) (pinned : resident.pinned = true) :
    cache.delete page = (.error (.removeNonEvictable (Int.ofNat frame)), cache) := by
  have isPinned : cache.isPinned frame = true := by
    rw [isPinned, residentIn_eq held, Option.any_some, pinned]
  rw [delete, found]
  simp only [isPinned, if_true]
  rfl

theorem delete_of_unpinned {page : PageId} (found : cache.frameOf? page = some frame)
    (held : cache.frames[frame]? = some (some resident)) (unpinned : resident.pinned = false) :
    cache.delete page =
      (.ok (), { cache.put frame none with free := cache.free ++ [frame] }) := by
  have isPinned : cache.isPinned frame = false := by
    rw [isPinned, residentIn_eq held, Option.any_some, unpinned]
  rw [delete, found]
  simp only [isPinned, Bool.false_eq_true, if_false]

end Branches

end PageBuffer.Cache
