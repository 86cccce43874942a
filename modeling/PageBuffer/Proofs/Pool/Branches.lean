import PageBuffer.Pool.Run
import PageBuffer.Proofs.Replacer.Keeping

/-!
What each operation of a pool comes to, branch by branch, and what its changes do to the parts.
-/

namespace PageBuffer.Pool

variable {hash : HashFunction PageId} {pool : Pool} {page : PageId}

section Parts

theorem pageIn_eq_ok_iff {frame : FrameId} :
    pool.pageIn frame = .ok page ↔ 0 ≤ frame ∧ pool.resident[frame.toNat]? = some page := by
  unfold pageIn
  split
  · rename_i negative
    simp [Int.not_le.mpr negative]
  · rename_i natural
    rw [Int.not_lt] at natural
    cases pool.resident[frame.toNat]? <;> simp [natural]

theorem pageIn_eq_ok {frame : Nat} (found : pool.resident[frame]? = some page) :
    pool.pageIn (Int.ofNat frame) = .ok page :=
  pageIn_eq_ok_iff.mpr ⟨Int.natCast_nonneg frame, found⟩

theorem setPage_of_pageIn {frame : FrameId} {former : PageId}
    (inFrames : pool.pageIn frame = .ok former) (page : PageId) :
    pool.setPage frame page =
      .ok { pool with resident := pool.resident.setIfInBounds frame.toNat page } := by
  rw [setPage, inFrames]
  rfl

/-- What is put into a frame is there afterwards, and the other frames are as they were. -/
theorem pageIn_setIfInBounds {frame other : FrameId} {former : PageId} {changed : Pool}
    (inFrames : pool.pageIn frame = .ok former)
    (resident : changed.resident = pool.resident.setIfInBounds frame.toNat page) :
    changed.pageIn other = if other = frame then .ok page else pool.pageIn other := by
  rcases pageIn_eq_ok_iff.mp inFrames with ⟨natural, found⟩
  have inside := (Array.getElem?_eq_some_iff.mp found).1
  by_cases same : other = frame
  · rw [if_pos same, pageIn_eq_ok_iff, resident, same,
      Array.getElem?_setIfInBounds_self_of_lt inside]
    exact ⟨natural, rfl⟩
  · rw [if_neg same, pageIn, pageIn, resident]
    split
    · rfl
    · rename_i otherNatural
      have different : frame.toNat ≠ other.toNat := by
        intro sameIndex
        apply same
        rw [← Int.toNat_of_nonneg natural, sameIndex,
          Int.toNat_of_nonneg (Int.not_lt.mp otherNatural)]
      rw [Array.getElem?_setIfInBounds_ne different]

theorem pin_eq_ok {frame : FrameId} (inRange : 0 ≤ frame ∧ frame < pool.replacer.capacity) :
    pool.pin frame =
      .ok { pool with replacer := (pool.replacer.touch frame).state.mark frame false } := by
  rw [pin, (Replacer.touch_of_inRange inRange).1]

theorem find_eq_ok_iff {answer : Option FrameId} :
    pool.find hash page = .ok answer ↔ pool.pageTable.find hash page = .ok answer :=
  Fallible.mapError_eq_ok_iff

end Parts

section Changes

variable {frame : FrameId} {former : PageId} {pageTable : Table PageId FrameId}

/-- The pool after a page was put into a frame, mapped to it, and pinned there. -/
def seat (pool : Pool) (pageTable : Table PageId FrameId) (page : PageId) (frame : FrameId) :
    Pool :=
  { pool with
    pageTable
    replacer := (pool.replacer.touch frame).state.mark frame false
    resident := pool.resident.setIfInBounds frame.toNat page }

/-- The pool after a frame was emptied and its page unmapped. -/
def clear (pool : Pool) (pageTable : Table PageId FrameId) (frame : FrameId) : Pool :=
  { pool with pageTable, resident := pool.resident.setIfInBounds frame.toNat noPage }

theorem load_eq_ok {events : List Table.Event} (inFrames : pool.pageIn frame = .ok former)
    (inRange : 0 ≤ frame ∧ frame < pool.replacer.capacity)
    (inserted : pool.pageTable.insert hash page frame = .ok (pageTable, events)) :
    pool.load hash page frame = .ok (pool.seat pageTable page frame) := by
  rw [load, setPage_of_pageIn inFrames]
  simp only [bind, Except.bind, inserted, Except.mapError]
  exact pin_eq_ok inRange

theorem load_of_fault {fault : Table.Fault} (inFrames : pool.pageIn frame = .ok former)
    (failed : pool.pageTable.insert hash page frame = .error fault) :
    pool.load hash page frame = .error (.table fault) := by
  rw [load, setPage_of_pageIn inFrames]
  simp only [bind, Except.bind, failed, Except.mapError]

theorem clear_eq_ok (inFrames : pool.pageIn frame = .ok former)
    (pageTable : Table PageId FrameId) :
    setPage { pool with pageTable } frame noPage = .ok (pool.clear pageTable frame) := by
  have inFrames : pageIn { pool with pageTable } frame = .ok former := inFrames
  exact setPage_of_pageIn inFrames noPage

theorem vacate_eq_ok (inFrames : pool.pageIn frame = .ok former) (formerNe : former ≠ noPage)
    (removed : pool.pageTable.remove hash former = .ok (true, pageTable)) :
    pool.vacate hash frame = .ok (pool.clear pageTable frame) := by
  rw [vacate, inFrames]
  simp only [bind, Except.bind, if_neg formerNe, removed, Except.mapError, if_true]
  exact clear_eq_ok inFrames pageTable

theorem vacate_of_noPage (empty : pool.pageIn frame = .ok noPage) :
    pool.vacate hash frame = .error (.vacant frame) := by
  rw [vacate, empty]
  rfl

theorem discard_eq_ok {present : Bool} (inFrames : pool.pageIn frame = .ok former)
    (removed : pool.pageTable.remove hash page = .ok (present, pageTable)) :
    pool.discard hash page frame =
      .ok { pool.clear pageTable frame with free := pool.free ++ [frame] } := by
  rw [discard, removed]
  simp only [bind, Except.bind, Except.mapError, clear_eq_ok inFrames]
  rfl

end Changes

section Branches

theorem unpin_of_absent (absent : pool.find hash page = .ok none) :
    pool.unpin hash page = ⟨.ok (), pool, []⟩ := by
  rw [unpin, absent]

theorem unpin_of_found {frame : FrameId} (found : pool.find hash page = .ok (some frame)) :
    pool.unpin hash page =
      ⟨.ok (), { pool with replacer := pool.replacer.mark frame true }, []⟩ := by
  rw [unpin, found]

theorem fetch_of_found {frame : FrameId} {next : Pool}
    (found : pool.find hash page = .ok (some frame)) (pinned : pool.pin frame = .ok next) :
    pool.fetch hash page = ⟨.ok (some frame), next, []⟩ := by
  rw [fetch, found]
  simp only [pinned]
  rfl

theorem fetch_of_free {frame : FrameId} {rest : List FrameId} {next : Pool}
    (absent : pool.find hash page = .ok none) (free : pool.free = frame :: rest)
    (loaded : load { pool with free := rest } hash page frame = .ok next) :
    pool.fetch hash page = ⟨.ok (some frame), next, []⟩ := by
  rw [fetch, absent]
  simp only [free, loaded]
  rfl

theorem fetch_of_evicted {frame : FrameId} {emptied next : Pool}
    (absent : pool.find hash page = .ok none) (free : pool.free = [])
    (chosen : pool.replacer.victim? = some frame)
    (vacated : vacate { pool with replacer := pool.replacer.forget frame } hash frame = .ok emptied)
    (loaded : emptied.load hash page frame = .ok next) :
    pool.fetch hash page = ⟨.ok (some frame), next, []⟩ := by
  rw [fetch, absent]
  rw [free] at vacated
  simp only [free, Replacer.evict, chosen, bind, Except.bind]
  simp only [vacated, loaded]
  rfl

/-- An insertion that does not return leaves the pool as it was. -/
theorem fetch_of_free_of_fault {frame : FrameId} {rest : List FrameId} {fault : Fault}
    (absent : pool.find hash page = .ok none) (free : pool.free = frame :: rest)
    (failed : load { pool with free := rest } hash page frame = .error fault) :
    pool.fetch hash page = ⟨.error fault, pool, []⟩ := by
  rw [fetch, absent]
  simp only [free, failed]
  rfl

/-- Whatever goes wrong after an eviction, the evicted frame is not tracked any more. -/
theorem fetch_of_evicted_of_fault {frame : FrameId} {fault : Fault}
    (absent : pool.find hash page = .ok none) (free : pool.free = [])
    (chosen : pool.replacer.victim? = some frame)
    (failed : (vacate { pool with replacer := pool.replacer.forget frame } hash frame >>=
      fun emptied => emptied.load hash page frame) = .error fault) :
    pool.fetch hash page =
      ⟨.error fault, { pool with replacer := pool.replacer.forget frame }, []⟩ := by
  rw [fetch, absent]
  rw [free] at failed ⊢
  simp only [Replacer.evict, chosen, failed]
  rfl

theorem fetch_of_pinned (absent : pool.find hash page = .ok none) (free : pool.free = [])
    (noVictim : pool.replacer.victim? = none) :
    pool.fetch hash page = ⟨.ok none, pool, []⟩ := by
  rw [fetch, absent]
  simp only [free, Replacer.evict, noVictim]

theorem delete_of_absent (absent : pool.find hash page = .ok none) :
    pool.delete hash page = ⟨.ok (.ok ()), pool, []⟩ := by
  rw [delete, absent]

theorem delete_of_refused {frame : FrameId} {error : BufferError}
    (found : pool.find hash page = .ok (some frame))
    (refused : (pool.replacer.release frame).answer = .error error) :
    pool.delete hash page = ⟨.ok (.error error), pool, []⟩ := by
  rw [delete, found]
  simp only [refused]

theorem delete_of_released {frame : FrameId} {replacer : Replacer} {next : Pool}
    (found : pool.find hash page = .ok (some frame))
    (released : pool.replacer.release frame = ⟨.ok (), replacer, []⟩)
    (discarded : discard { pool with replacer } hash page frame = .ok next) :
    pool.delete hash page = ⟨.ok (.ok ()), next, []⟩ := by
  rw [delete, found]
  simp only [released, discarded]
  rfl

end Branches

end PageBuffer.Pool
