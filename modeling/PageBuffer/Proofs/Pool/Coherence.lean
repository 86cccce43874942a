import PageBuffer.Proofs.Pool.Seating
import PageBuffer.Proofs.Table.Audit

/-!
What any run of calls leaves of a fresh pool, `noPage` asked for like any page, and calls that were
abandoned among them.
-/

namespace PageBuffer.Pool

/-- Page table, replacer, free list and residents tell of the same frames. -/
structure Coherent (hash : HashFunction PageId) (size : Nat) (pool : Pool) : Prop where
  size_resident : pool.resident.size = size
  free_or_mapped : ∀ frame : Nat, frame < size →
    (pool.free.count (frame : FrameId) = 1 ∧
        ∀ page, pool.find hash page ≠ .ok (some (frame : FrameId))) ∨
      (pool.free.count (frame : FrameId) = 0 ∧
        ∃! page, pool.find hash page = .ok (some (frame : FrameId)))
  pageIn_of_mapped : ∀ page frame, pool.find hash page = .ok (some frame) →
    pool.pageIn frame = .ok page
  pageIn_of_free : ∀ frame ∈ pool.free, pool.pageIn frame = .ok noPage
  not_tracked_of_free : ∀ frame ∈ pool.free, pool.replacer.lookup frame = none
  tracked_of_mapped : ∀ page frame, pool.find hash page = .ok (some frame) → page ≠ noPage →
    (pool.replacer.lookup frame).isSome
  len_add_free : pool.pageTable.len + pool.free.length = size
  encard_evictable :
    {frame | (∃ page, pool.find hash page = .ok (some frame)) ∧
      ∃ tracked, pool.replacer.lookup frame = some tracked ∧ tracked.evictable = true}.encard =
        pool.replacer.evictableCount
  audit_eq : pool.pageTable.audit hash = .ok none

variable {hash : HashFunction PageId} {pool : Pool}

/-- The replacer counts the frames that it tracks as evictable. -/
theorem encard_evictable {replacer : Replacer} {admissions : List Replacer.Admission}
    (keeps : Replacer.Keeps replacer admissions) :
    {frame | ∃ tracked, replacer.lookup frame = some tracked ∧ tracked.evictable = true}.encard =
      replacer.evictableCount := by
  have listed : {frame | ∃ tracked, replacer.lookup frame = some tracked ∧
      tracked.evictable = true} =
      {frame | frame ∈ (replacer.tracked.filter (·.evictable)).map (·.frame)} := by
    ext frame
    simp only [Set.mem_ofPred_eq, keeps.lookup_eq_some_iff, List.mem_map, List.mem_filter]
    constructor
    · rintro ⟨tracked, ⟨member, sameFrame⟩, evictable⟩
      exact ⟨tracked, ⟨member, evictable⟩, sameFrame⟩
    · rintro ⟨tracked, ⟨member, evictable⟩, sameFrame⟩
      exact ⟨tracked, ⟨member, sameFrame⟩, evictable⟩
  rw [listed, Table.encard_mem_of_nodup (Keyed.nodup_filter keeps.nodup_frames _),
    List.length_map, ← List.countP_eq_length_filter, keeps.evictableCount_eq_countP]

theorem Seated.coherent (seated : pool.Seated hash) : pool.Coherent hash pool.resident.size := by
  rcases seated.follows with ⟨chronicle, follows⟩
  have untracked : ∀ frame ∈ pool.free, pool.replacer.lookup frame = none := by
    intro frame inFree
    by_contra present
    rcases seated.tracked frame present with ⟨page, found⟩
    exact (seated.mapped page frame found).1 inFree
  constructor
  case size_resident => rfl
  case free_or_mapped =>
    intro frame inside
    simp only [find_eq_ok_iff, ne_eq]
    have inFrames := pageIn_eq_ok (Array.getElem?_eq_getElem inside)
    by_cases inFree : (frame : FrameId) ∈ pool.free
    · refine .inl ⟨List.count_eq_one_of_mem seated.nodup_free inFree, ?_⟩
      intro page found
      exact (seated.mapped page frame found).1 inFree
    · obtain ⟨page, found⟩ := (seated.covered frame _ inFrames).resolve_left inFree
      refine .inr ⟨List.count_eq_zero.mpr inFree, page, found, ?_⟩
      intro other otherFound
      exact seated.page_unique otherFound found
  case pageIn_of_mapped =>
    intro page frame found
    exact (seated.mapped page frame (find_eq_ok_iff.mp found)).2
  case pageIn_of_free => exact seated.vacant
  case not_tracked_of_free => exact untracked
  case tracked_of_mapped =>
    intro page frame found pageNe
    rw [Option.isSome_iff_ne_none]
    exact seated.known page frame (find_eq_ok_iff.mp found) pageNe
  case len_add_free => exact seated.counted
  case encard_evictable =>
    have allMapped : {frame | (∃ page, pool.find hash page = .ok (some frame)) ∧
        ∃ tracked, pool.replacer.lookup frame = some tracked ∧ tracked.evictable = true} =
        {frame | ∃ tracked, pool.replacer.lookup frame = some tracked ∧
          tracked.evictable = true} := by
      ext frame
      simp only [Set.mem_ofPred_eq, find_eq_ok_iff, and_iff_right_iff_imp]
      rintro ⟨tracked, present, _⟩
      apply seated.tracked
      rw [present]
      exact Option.some_ne_none tracked
    rw [allMapped, Pool.encard_evictable follows.keeps]
  case audit_eq => exact seated.structured.audit_of_routed seated.routed

theorem size_resident_of_assemble {bucketSize size k : Nat} {fresh : Pool}
    (assembled : assemble bucketSize size k = .ok fresh) : fresh.resident.size = size := by
  obtain ⟨pageTable, replacer, -, -, rfl⟩ := exists_parts_of_assemble assembled
  exact Array.size_replicate

/-- A pool is coherent before and after every call of any run, provided that insertions into its
page table return.  The pages may be any, `noPage` included, and calls that are abandoned may be
followed by others. -/
theorem coherent_after_any_run {bucketSize size k : Nat} {fresh : Pool}
    (assembled : assemble bucketSize size k = .ok fresh) (hash : HashFunction PageId)
    (calls : List Call)
    (returned : ∀ outcome ∈ Run.outcomes (perform hash) fresh calls,
      outcome.answer ≠ .error (.table .inseparable)) :
    ∀ pool ∈ Run.states (perform hash) fresh calls, pool.Coherent hash size := by
  intro pool reached
  obtain ⟨seated, sameSize⟩ := (seated_assemble assembled hash).states calls returned pool reached
  rw [← size_resident_of_assemble assembled, ← sameSize]
  exact seated.coherent

/-- An eviction is abandoned at the frame of `noPage`, which is not tracked from then on.  Fetching
`noPage` tracks it again, and deleting `noPage` frees it. -/
theorem coherent_after_abandoned_eviction :
    let hash : HashFunction PageId := fun page => UInt64.ofNat page.toNat
    let calls : List Call :=
      [.fetch noPage, .fetch 3, .unpin noPage, .fetch 5, .fetch 5, .fetch noPage, .unpin noPage,
        .unpin 3, .fetch 5, .delete noPage, .unpin 3, .fetch 3]
    ∃ fresh, assemble 1 2 2 = .ok fresh ∧
      Run.answers (perform hash) fresh calls =
        [.ok (.frame (some 0)), .ok (.frame (some 1)), .ok .done, .error (.vacant 0),
          .ok (.frame none), .ok (.frame (some 0)), .ok .done, .ok .done, .ok (.frame (some 1)),
          .ok .done, .ok .done, .ok (.frame (some 0))] ∧
      ∀ pool ∈ Run.states (perform hash) fresh calls, pool.Coherent hash 2 := by
  intro hash calls
  have assembled : assemble 1 2 2 = .ok (_ : Pool) := rfl
  refine ⟨_, assembled, by decide +kernel, coherent_after_any_run assembled hash calls ?_⟩
  decide +kernel

end PageBuffer.Pool
