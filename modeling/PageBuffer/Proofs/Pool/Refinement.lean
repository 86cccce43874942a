import PageBuffer.Proofs.Pool.InStep
import PageBuffer.Proofs.Pool.Steps
import PageBuffer.Proofs.Simulation

/-!
A pool answers as one cache that has neither a page table nor a replacer.
-/

namespace PageBuffer

namespace Pool

/-- What a pool shows of itself. -/
structure View where
  len : Nat
  isEmpty : Bool
  evictableCount : Nat
  free : List FrameId
  resident : List PageId
  deriving DecidableEq, Repr

def view (pool : Pool) : View :=
  { len := pool.pageTable.len
    isEmpty := pool.pageTable.isEmpty
    evictableCount := pool.replacer.evictableCount
    free := pool.free
    resident := pool.resident.toList }

end Pool

namespace Cache

def view (cache : Cache) : Pool.View :=
  { len := cache.len
    isEmpty := cache.len = 0
    evictableCount := cache.evictableCount
    free := cache.free.map Int.ofNat
    resident := cache.pages }

end Cache

namespace Pool

variable {hash : HashFunction PageId} {bucketSize depth : Nat} {pool : Pool} {cache : Cache}
  {frame : Nat} {page : PageId} {resident : Resident}

/-- A pool whose parts are in step with a cache that knows its free frames. -/
structure Serves (hash : HashFunction PageId) (bucketSize depth : Nat) (pool : Pool)
    (cache : Cache) : Prop extends InStep hash bucketSize depth pool cache where
  tidy : cache.Tidy

theorem serves_create {size k : Nat} {fresh : Pool}
    (assembled : assemble bucketSize size k = .ok fresh) (hash : HashFunction PageId)
    (depth : Nat) : Serves hash bucketSize depth fresh (Cache.create size k) := by
  obtain ⟨pageTable, replacer, tableCreated, replacerCreated, rfl⟩ :=
    exists_parts_of_assemble assembled
  have vacant : ∀ (frame : Nat) (resident : Resident),
      (Cache.create size k).frames[frame]? ≠ some (some resident) := by
    intro frame resident
    rw [Cache.create, List.getElem?_replicate]
    split <;> simp
  have empty : (Cache.create size k).residents = [] := by
    rw [List.eq_nil_iff_forall_not_mem]
    rintro ⟨frame, resident⟩ stored
    exact vacant frame resident (Cache.mem_residents.mp stored)
  have keeps := Replacer.keeps_create replacerCreated
  obtain ⟨positive, rfl⟩ := Replacer.eq_of_create replacerCreated
  refine ⟨?_, Cache.tidy_create size k⟩
  constructor
  case represents =>
    have mapping : (Cache.create size k).mapping = {} := by rw [Cache.mapping, empty]; rfl
    rw [mapping]
    exact Table.represents_create tableCreated hash depth
  case keeps =>
    have admissions : (Cache.create size k).admissions = [] := by rw [Cache.admissions, empty]; rfl
    rw [admissions]
    exact keeps
  case capacity_eq => exact List.length_replicate.symm
  case k_eq => rfl
  case clock_eq => rfl
  case free_eq => rfl
  case resident_eq =>
    rw [around, Array.toList_replicate, Cache.pages, Cache.create, List.map_replicate]
    rfl
  case page_ne =>
    intro frame resident found
    exact absurd found (vacant frame resident)

namespace Serves

variable (serves : Serves hash bucketSize depth pool cache)

include serves

theorem fetch (page : PageId) (shallow : depth ≤ 63) (pageNe : page ≠ noPage)
    (sparse : Table.Sparse hash depth bucketSize (cache.fetch page).2.mapping.keys) :
    (pool.fetch hash page).answer = .ok ((cache.fetch page).1.map Int.ofNat) ∧
      Serves hash bucketSize depth (pool.fetch hash page).state (cache.fetch page).2 := by
  have find := serves.find_eq page
  cases found : cache.frameOf? page with
  | some frame =>
      obtain ⟨resident, held, rfl⟩ := Cache.exists_of_frameOf?_eq_some found
      obtain ⟨next, pinned, inStep⟩ := serves.exists_pin held
      rw [found] at find
      rw [fetch_of_found find pinned, Cache.fetch_of_held found held]
      exact ⟨rfl, inStep, serves.tidy.reseat held _⟩
  | none =>
      rw [found] at find
      cases queue : cache.free with
      | cons frame rest =>
          have vacant := serves.tidy.vacant queue
          have free : pool.free = Int.ofNat frame :: rest.map Int.ofNat := by
            rw [serves.free_eq, queue, List.map_cons]
          have spared : InStep hash bucketSize depth { pool with free := rest.map Int.ofNat }
              { cache with free := rest } := { serves.toInStep with free_eq := rfl }
          rw [Cache.fetch_of_free found queue] at sparse ⊢
          obtain ⟨next, loaded, inStep⟩ := spared.exists_load vacant shallow found pageNe sparse
          rw [fetch_of_free find free loaded]
          exact ⟨rfl, inStep, serves.tidy.take queue _⟩
      | nil =>
          have free : pool.free = [] := by rw [serves.free_eq, queue, List.map_nil]
          rcases serves.keeps.victim?_cases with
            ⟨noVictim, pinned⟩ | ⟨best, stored, evictable, victim, first⟩
          · rw [fetch_of_pinned find free noVictim,
              Cache.fetch_of_pinned found queue (Cache.victim?_eq_none pinned)]
            exact ⟨rfl, serves⟩
          · rw [serves.k_eq] at first
            have chosen := Cache.victim?_eq_some stored evictable first
            obtain ⟨frame, resident, held, rfl⟩ := Cache.exists_of_mem_admissions stored
            have unpinned : resident.pinned = false := by simpa [Cache.admission] using evictable
            have emptyFrame : (cache.put frame none).frames[frame]? = some none := by
              rw [Cache.frames_put, List.getElem?_set_self (List.getElem?_eq_some_iff.mp held).1]
            obtain ⟨emptied, vacated, emptiedInStep⟩ := serves.exists_vacate held unpinned
            -- To empty the frame and to load into it afterwards is one access of the cache.
            rw [Cache.fetch_of_evicted found queue chosen] at sparse ⊢
            have frame_eq : (Cache.admission frame resident).frame.toNat = frame := rfl
            rw [frame_eq] at sparse ⊢
            rw [← Cache.access_put_none] at sparse
            rcases emptiedInStep.exists_load emptyFrame shallow
              (Cache.frameOf?_put_none found frame) pageNe sparse with ⟨next, loaded, inStep⟩
            rw [Cache.access_put_none] at inStep
            rw [fetch_of_evicted find free victim vacated loaded]
            exact ⟨rfl, inStep, serves.tidy.reseat held _⟩

theorem unpin (page : PageId) :
    (pool.unpin hash page).answer = .ok () ∧
      Serves hash bucketSize depth (pool.unpin hash page).state (cache.unpin page) := by
  rw [Pool.unpin, serves.find_eq, Cache.unpin]
  cases found : cache.frameOf? page with
  | none => exact ⟨rfl, serves⟩
  | some frame =>
      obtain ⟨resident, held, rfl⟩ := Cache.exists_of_frameOf?_eq_some found
      have inFrame : cache.residentIn frame = some resident := by
        rw [Cache.residentIn, held]
        rfl
      simp only [Option.map_some, inFrame]
      exact ⟨trivial, serves.toInStep.unpin held, serves.tidy.reseat held _⟩

theorem delete (page : PageId) :
    (pool.delete hash page).answer = .ok (cache.delete page).1 ∧
      Serves hash bucketSize depth (pool.delete hash page).state (cache.delete page).2 := by
  have find := serves.find_eq page
  cases found : cache.frameOf? page with
  | none =>
      rw [Pool.delete, find, Cache.delete, found]
      exact ⟨rfl, serves⟩
  | some frame =>
      obtain ⟨resident, held, rfl⟩ := Cache.exists_of_frameOf?_eq_some found
      have stored := Cache.mem_admissions held
      rw [found] at find
      cases pinned : resident.pinned with
      | true =>
          have released :=
            serves.keeps.release_pinned stored (by simp [Cache.admission, pinned])
          rw [delete_of_refused find (congrArg (·.answer) released),
            Cache.delete_of_pinned found held pinned]
          exact ⟨rfl, serves⟩
      | false =>
          have released :=
            serves.keeps.release_evictable stored (by simp [Cache.admission, pinned])
          obtain ⟨next, discarded, inStep⟩ := serves.exists_discard held pinned
          rw [delete_of_released find released discarded,
            Cache.delete_of_unpinned found held pinned]
          exact ⟨rfl, inStep, serves.tidy.release held⟩

/-- Each call is answered as by the cache, and leaves a pool for the cache that the call leaves. -/
theorem perform (shallow : depth ≤ 63) {call : Call} (pageNe : call.page ≠ noPage)
    (sparse : Table.Sparse hash depth bucketSize
      (Cache.perform call cache).state.residentPages) :
    Run.Matches (Serves hash bucketSize depth) id (Pool.perform hash call pool)
      (Cache.perform call cache) := by
  cases call with
  | fetch page =>
      rw [← Cache.keys_mapping] at sparse
      rcases serves.fetch page shallow pageNe sparse with ⟨answer, next⟩
      refine ⟨?_, next⟩
      rw [Pool.perform, answer]
      rfl
  | unpin page =>
      rcases serves.unpin page with ⟨answer, next⟩
      refine ⟨?_, next⟩
      rw [Pool.perform, answer]
      rfl
  | delete page =>
      rcases serves.delete page with ⟨answer, next⟩
      refine ⟨?_, next⟩
      rw [Pool.perform, answer]
      rfl
  | find page =>
      refine ⟨?_, serves⟩
      rw [Pool.perform, serves.find_eq]
      rfl

theorem view_eq : pool.view = cache.view := by
  have len_eq : pool.pageTable.len = cache.len := by
    rw [serves.represents.len_eq, Cache.len_eq, Cache.mapping, List.length_map]
  have count_eq : pool.replacer.evictableCount = cache.evictableCount := by
    rw [serves.keeps.evictableCount_eq, Cache.evictableCount_eq]
  rw [view, Cache.view, Table.isEmpty, len_eq, count_eq, serves.free_eq, serves.resident_eq]

end Serves

/-- A pool whose page table separates the resident pages answers every run of calls as one cache
does, and after each call shows what the cache shows.  No call of such a run is abandoned. -/
theorem outcomes_eq_outcomes_of_cache {size k : Nat} {fresh : Pool} (hash : HashFunction PageId)
    (assembled : assemble bucketSize size k = .ok fresh) (shallow : depth ≤ 63)
    (calls : List Call) (pages : ∀ call ∈ calls, call.page ≠ noPage)
    (sparse : ∀ before after, calls = before ++ after → Table.Sparse hash depth bucketSize
      (Run.finalState Cache.perform (Cache.create size k) before).residentPages) :
    fresh.view = (Cache.create size k).view ∧
      (Run.outcomes (perform hash) fresh calls).map
          (fun outcome => (outcome.answer, outcome.state.view)) =
        (Run.outcomes Cache.perform (Cache.create size k) calls).map
          fun outcome => (outcome.answer, outcome.state.view) := by
  have start := serves_create assembled hash depth
  have step : ∀ call pool cache, Serves hash bucketSize depth pool cache →
      (call.page ≠ noPage ∧ Table.Sparse hash depth bucketSize
        (Cache.perform call cache).state.residentPages) →
      Run.Matches (Serves hash bucketSize depth) id (perform hash call pool)
        (Cache.perform call cache) :=
    fun _ _ _ serves allowed => serves.perform shallow allowed.1 allowed.2
  have allowed : Run.Allowed Cache.perform (fun cache call => call.page ≠ noPage ∧
      Table.Sparse hash depth bucketSize (Cache.perform call cache).state.residentPages)
      (Cache.create size k) calls := by
    rintro before call after rfl
    have inRun := sparse (before ++ [call]) after (by simp)
    rw [Run.finalState_append] at inRun
    exact ⟨pages call (by simp), inRun⟩
  refine ⟨start.view_eq, Run.map_outcomes_eq step ?_ start allowed⟩
  intro outcome other matched
  rw [matched.answer_eq, matched.related.view_eq]
  rfl

/-- Two frames, one entry to a bucket, and pages whose hashes agree on their lowest bit.  Page `4`
has to wait until page `0` is unpinned, and loses its frame to page `6` because page `2` was
accessed more than once. -/
theorem outcomes_eq_outcomes_of_cache_two_frames :
    let hash : HashFunction PageId := fun page => UInt64.ofNat page.toNat
    let calls : List Call :=
      [.fetch 2, .fetch 0, .fetch 4, .fetch 2, .fetch 2, .unpin 0, .fetch 4, .find 0, .delete 4,
        .unpin 4, .unpin 2, .fetch 6, .unpin 6, .delete 6, .delete 6, .fetch 0]
    ∃ fresh, assemble 1 2 2 = .ok fresh ∧ (∀ call ∈ calls, call.page ≠ noPage) ∧
      (∀ before after, calls = before ++ after → Table.Sparse hash 3 1
        (Run.finalState Cache.perform (Cache.create 2 2) before).residentPages) ∧
      Run.answers (perform hash) fresh calls =
        [.frame (some 0), .frame (some 1), .frame none, .frame (some 0), .frame (some 0), .done,
          .frame (some 1), .frame none, .refused (.removeNonEvictable 1), .done, .done,
          .frame (some 1), .done, .done, .done, .frame (some 1)].map .ok := by
  intro hash calls
  have assembled : assemble 1 2 2 = .ok (_ : Pool) := rfl
  have pages : ∀ call ∈ calls, call.page ≠ noPage := by decide
  have sparse : ∀ before after, calls = before ++ after → Table.Sparse hash 3 1
      (Run.finalState Cache.perform (Cache.create 2 2) before).residentPages := by
    have inits : ∀ before ∈ calls.inits, Table.Sparse hash 3 1
        (Run.finalState Cache.perform (Cache.create 2 2) before).residentPages := by decide
    intro before after split
    exact inits before ((List.mem_inits before calls).mpr ⟨after, split.symm⟩)
  have run := outcomes_eq_outcomes_of_cache hash assembled (by decide) calls pages sparse
  refine ⟨_, assembled, pages, sparse, ?_⟩
  have answers := congrArg (List.map Prod.fst) run.2
  simp only [List.map_map] at answers
  exact answers.trans (by decide)

end Pool

end PageBuffer
