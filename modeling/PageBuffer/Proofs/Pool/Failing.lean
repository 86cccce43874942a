import PageBuffer.Proofs.Pool.Holding

/-!
When calls on a pool fail, and what they leave then.

The one assumption of the pool that does not always hold is that an evicted frame holds a page
other than `noPage`.  A fetch that meets such a frame is abandoned when the replacer has dropped the
frame.  The frame then stays with `noPage`, out of the replacer's reach, until that page is fetched
or deleted.
-/

namespace PageBuffer.Pool

variable {hash : HashFunction PageId} {pool next : Pool} {page : PageId} {frame : FrameId}
  {fault : Fault} {error : BufferError} {calls : List Call}

section Failures

/-- A fetch of the page would have to reuse the frame of `noPage`. -/
structure Abandons (hash : HashFunction PageId) (page : PageId) (frame : FrameId)
    (pool : Pool) : Prop where
  absent : pool.find hash page = .ok none
  free_eq : pool.free = []
  evicted : pool.replacer.evict.answer = some frame
  found : pool.find hash noPage = .ok (some frame)

theorem Abandons.victim (abandons : Abandons hash page frame pool) :
    pool.replacer.victim? = some frame :=
  (Replacer.answer_evict _).symm.trans abandons.evicted

/-- When the operations of a pool fail.  A refusal changes nothing. -/
structure Failures (hash : HashFunction PageId) (pool : Pool) : Prop where
  find_answers : ∀ page, ∃ answer, pool.find hash page = .ok answer
  unpin_answers : ∀ page, (pool.unpin hash page).answer = .ok ()
  delete_answers : ∀ page, ∃ result, (pool.delete hash page).answer = .ok result
  fetch_eq_error_iff : ∀ page fault, fault ≠ .table .inseparable →
    ((pool.fetch hash page).answer = .error fault ↔
      ∃ frame, fault = .vacant frame ∧ Abandons hash page frame pool)
  fetch_eq_none_iff : ∀ page, (pool.fetch hash page).answer = .ok none ↔
    pool.find hash page = .ok none ∧ pool.free = [] ∧ pool.replacer.evictableCount = 0
  delete_eq_error_iff : ∀ page error, (pool.delete hash page).answer = .ok (.error error) ↔
    ∃ frame, error = .removeNonEvictable frame ∧ pool.find hash page = .ok (some frame) ∧
      ∃ tracked, pool.replacer.lookup frame = some tracked ∧ tracked.evictable = false
  state_fetch : ∀ page, (pool.fetch hash page).answer = .ok none →
    (pool.fetch hash page).state = pool
  state_delete : ∀ page error, (pool.delete hash page).answer = .ok (.error error) →
    (pool.delete hash page).state = pool

/-- What an abandoned fetch has changed: the replacer does not track the frame any more. -/
structure Abandoned (frame : FrameId) (pool next : Pool) : Prop where
  pageTable_eq : next.pageTable = pool.pageTable
  free_eq : next.free = pool.free
  resident_eq : next.resident = pool.resident
  lookup_eq : ∀ other, next.replacer.lookup other =
    if other = frame then none else pool.replacer.lookup other
  evictableCount_eq : next.replacer.evictableCount + 1 = pool.replacer.evictableCount
  clock_eq : next.replacer.clock = pool.replacer.clock
  capacity_eq : next.replacer.capacity = pool.replacer.capacity
  k_eq : next.replacer.k = pool.replacer.k

namespace Seated

variable (seated : pool.Seated hash)

include seated

theorem fetch_of_abandons (abandons : Abandons hash page frame pool) :
    pool.fetch hash page =
      ⟨.error (.vacant frame), { pool with replacer := pool.replacer.forget frame }, []⟩ :=
  seated.fetch_of_vacant (find_eq_ok_iff.mp abandons.absent) abandons.free_eq
    abandons.victim (find_eq_ok_iff.mp abandons.found)

theorem fetch_eq_error_iff (returned : fault ≠ .table .inseparable) :
    (pool.fetch hash page).answer = .error fault ↔
      ∃ frame, fault = .vacant frame ∧ Abandons hash page frame pool := by
  constructor
  · intro failed
    rcases seated.fetches page with fetches | inseparable
    · rw [failed] at fetches
      generalize (pool.fetch hash page).state = next at fetches
      cases fetches with
      | @vacant frame absent free victim found =>
          exact ⟨frame, rfl, find_eq_ok_iff.mpr absent, free,
            (Replacer.answer_evict _).trans victim, find_eq_ok_iff.mpr found⟩
    · rw [failed] at inseparable
      exact absurd (Except.error.inj inseparable) returned
  · rintro ⟨frame, rfl, abandons⟩
    rw [seated.fetch_of_abandons abandons]

theorem fetch_eq_none_iff : (pool.fetch hash page).answer = .ok none ↔
    pool.find hash page = .ok none ∧ pool.free = [] ∧ pool.replacer.evictableCount = 0 := by
  rcases seated.follows with ⟨chronicle, follows⟩
  rw [← follows.keeps.victim?_eq_none_iff]
  constructor
  · intro refused
    rcases seated.fetches page with fetches | inseparable
    · rw [refused] at fetches
      generalize (pool.fetch hash page).state = next at fetches
      cases fetches with
      | full absent free noVictim => exact ⟨find_eq_ok_iff.mpr absent, free, noVictim⟩
    · rw [refused] at inseparable
      cases inseparable
  · rintro ⟨absent, free, noVictim⟩
    rw [fetch_of_pinned absent free noVictim]

theorem state_fetch (refused : (pool.fetch hash page).answer = .ok none) :
    (pool.fetch hash page).state = pool := by
  rcases seated.follows with ⟨chronicle, follows⟩
  rcases seated.fetch_eq_none_iff.mp refused with ⟨absent, free, noneEvictable⟩
  have noVictim := follows.keeps.victim?_eq_none_iff.mpr noneEvictable
  rw [fetch_of_pinned absent free noVictim]

theorem delete_eq_error_iff : (pool.delete hash page).answer = .ok (.error error) ↔
    ∃ frame, error = .removeNonEvictable frame ∧ pool.find hash page = .ok (some frame) ∧
      ∃ tracked, pool.replacer.lookup frame = some tracked ∧ tracked.evictable = false := by
  constructor
  · intro refused
    obtain ⟨result, answered, deletes⟩ := seated.deletes page
    rw [refused, Except.ok.injEq] at answered
    rw [← answered] at deletes
    generalize (pool.delete hash page).state = next at deletes
    cases deletes with
    | @refused frame tracked found present pinned =>
        exact ⟨frame, rfl, find_eq_ok_iff.mpr found, tracked, present, pinned⟩
  · rintro ⟨frame, rfl, found, tracked, present, pinned⟩
    rw [delete_of_refused found (Replacer.release_of_pinned present pinned)]

theorem state_delete (refused : (pool.delete hash page).answer = .ok (.error error)) :
    (pool.delete hash page).state = pool := by
  obtain ⟨frame, _, found, tracked, present, pinned⟩ := seated.delete_eq_error_iff.mp refused
  rw [delete_of_refused found (Replacer.release_of_pinned present pinned)]

theorem unpin_answers (page : PageId) : (pool.unpin hash page).answer = .ok () := by
  rcases seated.find_cases page with absent | ⟨frame, found⟩
  · rw [unpin_of_absent (find_eq_ok_iff.mpr absent)]
  · rw [unpin_of_found (find_eq_ok_iff.mpr found)]

theorem failures : pool.Failures hash where
  find_answers page := by
    obtain ⟨answer, answered⟩ := seated.structured.exists_find hash page
    exact ⟨answer, find_eq_ok_iff.mpr answered⟩
  unpin_answers := seated.unpin_answers
  delete_answers page := by
    obtain ⟨result, answered, _⟩ := seated.deletes page
    exact ⟨result, answered⟩
  fetch_eq_error_iff _ _ := seated.fetch_eq_error_iff
  fetch_eq_none_iff _ := seated.fetch_eq_none_iff
  delete_eq_error_iff _ _ := seated.delete_eq_error_iff
  state_fetch _ := seated.state_fetch
  state_delete _ _ := seated.state_delete

theorem abandoned (abandons : Abandons hash page frame pool) :
    Abandoned frame pool (pool.fetch hash page).state := by
  rw [seated.fetch_of_abandons abandons]
  constructor
  case lookup_eq => exact Replacer.lookup_forget frame
  case evictableCount_eq =>
    rcases seated.follows with ⟨chronicle, follows⟩
    have someEvictable : pool.replacer.evictableCount ≠ 0 := by
      intro none
      have noVictim := follows.keeps.victim?_eq_none_iff.mpr none
      cases noVictim.symm.trans abandons.victim
    exact Nat.succ_pred_eq_of_ne_zero someEvictable
  all_goals rfl

end Seated

end Failures

section Stranded

/-- What a pool answers as long as the frame of `noPage` is out of the replacer's reach. -/
structure AnswersStranded (hash : HashFunction PageId) (frame : FrameId) (pool : Pool) : Prop where
  evict_ne : pool.replacer.evict.answer ≠ some frame
  fetch_noPage : (pool.fetch hash noPage).answer = .ok (some frame)
  delete_noPage : (pool.delete hash noPage).answer = .ok (.ok ())
  free_of_delete : (pool.delete hash noPage).state.free = pool.free ++ [frame]

/-- The frame holds `noPage`, and the replacer does not track it. -/
structure Stranded (hash : HashFunction PageId) (frame : FrameId) (pool : Pool) : Prop where
  seated : pool.Seated hash
  found : pool.pageTable.find hash noPage = .ok (some frame)
  untracked : pool.replacer.lookup frame = none

theorem Seated.stranded (seated : pool.Seated hash) (abandons : Abandons hash page frame pool) :
    Stranded hash frame (pool.fetch hash page).state := by
  have found := find_eq_ok_iff.mp abandons.found
  rw [seated.fetch_of_abandons abandons]
  refine ⟨seated.forget abandons.victim found, found, ?_⟩
  exact (Replacer.lookup_forget frame frame).trans (if_pos rfl)

namespace Stranded

variable (stranded : Stranded hash frame pool)

include stranded

theorem victim_ne : pool.replacer.victim? ≠ some frame := by
  apply stranded.seated.victim_ne
  intro tracked present
  rw [stranded.untracked] at present
  cases present

theorem answers : AnswersStranded hash frame pool := by
  have seated := stranded.seated
  have found := find_eq_ok_iff.mpr stranded.found
  have inFrames := (seated.mapped noPage frame stranded.found).2
  obtain ⟨pageTable, removed, _⟩ := seated.exists_removes stranded.found
  have released : pool.replacer.release frame = ⟨.ok (), pool.replacer, []⟩ := by
    rw [Replacer.release, stranded.untracked]
  have deleted := delete_of_released found released (discard_eq_ok inFrames removed)
  constructor
  case evict_ne =>
    rw [Replacer.answer_evict]
    exact stranded.victim_ne
  case fetch_noPage => rw [fetch_of_found found (pin_eq_ok (seated.inRange inFrames))]
  case delete_noPage => rw [deleted]
  case free_of_delete => rw [deleted]

/-- Nothing but a fetch or a deletion of `noPage` brings the frame back. -/
theorem perform {call : Call} (notFetch : call ≠ .fetch noPage) (notDelete : call ≠ .delete noPage)
    (returned : (Pool.perform hash call pool).answer ≠ .error (.table .inseparable)) :
    Stranded hash frame (Pool.perform hash call pool).state := by
  have nextSeated := (stranded.seated.perform call returned).1
  by_cases same : noPage = call.page
  · cases call with
    | fetch page => exact absurd (congrArg Call.fetch same.symm) notFetch
    | delete page => exact absurd (congrArg Call.delete same.symm) notDelete
    | find page => exact stranded
    | unpin page =>
        obtain rfl : noPage = page := same
        rw [Pool.perform, unpin_of_found (find_eq_ok_iff.mpr stranded.found)] at nextSeated ⊢
        refine ⟨nextSeated, stranded.found, ?_⟩
        rw [Replacer.lookup_mark, if_pos rfl, stranded.untracked]
        rfl
  · rcases stranded.seated.kept_of_perform stranded.found same returned with kept | displaced
    · exact ⟨nextSeated, kept.find_eq, kept.lookup_eq.trans stranded.untracked⟩
    · exact absurd displaced.victim stranded.victim_ne

theorem states (returns : Returns hash pool calls) (notFetched : .fetch noPage ∉ calls)
    (notDeleted : .delete noPage ∉ calls) :
    ∀ reached ∈ Run.states (Pool.perform hash) pool calls, Stranded hash frame reached := by
  refine Run.forall_states (Pool.perform hash) ?_ stranded returns
  intro call member reached reachedStranded returned
  have notFetch : call ≠ .fetch noPage := fun isFetch => notFetched (isFetch ▸ member)
  have notDelete : call ≠ .delete noPage := fun isDelete => notDeleted (isDelete ▸ member)
  exact reachedStranded.perform notFetch notDelete returned

end Stranded

end Stranded

/-- In any run whose insertions into the page table return, a call is abandoned only if it is a
fetch that would have to reuse the frame of `noPage`, and refused only if no frame may go or if the
page to delete is pinned.  What an abandoned fetch leaves lasts until `noPage` is fetched or
deleted. -/
theorem failures_in_any_run {bucketSize size k : Nat} {fresh : Pool}
    (assembled : assemble bucketSize size k = .ok fresh) (hash : HashFunction PageId)
    (calls : List Call) (returns : Returns hash fresh calls) :
    ∀ pool ∈ Run.states (perform hash) fresh calls, pool.Failures hash ∧
      ∀ page frame, Abandons hash page frame pool →
        let abandoned := (pool.fetch hash page).state
        Abandoned frame pool abandoned ∧
          ∀ later, Returns hash abandoned later → .fetch noPage ∉ later → .delete noPage ∉ later →
            ∀ reached ∈ Run.states (perform hash) abandoned later,
              AnswersStranded hash frame reached := by
  intro pool member
  have seated := ((seated_assemble assembled hash).states calls returns pool member).1
  refine ⟨seated.failures, ?_⟩
  intro page frame abandons abandoned
  refine ⟨seated.abandoned abandons, ?_⟩
  intro later returnsLater notFetched notDeleted reached reachedMember
  exact ((seated.stranded abandons).states returnsLater notFetched notDeleted reached
    reachedMember).answers

/-- The frame of `noPage` is evicted in vain for page `5`, which later gets the other frame. -/
theorem failures_in_stranding_run :
    let hash : HashFunction PageId := fun page => UInt64.ofNat page.toNat
    let calls : List Call := [.fetch noPage, .fetch 3, .unpin noPage]
    let later : List Call := [.fetch 5, .unpin noPage, .unpin 3, .fetch 5, .delete 5, .find noPage]
    ∃ fresh, assemble 1 2 2 = .ok fresh ∧ Returns hash fresh calls ∧
      let pool := Run.finalState (perform hash) fresh calls
      let abandoned := (pool.fetch hash 5).state
      pool.Failures hash ∧ Abandons hash 5 0 pool ∧ Abandoned 0 pool abandoned ∧
        Returns hash abandoned later ∧
        Run.answers (perform hash) abandoned later =
          [.ok (.frame none), .ok .done, .ok .done, .ok (.frame (some 1)),
            .ok (.refused (.removeNonEvictable 1)), .ok (.frame (some 0))] ∧
        ∀ reached ∈ Run.states (perform hash) abandoned later,
          AnswersStranded hash 0 reached := by
  intro hash calls later
  have assembled : assemble 1 2 2 = .ok (_ : Pool) := rfl
  refine ⟨_, assembled, by decide +kernel, ?_⟩
  intro pool abandoned
  have abandons : Abandons hash 5 0 pool :=
    ⟨by decide +kernel, by decide +kernel, by decide +kernel, by decide +kernel⟩
  have returnsLater : Returns hash abandoned later := by decide +kernel
  obtain ⟨failures, whenAbandoned⟩ := failures_in_any_run assembled hash calls
    (by decide +kernel) pool (Run.finalState_mem_states _ _ _)
  obtain ⟨left, stranded⟩ := whenAbandoned 5 0 abandons
  exact ⟨failures, abandons, left, returnsLater, by decide +kernel,
    stranded later returnsLater (by decide) (by decide)⟩

end PageBuffer.Pool
