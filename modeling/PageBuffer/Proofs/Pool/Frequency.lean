import PageBuffer.Proofs.Pool.Pinning

/-!
How often a page has been fetched since it was loaded, and how the replacer knows it.

The window of a page's frame holds one access for each of these fetches, up to `k`.  A page that is
loaded starts a new window, since the replacer does not track the frames that pages are loaded into.
-/

namespace PageBuffer.Pool

variable {hash : HashFunction PageId} {pool next : Pool} {page : PageId} {frame : FrameId}
  {count : Nat} {call : Call} {calls : List Call}

section Counting

/-- What a call makes of a page's fetches: a fetch that does not find the page loads it. -/
def countFetch (hash : HashFunction PageId) (page : PageId) (pool : Pool) (call : Call)
    (count : Nat) : Nat :=
  if call = .fetch page then
    match pool.find hash page with
    | .ok (some _) => count + 1
    | _ => 1
  else
    count

/-- The fetches of a page since it was last loaded, after so many of them and a run. -/
def fetchesFrom (hash : HashFunction PageId) (page : PageId) :
    Nat → Pool → List Call → Nat
  | count, _, [] => count
  | count, pool, call :: rest =>
      fetchesFrom hash page (countFetch hash page pool call count) (perform hash call pool).state
        rest

/-- How often a page has been fetched since it was last loaded, that fetch included. -/
def fetchesSinceLoad (hash : HashFunction PageId) (page : PageId) (pool : Pool)
    (calls : List Call) : Nat :=
  fetchesFrom hash page 0 pool calls

theorem countFetch_of_ne (different : call ≠ .fetch page) :
    countFetch hash page pool call count = count :=
  if_neg different

theorem countFetch_of_found (found : pool.pageTable.find hash page = .ok (some frame)) :
    countFetch hash page pool (.fetch page) count = count + 1 := by
  rw [countFetch, if_pos rfl, find_eq_ok_iff.mpr found]

theorem countFetch_of_absent (absent : pool.pageTable.find hash page = .ok none) :
    countFetch hash page pool (.fetch page) count = 1 := by
  rw [countFetch, if_pos rfl, find_eq_ok_iff.mpr absent]

end Counting

namespace Seated

variable (seated : pool.Seated hash)

include seated

theorem k_of_perform
    (returned : (Pool.perform hash call pool).answer ≠ .error (.table .inseparable)) :
    (Pool.perform hash call pool).state.replacer.k = pool.replacer.k := by
  rcases seated.perform_cases returned with
    ⟨_, answer, _, fetches⟩ | ⟨_, _, _, _, marked⟩ | ⟨_, _, _, deletes⟩ | ⟨_, same⟩
  · generalize (Pool.perform hash call pool).state = next at fetches ⊢
    cases fetches <;> simp [Pool.seat, Pool.clear, Replacer.forget]
  · rw [marked, Replacer.k_mark]
  · generalize (Pool.perform hash call pool).state = next at deletes ⊢
    cases deletes <;> simp [Pool.clear]
  · rw [same]

theorem k_of_finalState (returns : Returns hash pool calls) :
    (Run.finalState (Pool.perform hash) pool calls).replacer.k = pool.replacer.k := by
  have kept : ∀ reached ∈ Run.states (Pool.perform hash) pool calls,
      reached.Seated hash ∧ reached.replacer.k = pool.replacer.k := by
    refine Run.forall_states (Pool.perform hash) ?_ ⟨seated, rfl⟩ returns
    rintro call _ reached ⟨reachedSeated, sameK⟩ returned
    exact ⟨(reachedSeated.perform call returned).1,
      (reachedSeated.k_of_perform returned).trans sameK⟩
  exact (kept _ (Run.finalState_mem_states _ _ _)).2

/-- Free frames are not tracked. -/
theorem lookup_of_free (free : frame ∈ pool.free) : pool.replacer.lookup frame = none := by
  by_contra present
  rcases seated.tracked frame present with ⟨page, found⟩
  exact (seated.mapped page frame found).1 free

/-- A page that is loaded has been accessed once. -/
theorem lookup_of_loaded (absent : pool.pageTable.find hash page = .ok none)
    (fetches : Fetches hash page pool (.ok (some frame)) next) :
    ∃ time, next.replacer.lookup frame = some { frame, window := [time], evictable := false } := by
  cases fetches with
  | held found =>
      rw [absent] at found
      cases found
  | loaded _ free inserts =>
      have inFree : frame ∈ pool.free := free ▸ List.mem_cons_self
      have inRange := seated.inRange (seated.vacant frame inFree)
      exact ⟨_, Replacer.lookup_pin_new inRange (seated.lookup_of_free inFree)⟩
  | @reused _ former emptied _ _ _ _ formerFound _ _ _ =>
      have inRange : 0 ≤ frame ∧ frame < (pool.replacer.forget frame).capacity :=
        seated.inRange (seated.mapped former frame formerFound).2
      have dropped : (pool.replacer.forget frame).lookup frame = none :=
        (Replacer.lookup_forget frame frame).trans (if_pos rfl)
      exact ⟨_, Replacer.lookup_pin_new inRange dropped⟩

/-- A page that a fetch leaves in a frame was fetched from there. -/
theorem answer_of_fetches {answer : Except Fault (Option FrameId)}
    (fetches : Fetches hash page pool answer next)
    (found : next.pageTable.find hash page = .ok (some frame)) : answer = .ok (some frame) := by
  cases answer with
  | error fault =>
      cases fetches with
      | vacant absent => cases absent.symm.trans found
  | ok reached =>
      cases reached with
      | none =>
          cases fetches with
          | full absent => cases absent.symm.trans found
      | some target =>
          have here := (seated.pinned_of_fetches fetches).found
          rw [found, Except.ok.injEq] at here
          rw [here]

end Seated

/-- The window of the page's frame holds one access for each fetch, up to `k`. -/
def Counts (hash : HashFunction PageId) (page : PageId) (count : Nat) (pool : Pool) : Prop :=
  ∀ frame, pool.pageTable.find hash page = .ok (some frame) →
    ∃ tracked, pool.replacer.lookup frame = some tracked ∧
      tracked.window.length = min pool.replacer.k count

theorem counts_of_absent (absent : pool.pageTable.find hash page = .ok none) :
    Counts hash page count pool := by
  intro frame found
  rw [absent] at found
  cases found

/-- The window is full exactly if the page has been fetched often enough. -/
theorem Counts.isFull_eq (counts : Counts hash page count pool)
    (found : pool.pageTable.find hash page = .ok (some frame)) :
    ∃ tracked, pool.replacer.lookup frame = some tracked ∧
      tracked.isFull pool.replacer.k = decide (pool.replacer.k ≤ count) := by
  obtain ⟨tracked, present, length⟩ := counts frame found
  refine ⟨tracked, present, ?_⟩
  simp [Tracked.isFull, length]

namespace Counts

variable (counts : Counts hash page count pool) (seated : pool.Seated hash)

include counts seated

theorem fetched {answer : Except Fault (Option FrameId)}
    (fetches : Fetches hash page pool answer next) (sameK : next.replacer.k = pool.replacer.k) :
    Counts hash page (countFetch hash page pool (.fetch page) count) next := by
  have positive := pool.replacer.k_pos
  intro frame found
  have answered := seated.answer_of_fetches fetches found
  subst answered
  rw [sameK]
  rcases seated.find_cases page with absent | ⟨former, formerFound⟩
  · obtain ⟨time, loaded⟩ := seated.lookup_of_loaded absent fetches
    refine ⟨_, loaded, ?_⟩
    rw [countFetch_of_absent absent, List.length_singleton]
    omega
  · rw [countFetch_of_found formerFound]
    cases fetches with
    | held pageFound =>
        obtain ⟨tracked, present, length⟩ := counts frame pageFound
        have inRange := seated.inRange (seated.mapped page frame pageFound).2
        have fits : tracked.window.length ≤ pool.replacer.k := by omega
        refine ⟨_, Replacer.lookup_pin_known inRange present, ?_⟩
        have grown := Tracked.length_window_access positive fits pool.replacer.clock
        simp only [grown, length]
        omega
    | loaded absent => cases absent.symm.trans formerFound
    | reused absent => cases absent.symm.trans formerFound

omit seated in
theorem marked (target : FrameId) (evictable : Bool) :
    Counts hash page count { pool with replacer := pool.replacer.mark target evictable } := by
  intro frame found
  obtain ⟨tracked, present, length⟩ := counts frame found
  simp only [Replacer.lookup_mark, Replacer.k_mark, present]
  split
  · exact ⟨_, rfl, length⟩
  · exact ⟨_, rfl, length⟩

theorem deleted {result : Except BufferError Unit} (deletes : Deletes hash page pool result next) :
    Counts hash page count next := by
  cases deletes with
  | absent => exact counts
  | refused => exact counts
  | released _ _ removes =>
      apply counts_of_absent
      exact (removes.find seated.structured page).trans (if_pos rfl)

omit seated in
theorem kept {former : FrameId}
    (found : pool.pageTable.find hash page = .ok (some former))
    (kept : Kept hash page former pool next) (sameK : next.replacer.k = pool.replacer.k) :
    Counts hash page count next := by
  intro frame nextFound
  rw [kept.find_eq, Except.ok.injEq, Option.some.injEq] at nextFound
  subst nextFound
  rw [kept.lookup_eq, sameK]
  exact counts former found

/-- The replacer counts the fetches of a page that is not `noPage`. -/
theorem perform (pageNe : page ≠ noPage)
    (returned : (Pool.perform hash call pool).answer ≠ .error (.table .inseparable)) :
    Counts hash page (countFetch hash page pool call count)
      (Pool.perform hash call pool).state := by
  have sameK := seated.k_of_perform returned
  by_cases about : page = call.page
  · rcases seated.perform_cases returned with ⟨other, _, rfl, fetches⟩ |
      ⟨other, target, rfl, _, marked⟩ | ⟨other, _, rfl, deletes⟩ | ⟨notFetch, same⟩
    · obtain rfl : page = other := about
      exact counts.fetched seated fetches sameK
    · rw [marked]
      exact counts.marked target true
    · obtain rfl : page = other := about
      exact counts.deleted seated deletes
    · rw [same, countFetch_of_ne (notFetch page)]
      exact counts
  · have notFetch : call ≠ .fetch page := by
      rintro rfl
      exact about rfl
    rw [countFetch_of_ne notFetch]
    rcases seated.find_cases page with absent | ⟨former, found⟩
    · exact counts_of_absent (seated.absent_of_perform absent notFetch returned)
    · rcases seated.kept_of_perform found about returned with kept | displaced
      · exact counts.kept found kept sameK
      · exact counts_of_absent (displaced.gone.resolve_left pageNe)

theorem finalState (pageNe : page ≠ noPage) (returns : Returns hash pool calls) :
    Counts hash page (fetchesFrom hash page count pool calls)
      (Run.finalState (Pool.perform hash) pool calls) := by
  induction calls generalizing pool count with
  | nil => exact counts
  | cons call rest inductionHypothesis =>
      rcases returns_cons.mp returns with ⟨returned, laterReturns⟩
      exact inductionHypothesis (counts.perform seated pageNe returned)
        (seated.perform call returned).1 laterReturns

end Counts

theorem k_of_assemble {bucketSize size k : Nat} {fresh : Pool}
    (assembled : assemble bucketSize size k = .ok fresh) : fresh.replacer.k = k := by
  obtain ⟨pageTable, replacer, -, replacerCreated, rfl⟩ := exists_parts_of_assemble assembled
  obtain ⟨positive, rfl⟩ := Replacer.eq_of_create replacerCreated
  rfl

/-- After a run from a fresh pool, a window is full exactly if its page has been fetched `k` times
since it was loaded. -/
theorem isFull_after_run {bucketSize size k : Nat} {fresh : Pool}
    (assembled : assemble bucketSize size k = .ok fresh) (hash : HashFunction PageId)
    (calls : List Call) (returns : Returns hash fresh calls) {page : PageId} {frame : FrameId}
    (pageNe : page ≠ noPage)
    (found : (Run.finalState (perform hash) fresh calls).pageTable.find hash page =
      .ok (some frame)) :
    let pool := Run.finalState (perform hash) fresh calls
    ∃ tracked, pool.replacer.lookup frame = some tracked ∧
      tracked.isFull pool.replacer.k =
        decide (pool.replacer.k ≤ fetchesSinceLoad hash page fresh calls) := by
  have freshCounts : Counts hash page 0 fresh :=
    counts_of_absent (find_of_assemble assembled hash page)
  have counts := freshCounts.finalState (seated_assemble assembled hash) pageNe returns
  exact counts.isFull_eq found

end PageBuffer.Pool
