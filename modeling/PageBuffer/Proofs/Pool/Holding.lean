import PageBuffer.Proofs.Pool.Seating

/-!
What a call leaves of a page that it is not about.

The page stays in its frame, and the replacer knows the same of that frame, unless the frame is the
replacer's next victim.  A page that is not in the pool stays out of it.
-/

namespace PageBuffer.Pool

variable {hash : HashFunction PageId} {pool next : Pool} {page other : PageId} {frame : FrameId}
  {calls first second : List Call}

section Returning

/-- Every insertion into the page table comes to an end. -/
def Returns (hash : HashFunction PageId) (pool : Pool) (calls : List Call) : Prop :=
  ∀ outcome ∈ Run.outcomes (perform hash) pool calls, outcome.answer ≠ .error (.table .inseparable)

instance : Decidable (Returns hash pool calls) :=
  inferInstanceAs (Decidable (∀ outcome ∈ Run.outcomes (perform hash) pool calls,
    outcome.answer ≠ .error (.table .inseparable)))

theorem returns_cons {call : Call} : Returns hash pool (call :: calls) ↔
    (perform hash call pool).answer ≠ .error (.table .inseparable) ∧
      Returns hash (perform hash call pool).state calls :=
  List.forall_mem_cons

theorem returns_append : Returns hash pool (first ++ second) ↔
    Returns hash pool first ∧ Returns hash (Run.finalState (perform hash) pool first) second := by
  simp only [Returns, Run.outcomes_append, List.forall_mem_append]

theorem Seated.finalState (seated : pool.Seated hash) (returns : Returns hash pool calls) :
    (Run.finalState (Pool.perform hash) pool calls).Seated hash :=
  (seated.states calls returns _ (Run.finalState_mem_states _ _ _)).1

end Returning

/-- A page is in the same frame before and after, and the replacer knows the same of that frame. -/
structure Kept (hash : HashFunction PageId) (page : PageId) (frame : FrameId)
    (pool next : Pool) : Prop where
  find_eq : next.pageTable.find hash page = .ok (some frame)
  lookup_eq : next.replacer.lookup frame = pool.replacer.lookup frame

/-- No frame is free, and the replacer chooses the frame of this page. -/
structure Displaced (hash : HashFunction PageId) (page : PageId) (frame : FrameId)
    (pool next : Pool) : Prop where
  free_eq : pool.free = []
  victim : pool.replacer.victim? = some frame
  gone : page = noPage ∨ next.pageTable.find hash page = .ok none

namespace Seated

variable (seated : pool.Seated hash)

include seated

/-- The replacer never chooses a frame that it does not know as evictable. -/
theorem victim_ne (spared : ∀ tracked, pool.replacer.lookup frame = some tracked →
    tracked.evictable = false) : pool.replacer.victim? ≠ some frame := by
  intro victim
  rcases seated.follows with ⟨chronicle, follows⟩
  obtain ⟨tracked, present, evictable⟩ := follows.keeps.lookup_of_victim victim
  rw [spared tracked present] at evictable
  cases evictable

/-- A fetch of another page displaces a page or leaves it in its frame. -/
theorem kept_of_fetches {answer : Except Fault (Option FrameId)}
    (found : pool.pageTable.find hash page = .ok (some frame)) (different : page ≠ other)
    (fetches : Fetches hash other pool answer next) :
    (Kept hash page frame pool next ∧ answer ≠ .ok (some frame)) ∨
      Displaced hash page frame pool next := by
  cases fetches with
  | @held target otherFound =>
      have frameNe : frame ≠ target := by
        rintro rfl
        exact different (seated.page_unique found otherFound)
      have inRange := seated.inRange (seated.mapped other target otherFound).2
      refine .inl ⟨⟨found, Replacer.lookup_pin_of_ne inRange frameNe⟩, ?_⟩
      simpa using frameNe.symm
  | @loaded target rest pageTable absent free inserts =>
      have targetFree : target ∈ pool.free := free ▸ List.mem_cons_self
      have frameNe : frame ≠ target := by
        rintro rfl
        exact (seated.mapped page frame found).1 targetFree
      have inRange := seated.inRange (seated.vacant target targetFree)
      have find := (inserts.find seated.structured page).trans (if_neg different)
      refine .inl ⟨⟨find.trans found, Replacer.lookup_pin_of_ne inRange frameNe⟩, ?_⟩
      simpa using frameNe.symm
  | @reused target former emptied pageTable absent free victim formerFound formerNe removes
        inserts =>
      have find := (inserts.find (removes.structured seated.structured) page).trans
        (if_neg different)
      rw [removes.find seated.structured] at find
      by_cases samePage : page = former
      · rw [if_pos samePage] at find
        rw [samePage, formerFound, Except.ok.injEq, Option.some.injEq] at found
        exact .inr ⟨free, found ▸ victim, .inr find⟩
      · rw [if_neg samePage] at find
        have frameNe : frame ≠ target := by
          rintro rfl
          exact samePage (seated.page_unique found formerFound)
        have inRange : 0 ≤ target ∧ target < (pool.replacer.forget target).capacity :=
          seated.inRange (seated.mapped former target formerFound).2
        refine .inl ⟨⟨find.trans found, ?_⟩, by simpa using frameNe.symm⟩
        have dropped : (pool.replacer.forget target).lookup frame = pool.replacer.lookup frame :=
          (Replacer.lookup_forget target frame).trans (if_neg frameNe)
        exact (Replacer.lookup_pin_of_ne inRange frameNe).trans dropped
  | @vacant target absent free victim noPageFound =>
      by_cases samePage : page = noPage
      · rw [samePage, noPageFound, Except.ok.injEq, Option.some.injEq] at found
        exact .inr ⟨free, found ▸ victim, .inl samePage⟩
      · have frameNe : frame ≠ target := by
          rintro rfl
          exact samePage (seated.page_unique found noPageFound)
        refine .inl ⟨⟨found, ?_⟩, by simp⟩
        rw [Replacer.lookup_forget, if_neg frameNe]
  | full => exact .inl ⟨⟨found, rfl⟩, by simp⟩

theorem kept_of_deletes {result : Except BufferError Unit}
    (found : pool.pageTable.find hash page = .ok (some frame)) (different : page ≠ other)
    (deletes : Deletes hash other pool result next) : Kept hash page frame pool next := by
  cases deletes with
  | absent => exact ⟨found, rfl⟩
  | refused => exact ⟨found, rfl⟩
  | @released target pageTable otherFound unpinned removes =>
      have frameNe : frame ≠ target := by
        rintro rfl
        exact different (seated.page_unique found otherFound)
      have find := (removes.find seated.structured page).trans (if_neg different)
      have lookup := ((Replacer.release_of_unpinned unpinned).2.2 frame).trans (if_neg frameNe)
      exact ⟨find.trans found, lookup⟩

theorem kept_of_mark {target : FrameId}
    (found : pool.pageTable.find hash page = .ok (some frame)) (different : page ≠ other)
    (otherFound : pool.pageTable.find hash other = .ok (some target)) (evictable : Bool) :
    Kept hash page frame pool { pool with replacer := pool.replacer.mark target evictable } := by
  have frameNe : frame ≠ target := by
    rintro rfl
    exact different (seated.page_unique found otherFound)
  refine ⟨found, ?_⟩
  rw [Replacer.lookup_mark, if_neg frameNe]

/-- A call about another page displaces a page or leaves it in its frame. -/
theorem kept_of_perform (found : pool.pageTable.find hash page = .ok (some frame)) {call : Call}
    (different : page ≠ call.page)
    (returned : (Pool.perform hash call pool).answer ≠ .error (.table .inseparable)) :
    Kept hash page frame pool (Pool.perform hash call pool).state ∨
      Displaced hash page frame pool (Pool.perform hash call pool).state := by
  rcases seated.perform_cases returned with ⟨other, _, rfl, fetches⟩ |
    ⟨other, target, rfl, otherFound, marked⟩ | ⟨other, _, rfl, deletes⟩ | ⟨_, same⟩
  · exact (seated.kept_of_fetches found different fetches).imp_left And.left
  · rw [marked]
    exact .inl (seated.kept_of_mark found different otherFound true)
  · exact .inl (seated.kept_of_deletes found different deletes)
  · rw [same]
    exact .inl ⟨found, rfl⟩

theorem absent_of_fetches {answer : Except Fault (Option FrameId)}
    (absent : pool.pageTable.find hash page = .ok none) (different : page ≠ other)
    (fetches : Fetches hash other pool answer next) :
    next.pageTable.find hash page = .ok none := by
  have structured := seated.structured
  cases fetches with
  | held => exact absent
  | loaded _ _ inserts =>
      have find := (inserts.find structured page).trans (if_neg different)
      exact find.trans absent
  | reused _ _ _ _ _ removes inserts =>
      have find := (inserts.find (removes.structured structured) page).trans (if_neg different)
      apply find.trans
      rw [removes.find structured, absent, ite_self]
  | vacant => exact absent
  | full => exact absent

theorem absent_of_deletes {result : Except BufferError Unit}
    (absent : pool.pageTable.find hash page = .ok none)
    (deletes : Deletes hash other pool result next) :
    next.pageTable.find hash page = .ok none := by
  cases deletes with
  | absent => exact absent
  | refused => exact absent
  | released _ _ removes =>
      apply (removes.find seated.structured page).trans
      rw [absent, ite_self]

/-- Only its own fetch brings a page into the pool. -/
theorem absent_of_perform (absent : pool.pageTable.find hash page = .ok none) {call : Call}
    (different : call ≠ .fetch page)
    (returned : (Pool.perform hash call pool).answer ≠ .error (.table .inseparable)) :
    (Pool.perform hash call pool).state.pageTable.find hash page = .ok none := by
  rcases seated.perform_cases returned with
    ⟨other, _, rfl, fetches⟩ | ⟨_, _, _, _, marked⟩ | ⟨_, _, _, deletes⟩ | ⟨_, same⟩
  · apply seated.absent_of_fetches absent _ fetches
    rintro rfl
    exact different rfl
  · rw [marked]
    exact absent
  · exact seated.absent_of_deletes absent deletes
  · rw [same]
    exact absent

theorem absent_of_finalState (absent : pool.pageTable.find hash page = .ok none)
    (notFetched : .fetch page ∉ calls) (returns : Returns hash pool calls) :
    (Run.finalState (Pool.perform hash) pool calls).pageTable.find hash page = .ok none := by
  have kept : ∀ reached ∈ Run.states (Pool.perform hash) pool calls,
      reached.Seated hash ∧ reached.pageTable.find hash page = .ok none := by
    refine Run.forall_states (Pool.perform hash) ?_ ⟨seated, absent⟩ returns
    rintro call member reached ⟨reachedSeated, reachedAbsent⟩ returned
    have notFetch : call ≠ .fetch page := fun isFetch => notFetched (isFetch ▸ member)
    exact ⟨(reachedSeated.perform call returned).1,
      reachedSeated.absent_of_perform reachedAbsent notFetch returned⟩
  exact (kept _ (Run.finalState_mem_states _ _ _)).2

end Seated

end PageBuffer.Pool
