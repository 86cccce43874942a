import PageBuffer.Proofs.Pool.Holding

/-!
A pinned page keeps its frame.

That a page is pinned is known to the replacer alone, and only about the page's frame.  No call
about another page reaches that frame, and the replacer never chooses a frame that it knows as
pinned.
-/

namespace PageBuffer.Pool

variable {hash : HashFunction PageId} {pool next : Pool} {page : PageId} {frame : FrameId}
  {calls : List Call}

/-- The page is in this frame, and the replacer may not give the frame up. -/
structure Pinned (hash : HashFunction PageId) (page : PageId) (frame : FrameId)
    (pool : Pool) : Prop where
  seated : pool.Seated hash
  found : pool.pageTable.find hash page = .ok (some frame)
  tracked : ∃ tracked, pool.replacer.lookup frame = some tracked ∧ tracked.evictable = false

/-- What a pool answers about a page that it holds pinned in a frame. -/
structure AnswersPinned (hash : HashFunction PageId) (page : PageId) (frame : FrameId)
    (pool : Pool) : Prop where
  find_eq : pool.find hash page = .ok (some frame)
  fetch_eq : (pool.fetch hash page).answer = .ok (some frame)
  delete_eq : (pool.delete hash page).answer = .ok (.error (.removeNonEvictable frame))
  fetch_ne : ∀ other ≠ page, (pool.fetch hash other).answer ≠ .ok (some frame)

theorem Seated.pinned_of_fetches (seated : pool.Seated hash)
    (fetches : Fetches hash page pool (.ok (some frame)) next) : Pinned hash page frame next := by
  have nextSeated := seated.fetched fetches
  cases fetches with
  | held found =>
      have inRange := seated.inRange (seated.mapped page frame found).2
      exact ⟨nextSeated, found, Replacer.lookup_pin_self inRange⟩
  | loaded absent free inserts =>
      have inRange := seated.inRange (seated.vacant frame (free ▸ List.mem_cons_self))
      have find := (inserts.find seated.structured page).trans (if_pos rfl)
      exact ⟨nextSeated, find, Replacer.lookup_pin_self inRange⟩
  | @reused _ former emptied _ _ _ _ formerFound _ removes inserts =>
      have inRange : 0 ≤ frame ∧ frame < (pool.replacer.forget frame).capacity :=
        seated.inRange (seated.mapped former frame formerFound).2
      have find := (inserts.find (removes.structured seated.structured) page).trans (if_pos rfl)
      exact ⟨nextSeated, find, Replacer.lookup_pin_self inRange⟩

namespace Pinned

variable (pinned : Pinned hash page frame pool)

include pinned

theorem victim_ne : pool.replacer.victim? ≠ some frame := by
  apply pinned.seated.victim_ne
  intro present presentTracked
  obtain ⟨tracked, tracks, held⟩ := pinned.tracked
  rw [presentTracked, Option.some.injEq] at tracks
  rw [tracks, held]

theorem fetch_eq : pool.fetch hash page = ⟨.ok (some frame), { pool with
    replacer := (pool.replacer.touch frame).state.mark frame false }, []⟩ := by
  have inRange := pinned.seated.inRange (pinned.seated.mapped page frame pinned.found).2
  exact fetch_of_found (find_eq_ok_iff.mpr pinned.found) (pin_eq_ok inRange)

theorem delete_eq :
    pool.delete hash page = ⟨.ok (.error (.removeNonEvictable frame)), pool, []⟩ := by
  obtain ⟨tracked, tracks, held⟩ := pinned.tracked
  apply delete_of_refused (find_eq_ok_iff.mpr pinned.found)
  exact Replacer.release_of_pinned tracks held

theorem answers : AnswersPinned hash page frame pool where
  find_eq := find_eq_ok_iff.mpr pinned.found
  fetch_eq := by rw [pinned.fetch_eq]
  delete_eq := by rw [pinned.delete_eq]
  fetch_ne other different := by
    rcases pinned.seated.fetches other with fetches | failed
    · rcases pinned.seated.kept_of_fetches pinned.found different.symm fetches with
        ⟨_, answerNe⟩ | displaced
      · exact answerNe
      · exact absurd displaced.victim pinned.victim_ne
    · rw [failed]
      simp

/-- No call but its own unpinning takes a pinned page out of its frame or lets the frame go. -/
theorem perform {call : Call} (notUnpin : call ≠ .unpin page)
    (returned : (Pool.perform hash call pool).answer ≠ .error (.table .inseparable)) :
    Pinned hash page frame (Pool.perform hash call pool).state := by
  by_cases same : page = call.page
  · cases call with
    | fetch other =>
        obtain rfl : page = other := same
        rw [Pool.perform, pinned.fetch_eq]
        exact pinned.seated.pinned_of_fetches (.held pinned.found)
    | unpin other =>
        obtain rfl : page = other := same
        exact absurd rfl notUnpin
    | delete other =>
        obtain rfl : page = other := same
        rw [Pool.perform, pinned.delete_eq]
        exact pinned
    | find other => exact pinned
  · have nextSeated := (pinned.seated.perform call returned).1
    rcases pinned.seated.kept_of_perform pinned.found same returned with kept | displaced
    · exact ⟨nextSeated, kept.find_eq, kept.lookup_eq ▸ pinned.tracked⟩
    · exact absurd displaced.victim pinned.victim_ne

theorem states (notUnpinned : .unpin page ∉ calls) (returns : Returns hash pool calls) :
    ∀ reached ∈ Run.states (Pool.perform hash) pool calls, Pinned hash page frame reached := by
  refine Run.forall_states (Pool.perform hash) ?_ pinned returns
  intro call member reached reachedPinned returned
  have notUnpin : call ≠ .unpin page := fun isUnpin => notUnpinned (isUnpin ▸ member)
  exact reachedPinned.perform notUnpin returned

end Pinned

/-- A fetch pins its page.  Until the page is unpinned it stays in the frame, whatever is called in
between: it is found there and fetched from there, it cannot be deleted, and no other page gets the
frame. -/
theorem pinned_until_unpinned {bucketSize size k : Nat} {fresh : Pool}
    (assembled : assemble bucketSize size k = .ok fresh) (hash : HashFunction PageId)
    (before after : List Call) {page : PageId} {frame : FrameId}
    (fetched : (Pool.fetch (Run.finalState (perform hash) fresh before) hash page).answer =
      .ok (some frame))
    (notUnpinned : .unpin page ∉ after)
    (returns : Returns hash fresh (before ++ .fetch page :: after)) :
    ∀ pool ∈ Run.states (perform hash)
      (Pool.fetch (Run.finalState (perform hash) fresh before) hash page).state after,
      AnswersPinned hash page frame pool := by
  rcases returns_append.mp returns with ⟨returnsBefore, returnsAfter⟩
  have seated := (seated_assemble assembled hash).finalState returnsBefore
  have returnsLater := (returns_cons.mp returnsAfter).2
  rcases seated.fetches page with fetches | failed
  · rw [fetched] at fetches
    intro pool reached
    exact ((seated.pinned_of_fetches fetches).states notUnpinned returnsLater pool reached).answers
  · rw [fetched] at failed
    cases failed

/-- Page `7` is pinned in frame `1` while the other frame changes hands.  One call is abandoned: the
other frame is that of `noPage`. -/
theorem pinned_until_unpinned_beside_noPage :
    let hash : HashFunction PageId := fun page => UInt64.ofNat page.toNat
    let before : List Call := [.fetch noPage, .unpin noPage]
    let after : List Call :=
      [.fetch 5, .delete 7, .fetch noPage, .unpin noPage, .delete noPage, .fetch 5, .unpin 5,
        .fetch 7, .fetch 3, .fetch 4, .delete 7]
    ∃ fresh, assemble 1 2 2 = .ok fresh ∧
      (Pool.fetch (Run.finalState (perform hash) fresh before) hash 7).answer = .ok (some 1) ∧
      Returns hash fresh (before ++ .fetch 7 :: after) ∧
      Run.answers (perform hash)
          (Pool.fetch (Run.finalState (perform hash) fresh before) hash 7).state after =
        [.error (.vacant 0), .ok (.refused (.removeNonEvictable 1)), .ok (.frame (some 0)),
          .ok .done, .ok .done, .ok (.frame (some 0)), .ok .done, .ok (.frame (some 1)),
          .ok (.frame (some 0)), .ok (.frame none), .ok (.refused (.removeNonEvictable 1))] ∧
      ∀ pool ∈ Run.states (perform hash)
        (Pool.fetch (Run.finalState (perform hash) fresh before) hash 7).state after,
        AnswersPinned hash 7 1 pool := by
  intro hash before after
  have assembled : assemble 1 2 2 = .ok (_ : Pool) := rfl
  refine ⟨_, assembled, by decide +kernel, ?returns, by decide +kernel,
    pinned_until_unpinned assembled hash before after (by decide +kernel) (by decide) ?returns⟩
  decide +kernel

end PageBuffer.Pool
