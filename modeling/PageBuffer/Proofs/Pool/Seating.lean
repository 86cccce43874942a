import PageBuffer.Proofs.Pool.Branches
import PageBuffer.Proofs.Replacer.Refinement
import PageBuffer.Proofs.Table.Routing

/-!
How the parts of a pool hang together, whatever pages it is asked for.

Every frame is free or has one page mapped to it.  The replacer tracks frames with pages only.  It
tracks all of these except, perhaps, the frame of `noPage`: an eviction of that frame is abandoned
when the replacer has dropped it already.
-/

namespace PageBuffer.Pool

variable {hash : HashFunction PageId} {pool : Pool} {page other : PageId} {frame : FrameId}
  {replacer : Replacer} {pageTable : Table PageId FrameId}

/-- The page table, the replacer, the free list and the residents agree on every frame. -/
structure Seated (hash : HashFunction PageId) (pool : Pool) : Prop where
  structured : pool.pageTable.Structured
  routed : pool.pageTable.Routed hash
  capacity_eq : pool.replacer.capacity = pool.resident.size
  follows : ∃ chronicle, Replacer.Follows pool.replacer chronicle
  nodup_free : pool.free.Nodup
  vacant : ∀ frame ∈ pool.free, pool.pageIn frame = .ok noPage
  mapped : ∀ page frame, pool.pageTable.find hash page = .ok (some frame) →
    frame ∉ pool.free ∧ pool.pageIn frame = .ok page
  covered : ∀ frame page, pool.pageIn frame = .ok page →
    frame ∈ pool.free ∨ ∃ page, pool.pageTable.find hash page = .ok (some frame)
  tracked : ∀ frame, pool.replacer.lookup frame ≠ none →
    ∃ page, pool.pageTable.find hash page = .ok (some frame)
  known : ∀ page frame, pool.pageTable.find hash page = .ok (some frame) → page ≠ noPage →
    pool.replacer.lookup frame ≠ none
  counted : pool.pageTable.len + pool.free.length = pool.resident.size

theorem find_of_assemble {bucketSize size k : Nat} {fresh : Pool}
    (assembled : assemble bucketSize size k = .ok fresh) (hash : HashFunction PageId)
    (page : PageId) : fresh.pageTable.find hash page = .ok none := by
  obtain ⟨pageTable, replacer, tableCreated, -, rfl⟩ := exists_parts_of_assemble assembled
  exact Table.find_of_create tableCreated hash page

theorem seated_assemble {bucketSize size k : Nat} {fresh : Pool}
    (assembled : assemble bucketSize size k = .ok fresh) (hash : HashFunction PageId) :
    fresh.Seated hash := by
  have absent := find_of_assemble assembled hash
  obtain ⟨pageTable, replacer, tableCreated, replacerCreated, rfl⟩ :=
    exists_parts_of_assemble assembled
  have structured := Table.structured_create tableCreated
  have routed := Table.routed_create tableCreated hash
  have follows := Replacer.follows_create replacerCreated
  obtain ⟨positive, rfl⟩ := Replacer.eq_of_create replacerCreated
  obtain ⟨roomy, rfl⟩ := Table.eq_of_create tableCreated
  have unmapped : ∀ page frame, ({ bucketSize, bucketSize_pos := roomy } :
      Table PageId FrameId).find hash page ≠ .ok (some frame) := by
    intro page frame found
    cases (absent page).symm.trans found
  constructor
  case structured => exact structured
  case routed => exact routed
  case capacity_eq => exact Array.size_replicate.symm
  case follows => exact ⟨_, follows⟩
  case nodup_free => exact List.nodup_range.map fun _ _ same => Int.ofNat.inj same
  case vacant =>
    intro frame inFree
    rcases List.mem_map.mp inFree with ⟨index, inside, rfl⟩
    apply pageIn_eq_ok
    rw [around, Array.getElem?_replicate, if_pos (List.mem_range.mp inside)]
  case mapped =>
    intro page frame found
    exact absurd found (unmapped page frame)
  case covered =>
    intro frame page inFrames
    rcases pageIn_eq_ok_iff.mp inFrames with ⟨natural, found⟩
    have inside := (Array.getElem?_eq_some_iff.mp found).1
    rw [around, Array.size_replicate] at inside
    exact .inl (List.mem_map.mpr ⟨frame.toNat, List.mem_range.mpr inside,
      Int.toNat_of_nonneg natural⟩)
  case tracked =>
    intro frame present
    exact absurd rfl present
  case known =>
    intro page frame found
    exact absurd found (unmapped page frame)
  case counted => simp [around]

namespace Seated

variable (seated : pool.Seated hash)

include seated

theorem inRange {former : PageId} (inFrames : pool.pageIn frame = .ok former) :
    0 ≤ frame ∧ frame < pool.replacer.capacity := by
  rcases pageIn_eq_ok_iff.mp inFrames with ⟨natural, found⟩
  have inside := (Array.getElem?_eq_some_iff.mp found).1
  rw [seated.capacity_eq]
  exact ⟨natural, (Int.toNat_lt natural).mp inside⟩

/-- A frame has at most one page. -/
theorem page_unique (found : pool.pageTable.find hash page = .ok (some frame))
    (otherFound : pool.pageTable.find hash other = .ok (some frame)) : page = other := by
  have same := (seated.mapped page frame found).2
  rw [(seated.mapped other frame otherFound).2] at same
  exact (Except.ok.inj same).symm

/-- What happens in the replacer alone must not track a frame without a page, nor drop one whose
page is not `noPage`. -/
theorem withReplacer (sameCapacity : replacer.capacity = pool.replacer.capacity)
    (follows : ∃ chronicle, Replacer.Follows replacer chronicle)
    (tracked : ∀ frame, replacer.lookup frame ≠ none →
      pool.replacer.lookup frame ≠ none ∨
        ∃ page, pool.pageTable.find hash page = .ok (some frame))
    (known : ∀ page frame, pool.pageTable.find hash page = .ok (some frame) → page ≠ noPage →
      pool.replacer.lookup frame ≠ none → replacer.lookup frame ≠ none) :
    Seated hash { pool with replacer } where
  structured := seated.structured
  routed := seated.routed
  capacity_eq := sameCapacity.trans seated.capacity_eq
  follows := follows
  nodup_free := seated.nodup_free
  vacant := seated.vacant
  mapped := seated.mapped
  covered := seated.covered
  tracked frame present := (tracked frame present).elim (seated.tracked frame) id
  known page frame found pageNe :=
    known page frame found pageNe (seated.known page frame found pageNe)
  counted := seated.counted

/-- A page in its frame may be accessed and pinned. -/
theorem pin (found : pool.pageTable.find hash page = .ok (some frame)) :
    Seated hash { pool with
      replacer := (pool.replacer.touch frame).state.mark frame false } := by
  have inRange := seated.inRange (seated.mapped page frame found).2
  rcases seated.follows with ⟨chronicle, follows⟩
  apply seated.withReplacer
  case sameCapacity => rw [Replacer.capacity_mark, Replacer.capacity_touch]
  case follows => exact ⟨_, (follows.touch frame).2.mark frame false⟩
  case tracked =>
    intro target present
    by_cases same : target = frame
    · exact .inr ⟨page, same ▸ found⟩
    · rw [Replacer.lookup_pin_of_ne inRange same] at present
      exact .inl present
  case known =>
    intro _ target _ _ present
    by_cases same : target = frame
    · obtain ⟨tracked, pinned, _⟩ := Replacer.lookup_pin_self inRange
      rw [same, pinned]
      exact Option.some_ne_none tracked
    · rwa [Replacer.lookup_pin_of_ne inRange same]

theorem mark (frame : FrameId) (evictable : Bool) :
    Seated hash { pool with replacer := pool.replacer.mark frame evictable } := by
  have sameTracked : ∀ target, (pool.replacer.mark frame evictable).lookup target ≠ none ↔
      pool.replacer.lookup target ≠ none := by
    intro target
    rw [Replacer.lookup_mark]
    split <;> simp
  rcases seated.follows with ⟨chronicle, follows⟩
  apply seated.withReplacer
  case sameCapacity => exact Replacer.capacity_mark _ _ _
  case follows => exact ⟨_, follows.mark frame evictable⟩
  case tracked => exact fun target present => .inl ((sameTracked target).mp present)
  case known => exact fun _ target _ _ present => (sameTracked target).mpr present

/-- A page may be taken out of its frame once the replacer has dropped the frame. -/
theorem clear (found : pool.pageTable.find hash page = .ok (some frame))
    (removes : Table.Removes hash page pool.pageTable true pageTable)
    (sameCapacity : replacer.capacity = pool.replacer.capacity)
    (follows : ∃ chronicle, Replacer.Follows replacer chronicle)
    (dropped : ∀ target, replacer.lookup target =
      if target = frame then none else pool.replacer.lookup target) :
    Seated hash { clear { pool with replacer } pageTable frame with
      free := pool.free ++ [frame] } := by
  rcases seated.mapped page frame found with ⟨notFree, inFrames⟩
  have pageIn : ∀ target,
      Pool.pageIn { Pool.clear { pool with replacer } pageTable frame with
        free := pool.free ++ [frame] } target =
      if target = frame then .ok noPage else pool.pageIn target :=
    fun _ => pageIn_setIfInBounds inFrames rfl
  have find : ∀ {sought target}, pageTable.find hash sought = .ok (some target) →
      sought ≠ page ∧ pool.pageTable.find hash sought = .ok (some target) ∧ target ≠ frame := by
    intro sought target soughtFound
    rw [removes.find seated.structured] at soughtFound
    split at soughtFound
    · cases soughtFound
    · rename_i different
      refine ⟨different, soughtFound, ?_⟩
      rintro rfl
      exact different (seated.page_unique soughtFound found)
  have findStill : ∀ {sought target}, pool.pageTable.find hash sought = .ok (some target) →
      target ≠ frame → pageTable.find hash sought = .ok (some target) := by
    intro sought target soughtFound different
    rw [removes.find seated.structured, if_neg, soughtFound]
    rintro rfl
    rw [found] at soughtFound
    cases soughtFound
    exact different rfl
  constructor
  case structured => exact removes.structured seated.structured
  case routed => exact seated.routed.removes seated.structured removes
  case capacity_eq =>
    exact (sameCapacity.trans seated.capacity_eq).trans Array.size_setIfInBounds.symm
  case follows => exact follows
  case nodup_free =>
    rw [← List.concat_eq_append]
    exact List.Nodup.concat notFree seated.nodup_free
  case vacant =>
    intro target inFree
    rw [pageIn]
    rcases List.mem_append.mp inFree with before | last
    · split
      · rfl
      · exact seated.vacant target before
    · rw [if_pos (List.mem_singleton.mp last)]
  case mapped =>
    intro sought target soughtFound
    obtain ⟨_, soughtFound, different⟩ := find soughtFound
    rcases seated.mapped sought target soughtFound with ⟨targetNotFree, inTarget⟩
    rw [pageIn, if_neg different]
    exact ⟨by simp [targetNotFree, different], inTarget⟩
  case covered =>
    intro target content inTarget
    rw [pageIn] at inTarget
    by_cases same : target = frame
    · exact .inl (by simp [same])
    · rw [if_neg same] at inTarget
      rcases seated.covered target content inTarget with inFree | ⟨sought, soughtFound⟩
      · exact .inl (List.mem_append_left _ inFree)
      · exact .inr ⟨sought, findStill soughtFound same⟩
  case tracked =>
    intro target present
    have present : replacer.lookup target ≠ none := present
    rw [dropped] at present
    split at present
    · exact absurd rfl present
    · rename_i different
      rcases seated.tracked target present with ⟨sought, soughtFound⟩
      exact ⟨sought, findStill soughtFound different⟩
  case known =>
    intro sought target soughtFound soughtNe
    obtain ⟨_, soughtFound, different⟩ := find soughtFound
    have still : replacer.lookup target ≠ none := by
      rw [dropped, if_neg different]
      exact seated.known sought target soughtFound soughtNe
    exact still
  case counted =>
    have len := removes.len seated.structured
    have counted := seated.counted
    simp only [if_true] at len
    simp only [Pool.clear, List.length_append, List.length_singleton, Array.size_setIfInBounds]
    omega

omit seated in
/-- A page may be put into the next free frame. -/
theorem seat (seated : Seated hash { pool with free := frame :: pool.free })
    (absent : pool.pageTable.find hash page = .ok none)
    (inserts : Table.Inserts hash page frame pool.pageTable pageTable) :
    (pool.seat pageTable page frame).Seated hash := by
  have structured := seated.structured
  have vacant : pool.pageIn frame = .ok noPage := seated.vacant frame List.mem_cons_self
  have inRange := seated.inRange vacant
  rcases List.nodup_cons.mp seated.nodup_free with ⟨notFree, nodup⟩
  have pageIn : ∀ target, (pool.seat pageTable page frame).pageIn target =
      if target = frame then .ok page else pool.pageIn target :=
    fun _ => pageIn_setIfInBounds vacant rfl
  have find : ∀ {sought target}, pageTable.find hash sought = .ok (some target) →
      sought = page ∧ target = frame ∨
        pool.pageTable.find hash sought = .ok (some target) ∧ target ≠ frame := by
    intro sought target soughtFound
    rw [inserts.find structured] at soughtFound
    split at soughtFound
    · rename_i same
      exact .inl ⟨same, (Option.some.inj (Except.ok.inj soughtFound)).symm⟩
    · refine .inr ⟨soughtFound, ?_⟩
      rintro rfl
      exact (seated.mapped sought target soughtFound).1 List.mem_cons_self
  have findStill : ∀ {sought target}, pool.pageTable.find hash sought = .ok (some target) →
      pageTable.find hash sought = .ok (some target) := by
    intro sought target soughtFound
    rw [inserts.find structured, if_neg, soughtFound]
    rintro rfl
    rw [absent] at soughtFound
    cases soughtFound
  have findPage : pageTable.find hash page = .ok (some frame) := by
    rw [inserts.find structured, if_pos rfl]
  rcases seated.follows with ⟨chronicle, follows⟩
  constructor
  case structured => exact inserts.structured structured
  case routed => exact seated.routed.inserts structured inserts
  case capacity_eq =>
    rw [Pool.seat, Replacer.capacity_mark, Replacer.capacity_touch, Array.size_setIfInBounds]
    exact seated.capacity_eq
  case follows => exact ⟨_, (follows.touch frame).2.mark frame false⟩
  case nodup_free => exact nodup
  case vacant =>
    intro target inFree
    have different : target ≠ frame := by
      rintro rfl
      exact notFree inFree
    rw [pageIn, if_neg different]
    exact seated.vacant target (List.mem_cons_of_mem frame inFree)
  case mapped =>
    intro sought target soughtFound
    rw [pageIn]
    rcases find soughtFound with ⟨rfl, rfl⟩ | ⟨soughtFound, different⟩
    · rw [if_pos rfl]
      exact ⟨notFree, rfl⟩
    · rw [if_neg different]
      rcases seated.mapped sought target soughtFound with ⟨targetNotFree, inTarget⟩
      exact ⟨fun inFree => targetNotFree (List.mem_cons_of_mem frame inFree), inTarget⟩
  case covered =>
    intro target content inTarget
    rw [pageIn] at inTarget
    by_cases same : target = frame
    · exact .inr ⟨page, same ▸ findPage⟩
    · rw [if_neg same] at inTarget
      rcases seated.covered target content inTarget with inFree | ⟨sought, soughtFound⟩
      · exact .inl ((List.mem_cons.mp inFree).resolve_left same)
      · exact .inr ⟨sought, findStill soughtFound⟩
  case tracked =>
    intro target present
    by_cases same : target = frame
    · exact ⟨page, same ▸ findPage⟩
    · rw [Pool.seat, Replacer.lookup_pin_of_ne inRange same] at present
      rcases seated.tracked target present with ⟨sought, soughtFound⟩
      exact ⟨sought, findStill soughtFound⟩
  case known =>
    intro sought target soughtFound soughtNe
    rw [Pool.seat]
    rcases find soughtFound with ⟨rfl, rfl⟩ | ⟨soughtFound, different⟩
    · obtain ⟨tracked, pinned, _⟩ := Replacer.lookup_pin_self inRange
      rw [pinned]
      exact Option.some_ne_none tracked
    · rw [Replacer.lookup_pin_of_ne inRange different]
      exact seated.known sought target soughtFound soughtNe
  case counted =>
    have len := inserts.len structured absent
    have counted := seated.counted
    simp only [Option.isSome_none, Bool.false_eq_true, if_false, List.length_cons] at len counted
    simp only [Pool.seat, Array.size_setIfInBounds]
    omega

end Seated

section Operations

/-- What fetching a page comes to. -/
inductive Fetches (hash : HashFunction PageId) (page : PageId) (pool : Pool) :
    Except Fault (Option FrameId) → Pool → Prop where
  | held {frame : FrameId} (found : pool.pageTable.find hash page = .ok (some frame)) :
      Fetches hash page pool (.ok (some frame))
        { pool with replacer := (pool.replacer.touch frame).state.mark frame false }
  | loaded {frame : FrameId} {rest : List FrameId} {pageTable : Table PageId FrameId}
      (absent : pool.pageTable.find hash page = .ok none) (free : pool.free = frame :: rest)
      (inserts : Table.Inserts hash page frame pool.pageTable pageTable) :
      Fetches hash page pool (.ok (some frame))
        (seat { pool with free := rest } pageTable page frame)
  | reused {frame : FrameId} {former : PageId} {emptied pageTable : Table PageId FrameId}
      (absent : pool.pageTable.find hash page = .ok none) (free : pool.free = [])
      (victim : pool.replacer.victim? = some frame)
      (found : pool.pageTable.find hash former = .ok (some frame)) (formerNe : former ≠ noPage)
      (removes : Table.Removes hash former pool.pageTable true emptied)
      (inserts : Table.Inserts hash page frame emptied pageTable) :
      Fetches hash page pool (.ok (some frame))
        (seat (clear { pool with replacer := pool.replacer.forget frame } emptied frame)
          pageTable page frame)
  /-- The frame to reuse turns out to be that of `noPage`. -/
  | vacant {frame : FrameId} (absent : pool.pageTable.find hash page = .ok none)
      (free : pool.free = []) (victim : pool.replacer.victim? = some frame)
      (found : pool.pageTable.find hash noPage = .ok (some frame)) :
      Fetches hash page pool (.error (.vacant frame))
        { pool with replacer := pool.replacer.forget frame }
  | full (absent : pool.pageTable.find hash page = .ok none) (free : pool.free = [])
      (noVictim : pool.replacer.victim? = none) : Fetches hash page pool (.ok none) pool

/-- What deleting a page comes to. -/
inductive Deletes (hash : HashFunction PageId) (page : PageId) (pool : Pool) :
    Except BufferError Unit → Pool → Prop where
  | absent (absent : pool.pageTable.find hash page = .ok none) :
      Deletes hash page pool (.ok ()) pool
  | refused {frame : FrameId} {tracked : Tracked}
      (found : pool.pageTable.find hash page = .ok (some frame))
      (present : pool.replacer.lookup frame = some tracked) (pinned : tracked.evictable = false) :
      Deletes hash page pool (.error (.removeNonEvictable frame)) pool
  | released {frame : FrameId} {pageTable : Table PageId FrameId}
      (found : pool.pageTable.find hash page = .ok (some frame))
      (unpinned : ∀ tracked, pool.replacer.lookup frame = some tracked → tracked.evictable = true)
      (removes : Table.Removes hash page pool.pageTable true pageTable) :
      Deletes hash page pool (.ok ())
        { clear { pool with replacer := (pool.replacer.release frame).state } pageTable frame with
          free := pool.free ++ [frame] }

namespace Seated

variable (seated : pool.Seated hash)

include seated

theorem find_cases (page : PageId) :
    pool.pageTable.find hash page = .ok none ∨
      ∃ frame, pool.pageTable.find hash page = .ok (some frame) := by
  obtain ⟨answer, answered⟩ := seated.structured.exists_find hash page
  cases answer with
  | none => exact .inl answered
  | some frame => exact .inr ⟨frame, answered⟩

theorem exists_removes (found : pool.pageTable.find hash page = .ok (some frame)) :
    ∃ pageTable, pool.pageTable.remove hash page = .ok (true, pageTable) ∧
      Table.Removes hash page pool.pageTable true pageTable := by
  obtain ⟨present, pageTable, removed, removes⟩ := seated.structured.exists_removes hash page
  obtain rfl := removes.present_eq found
  exact ⟨pageTable, removed, removes⟩

/-- The evicted frame has a page. -/
theorem exists_page_of_victim (victim : pool.replacer.victim? = some frame) :
    ∃ page, pool.pageTable.find hash page = .ok (some frame) := by
  rcases seated.follows with ⟨chronicle, follows⟩
  obtain ⟨tracked, present, _⟩ := follows.keeps.lookup_of_victim victim
  apply seated.tracked
  rw [present]
  exact Option.some_ne_none tracked

theorem exists_follows_forget (victim : pool.replacer.victim? = some frame) :
    ∃ chronicle, Replacer.Follows (pool.replacer.forget frame) chronicle := by
  rcases seated.follows with ⟨chronicle, follows⟩
  have evicted := follows.evict.2
  rw [Replacer.evict, victim] at evicted
  exact ⟨_, evicted⟩

theorem fetches_of_free {rest : List FrameId} (absent : pool.pageTable.find hash page = .ok none)
    (free : pool.free = frame :: rest) :
    Fetches hash page pool (pool.fetch hash page).answer (pool.fetch hash page).state ∨
      (pool.fetch hash page).answer = .error (.table .inseparable) := by
  have absentHere := find_eq_ok_iff.mpr absent
  have vacant : pool.pageIn frame = .ok noPage := seated.vacant frame (free ▸ List.mem_cons_self)
  have inFrames : Pool.pageIn { pool with free := rest } frame = .ok noPage := vacant
  have structured := seated.structured
  rcases structured.aligned.insert_cases structured.globalDepth_le hash page frame with
    ⟨pageTable, events, inserted, inserts⟩ | failed
  · have loaded := load_eq_ok inFrames (seated.inRange vacant) inserted
    rw [fetch_of_free absentHere free loaded]
    exact .inl (.loaded absent free inserts)
  · rw [fetch_of_free_of_fault absentHere free (load_of_fault inFrames failed)]
    exact .inr rfl

/-- The eviction of the frame of `noPage` is abandoned when the replacer has dropped it. -/
theorem fetch_of_vacant (absent : pool.pageTable.find hash page = .ok none) (free : pool.free = [])
    (victim : pool.replacer.victim? = some frame)
    (found : pool.pageTable.find hash noPage = .ok (some frame)) :
    pool.fetch hash page =
      ⟨.error (.vacant frame), { pool with replacer := pool.replacer.forget frame }, []⟩ := by
  apply fetch_of_evicted_of_fault (find_eq_ok_iff.mpr absent) free victim
  have inFrames : Pool.pageIn { pool with replacer := pool.replacer.forget frame } frame =
      .ok noPage := (seated.mapped noPage frame found).2
  rw [vacate_of_noPage inFrames]
  rfl

theorem fetches_of_victim (absent : pool.pageTable.find hash page = .ok none)
    (free : pool.free = []) (victim : pool.replacer.victim? = some frame) :
    Fetches hash page pool (pool.fetch hash page).answer (pool.fetch hash page).state ∨
      (pool.fetch hash page).answer = .error (.table .inseparable) := by
  have absentHere := find_eq_ok_iff.mpr absent
  let spared : Pool := { pool with replacer := pool.replacer.forget frame }
  obtain ⟨former, found⟩ := seated.exists_page_of_victim victim
  have inFrames : spared.pageIn frame = .ok former := (seated.mapped former frame found).2
  by_cases formerNe : former = noPage
  · subst formerNe
    rw [seated.fetch_of_vacant absent free victim found]
    exact .inl (.vacant absent free victim found)
  · obtain ⟨emptied, removed, removes⟩ := seated.exists_removes found
    have structured := removes.structured seated.structured
    have vacated := vacate_eq_ok inFrames formerNe removed
    have cleared : (spared.clear emptied frame).pageIn frame = .ok noPage := by
      rw [pageIn_setIfInBounds inFrames rfl, if_pos rfl]
    rcases structured.aligned.insert_cases structured.globalDepth_le hash page frame with
      ⟨pageTable, events, inserted, inserts⟩ | notInserted
    · have inRange := seated.inRange (seated.mapped former frame found).2
      rw [fetch_of_evicted absentHere free victim vacated (load_eq_ok cleared inRange inserted)]
      exact .inl (.reused absent free victim found formerNe removes inserts)
    · have failed : (spared.vacate hash frame >>= fun emptied => emptied.load hash page frame) =
          .error (.table .inseparable) := by
        rw [vacated]
        exact load_of_fault cleared notInserted
      rw [fetch_of_evicted_of_fault absentHere free victim failed]
      exact .inr rfl

theorem fetches (page : PageId) :
    Fetches hash page pool (pool.fetch hash page).answer (pool.fetch hash page).state ∨
      (pool.fetch hash page).answer = .error (.table .inseparable) := by
  rcases seated.find_cases page with absent | ⟨frame, found⟩
  case inr =>
    have inRange := seated.inRange (seated.mapped page frame found).2
    rw [fetch_of_found (find_eq_ok_iff.mpr found) (pin_eq_ok inRange)]
    exact .inl (.held found)
  case inl =>
    cases free : pool.free with
    | cons frame rest => exact seated.fetches_of_free absent free
    | nil =>
        cases victim : pool.replacer.victim? with
        | some frame => exact seated.fetches_of_victim absent free victim
        | none =>
            rw [fetch_of_pinned (find_eq_ok_iff.mpr absent) free victim]
            exact .inl (.full absent free victim)

theorem deletes (page : PageId) : ∃ result, (pool.delete hash page).answer = .ok result ∧
    Deletes hash page pool result (pool.delete hash page).state := by
  rcases seated.find_cases page with absent | ⟨frame, found⟩
  case inl =>
    rw [delete_of_absent (find_eq_ok_iff.mpr absent)]
    exact ⟨_, rfl, .absent absent⟩
  case inr =>
    have foundHere := find_eq_ok_iff.mpr found
    by_cases unpinned :
        ∀ tracked, pool.replacer.lookup frame = some tracked → tracked.evictable = true
    · obtain ⟨pageTable, removed, removes⟩ := seated.exists_removes found
      obtain ⟨answer, events, _⟩ := Replacer.release_of_unpinned unpinned
      have released : pool.replacer.release frame =
          ⟨.ok (), (pool.replacer.release frame).state, []⟩ := by rw [← answer, ← events]
      have inFrames : Pool.pageIn { pool with
          replacer := (pool.replacer.release frame).state } frame = .ok page :=
        (seated.mapped page frame found).2
      rw [delete_of_released foundHere released (discard_eq_ok inFrames removed)]
      exact ⟨_, rfl, .released found unpinned removes⟩
    · push Not at unpinned
      obtain ⟨tracked, present, pinned⟩ := unpinned
      rw [ne_eq, Bool.not_eq_true] at pinned
      rw [delete_of_refused foundHere (Replacer.release_of_pinned present pinned)]
      exact ⟨_, rfl, .refused found present pinned⟩

/-- The replacer may drop the frame that it has chosen, if that is the frame of `noPage`. -/
theorem forget (victim : pool.replacer.victim? = some frame)
    (found : pool.pageTable.find hash noPage = .ok (some frame)) :
    Seated hash { pool with replacer := pool.replacer.forget frame } := by
  apply seated.withReplacer
  case sameCapacity => rfl
  case follows => exact seated.exists_follows_forget victim
  case tracked =>
    intro target present
    rw [Replacer.lookup_forget] at present
    split at present
    · exact absurd rfl present
    · exact .inl present
  case known =>
    intro page target pageFound pageNe present
    rw [Replacer.lookup_forget, if_neg]
    · exact present
    · rintro rfl
      exact pageNe (seated.page_unique pageFound found)

theorem fetched {answer : Except Fault (Option FrameId)} {next : Pool}
    (fetches : Fetches hash page pool answer next) : next.Seated hash := by
  cases fetches with
  | held found => exact seated.pin found
  | loaded absent free inserts =>
      refine Seated.seat ?_ absent inserts
      simpa only [← free] using seated
  | @reused frame former emptied pageTable absent free victim found formerNe removes inserts =>
      -- The frame is emptied as by a deletion; then it is the only free one.
      have sameCapacity : (pool.replacer.forget frame).capacity = pool.replacer.capacity := rfl
      have cleared := seated.clear found removes sameCapacity
        (seated.exists_follows_forget victim) (Replacer.lookup_forget frame)
      refine Seated.seat ?_ ?_ inserts
      · simpa only [Pool.clear, free, List.nil_append] using cleared
      · have find := removes.find seated.structured page
        split at find
        · exact find
        · exact find.trans absent
  | vacant absent free victim found => exact seated.forget victim found
  | full => exact seated

theorem deleted {result : Except BufferError Unit} {next : Pool}
    (deletes : Deletes hash page pool result next) : next.Seated hash := by
  cases deletes with
  | absent => exact seated
  | refused => exact seated
  | released found unpinned removes =>
      rcases seated.follows with ⟨chronicle, follows⟩
      exact seated.clear found removes (Replacer.capacity_release _ _)
        ⟨_, (follows.release _).2⟩ (Replacer.release_of_unpinned unpinned).2.2

omit seated in
theorem size_resident_of_fetches {answer : Except Fault (Option FrameId)} {next : Pool}
    (fetches : Fetches hash page pool answer next) :
    next.resident.size = pool.resident.size := by
  cases fetches <;> simp [Pool.seat, Pool.clear]

omit seated in
theorem size_resident_of_deletes {result : Except BufferError Unit} {next : Pool}
    (deletes : Deletes hash page pool result next) :
    next.resident.size = pool.resident.size := by
  cases deletes <;> simp [Pool.clear]

/-- What a call that returns has done: fetched, unpinned, deleted, or nothing. -/
theorem perform_cases {call : Call}
    (returned : (Pool.perform hash call pool).answer ≠ .error (.table .inseparable)) :
    (∃ page answer, call = .fetch page ∧
        Fetches hash page pool answer (Pool.perform hash call pool).state) ∨
      (∃ page frame, call = .unpin page ∧ pool.pageTable.find hash page = .ok (some frame) ∧
        (Pool.perform hash call pool).state =
          { pool with replacer := pool.replacer.mark frame true }) ∨
      (∃ page result, call = .delete page ∧
        Deletes hash page pool result (Pool.perform hash call pool).state) ∨
      (∀ page, call ≠ .fetch page) ∧ (Pool.perform hash call pool).state = pool := by
  cases call with
  | fetch page =>
      rcases seated.fetches page with fetches | failed
      · exact .inl ⟨page, _, rfl, fetches⟩
      · rw [Pool.perform, failed] at returned
        exact absurd rfl returned
  | unpin page =>
      rcases seated.find_cases page with absent | ⟨frame, found⟩
      · refine .inr (.inr (.inr ⟨by simp, ?_⟩))
        rw [Pool.perform, unpin_of_absent (find_eq_ok_iff.mpr absent)]
      · refine .inr (.inl ⟨page, frame, rfl, found, ?_⟩)
        rw [Pool.perform, unpin_of_found (find_eq_ok_iff.mpr found)]
  | delete page =>
      obtain ⟨result, _, deletes⟩ := seated.deletes page
      exact .inr (.inr (.inl ⟨page, result, rfl, deletes⟩))
  | find page => exact .inr (.inr (.inr ⟨by simp, rfl⟩))

/-- Any call that returns, or that is abandoned at an assumption of the pool, leaves its parts
hanging together. -/
theorem perform (call : Call)
    (returned : (Pool.perform hash call pool).answer ≠ .error (.table .inseparable)) :
    (Pool.perform hash call pool).state.Seated hash ∧
      (Pool.perform hash call pool).state.resident.size = pool.resident.size := by
  rcases seated.perform_cases returned with
    ⟨_, _, _, fetches⟩ | ⟨_, frame, _, _, marked⟩ | ⟨_, _, _, deletes⟩ | ⟨_, same⟩
  · exact ⟨seated.fetched fetches, size_resident_of_fetches fetches⟩
  · rw [marked]
    exact ⟨seated.mark frame true, rfl⟩
  · exact ⟨seated.deleted deletes, size_resident_of_deletes deletes⟩
  · rw [same]
    exact ⟨seated, rfl⟩

theorem states (calls : List Call)
    (returned : ∀ outcome ∈ Run.outcomes (Pool.perform hash) pool calls,
      outcome.answer ≠ .error (.table .inseparable)) :
    ∀ reached ∈ Run.states (Pool.perform hash) pool calls,
      reached.Seated hash ∧ reached.resident.size = pool.resident.size := by
  refine Run.forall_states (Pool.perform hash) ?_ ⟨seated, rfl⟩ returned
  rintro call _ reached ⟨reachedSeated, sameSize⟩ callReturned
  obtain ⟨nextSeated, nextSize⟩ := reachedSeated.perform call callReturned
  exact ⟨nextSeated, nextSize.trans sameSize⟩

end Seated

end Operations

end PageBuffer.Pool
