import Mathlib.Data.List.Dedup
import PageBuffer.Proofs.Pool.Scan

/-!
A pool whose windows hold one access has the pages that were fetched last.

Each page is unpinned as soon as it has been fetched, so that its frame can be given up, and the
frame that is given up is that of the page fetched longest ago.
-/

namespace PageBuffer.Pool

section Recency

variable {α : Type} [DecidableEq α] {list : List α} {item : α} {count : Nat}

/-- The distinct items, last one first. -/
def recency (list : List α) : List α :=
  list.dedup.reverse

theorem nodup_recency (list : List α) : (recency list).Nodup :=
  List.nodup_reverse.mpr list.nodup_dedup

/-- One more item comes to the front, wherever it was before. -/
theorem recency_append_singleton (list : List α) (item : α) :
    recency (list ++ [item]) = item :: (recency list).erase item := by
  have dedup : (list ++ [item]).dedup = list.dedup.filter (· != item) ++ [item] := by
    induction list with
    | nil => rfl
    | cons head rest inductionHypothesis =>
        rw [List.cons_append]
        by_cases later : head ∈ rest
        · rw [List.dedup_cons_of_mem (List.mem_append_left _ later), List.dedup_cons_of_mem later,
            inductionHypothesis]
        · rw [List.dedup_cons_of_notMem later]
          by_cases same : head = item
          · rw [List.dedup_cons_of_mem (by simp [same]), inductionHypothesis,
              List.filter_cons_of_neg (by simp [same])]
          · rw [List.dedup_cons_of_notMem (by simp [same, later]), inductionHypothesis,
              List.filter_cons_of_pos (by simpa using same), List.cons_append]
  rw [(nodup_recency list).erase_eq_filter, recency, dedup, List.reverse_append,
    ← List.filter_reverse]
  rfl

/-- What is taken out of the first items makes room for no other. -/
theorem take_erase_of_mem (member : item ∈ list.take (count + 1)) :
    (list.erase item).take count = (list.take (count + 1)).erase item := by
  induction list generalizing count with
  | nil => simp
  | cons head rest inductionHypothesis =>
      rw [List.take_succ_cons] at member ⊢
      by_cases same : head = item
      · subst same
        rw [List.erase_cons_head, List.erase_cons_head]
      · have inTaken := (List.mem_cons.mp member).resolve_left (Ne.symm same)
        rw [List.erase_cons_tail (by simpa using same), List.erase_cons_tail (by simpa using same)]
        cases count with
        | zero => simp at inTaken
        | succ count => rw [List.take_succ_cons, inductionHypothesis inTaken]

theorem take_erase_of_not_mem (absent : item ∉ list.take count) :
    (list.erase item).take count = list.take count := by
  induction list generalizing count with
  | nil => rfl
  | cons head rest inductionHypothesis =>
      cases count with
      | zero => rfl
      | succ count =>
          rw [List.take_succ_cons, List.mem_cons, not_or] at absent
          have different : head ≠ item := Ne.symm absent.1
          rw [List.erase_cons_tail (by simpa using different), List.take_succ_cons,
            inductionHypothesis absent.2, List.take_succ_cons]

end Recency

variable {hash : HashFunction PageId} {pool next : Pool} {size : Nat} {recent rest : List PageId}
  {page : PageId} {frame : FrameId}

/-- The page is in a frame, and is found there. -/
def HasPage (hash : HashFunction PageId) (page : PageId) (pool : Pool) : Prop :=
  ∃ frame, pool.find hash page = .ok (some frame) ∧ pool.pageIn frame = .ok page

namespace Seated

variable (seated : pool.Seated hash)

include seated

/-- A fetch that answers a frame has accessed and pinned it.  The frame was not tracked before, or
the page was there already. -/
theorem exists_pin_of_fetches (fetches : Fetches hash page pool (.ok (some frame)) next) :
    ∃ replacer : Replacer, next.replacer = (replacer.touch frame).state.mark frame false ∧
      (0 ≤ frame ∧ frame < replacer.capacity) ∧ replacer.clock = pool.replacer.clock ∧
      replacer.k = pool.replacer.k ∧
      (replacer.lookup frame = none ∨ replacer = pool.replacer ∧
        pool.pageTable.find hash page = .ok (some frame)) := by
  cases fetches with
  | held found =>
      have inRange := seated.inRange (seated.mapped page frame found).2
      exact ⟨_, rfl, inRange, rfl, rfl, .inr ⟨rfl, found⟩⟩
  | loaded _ free =>
      have inFree : frame ∈ pool.free := free ▸ List.mem_cons_self
      have inRange := seated.inRange (seated.vacant frame inFree)
      exact ⟨_, rfl, inRange, rfl, rfl, .inl (seated.lookup_of_free inFree)⟩
  | @reused _ former _ _ _ _ _ formerFound =>
      have inRange := seated.inRange (seated.mapped former frame formerFound).2
      have dropped : (pool.replacer.forget frame).lookup frame = none :=
        (Replacer.lookup_forget frame frame).trans (if_pos rfl)
      exact ⟨_, rfl, inRange, rfl, rfl, .inl dropped⟩

theorem clock_of_fetches (fetches : Fetches hash page pool (.ok (some frame)) next) :
    next.replacer.clock = pool.replacer.clock + 1 := by
  obtain ⟨replacer, pinned, inRange, sameClock, _⟩ := seated.exists_pin_of_fetches fetches
  rw [pinned, Replacer.clock_mark, (Replacer.touch_of_inRange inRange).2.1, sameClock]

theorem k_of_fetches (fetches : Fetches hash page pool (.ok (some frame)) next) :
    next.replacer.k = pool.replacer.k := by
  obtain ⟨replacer, pinned, _, _, sameK, _⟩ := seated.exists_pin_of_fetches fetches
  rw [pinned, Replacer.k_mark, Replacer.k_touch, sameK]

theorem hasPage_iff (page : PageId) :
    HasPage hash page pool ↔ ∃ frame, pool.pageTable.find hash page = .ok (some frame) := by
  simp only [HasPage, find_eq_ok_iff]
  constructor
  · rintro ⟨frame, found, _⟩
    exact ⟨frame, found⟩
  · rintro ⟨frame, found⟩
    exact ⟨frame, found, (seated.mapped page frame found).2⟩

end Seated

/-- The pool has the most recent pages, as many as fit, and the replacer knows in which order they
were fetched. -/
structure Stacked (hash : HashFunction PageId) (size : Nat) (recent : List PageId)
    (pool : Pool) : Prop where
  seated : pool.Seated hash
  k_eq : pool.replacer.k = 1
  noPage_notMem : noPage ∉ recent
  nodup : recent.Nodup
  found_iff : ∀ page, (∃ frame, pool.pageTable.find hash page = .ok (some frame)) ↔
    page ∈ recent.take size
  filled : pool.free.length + (recent.take size).length = size
  stamped : ∃ time : PageId → Nat,
    (recent.take size).Pairwise (fun page older => time older < time page) ∧
      ∀ page frame, pool.pageTable.find hash page = .ok (some frame) →
        time page < pool.replacer.clock ∧
          pool.replacer.lookup frame = some { frame, window := [time page], evictable := true }

namespace Stacked

variable (stacked : Stacked hash size recent pool)

include stacked

theorem nodup_front (page : PageId) : (page :: recent.erase page).Nodup :=
  List.nodup_cons.mpr ⟨stacked.nodup.not_mem_erase, stacked.nodup.erase page⟩

theorem noPage_notMem_front (pageNe : page ≠ noPage) : noPage ∉ page :: recent.erase page := by
  rw [List.mem_cons, not_or]
  exact ⟨pageNe.symm, fun member => stacked.noPage_notMem (List.mem_of_mem_erase member)⟩

theorem notMem_of_absent (absent : pool.pageTable.find hash page = .ok none) :
    page ∉ recent.take size := by
  intro resident
  obtain ⟨frame, found⟩ := (stacked.found_iff page).mpr resident
  cases absent.symm.trans found

/-- A page that was in the pool before a fetch of another page, and is there afterwards, is known as
before. -/
theorem kept_of_fetches {other : PageId} {answer : Except Fault (Option FrameId)}
    (fetches : Fetches hash page pool answer next) (different : other ≠ page)
    (otherNe : other ≠ noPage) (found : next.pageTable.find hash other = .ok (some frame)) :
    pool.pageTable.find hash other = .ok (some frame) ∧ Kept hash other frame pool next := by
  rcases stacked.seated.find_cases other with absent | ⟨former, formerFound⟩
  · cases (stacked.seated.absent_of_fetches absent different fetches).symm.trans found
  · rcases stacked.seated.kept_of_fetches formerFound different fetches with ⟨kept, _⟩ | displaced
    · have sameFrame := kept.find_eq.symm.trans found
      simp only [Except.ok.injEq, Option.some.injEq] at sameFrame
      subst sameFrame
      exact ⟨formerFound, kept⟩
    · cases (displaced.gone.resolve_left otherNe).symm.trans found

/-- A page that is fetched is stamped with the time of the fetch, and with no other. -/
theorem lookup_of_fetches (fetches : Fetches hash page pool (.ok (some frame)) next) :
    next.replacer.lookup frame =
      some { frame, window := [pool.replacer.clock], evictable := false } := by
  obtain ⟨replacer, pinned, inRange, sameClock, _, untracked | ⟨rfl, found⟩⟩ :=
    stacked.seated.exists_pin_of_fetches fetches
  · rw [pinned, Replacer.lookup_pin_new inRange untracked, sameClock]
  · obtain ⟨time, _, known⟩ := stacked.stamped
    rw [pinned, Replacer.lookup_pin_known inRange (known page frame found).2, stacked.k_eq]
    rfl

/-- The page that was fetched gets the last time of all, and the others left keep theirs. -/
theorem stamped_of_fetches (fetches : Fetches hash page pool (.ok (some frame)) next)
    (left : rest.Sublist (recent.take size)) (notLeft : page ∉ rest)
    (found_iff : ∀ other ≠ page,
      (∃ frame, next.pageTable.find hash other = .ok (some frame)) ↔ other ∈ rest) :
    ∃ time : PageId → Nat, (page :: rest).Pairwise (fun page older => time older < time page) ∧
      ∀ other target, next.pageTable.find hash other = .ok (some target) →
        time other < next.replacer.clock ∧ (next.replacer.mark frame true).lookup target =
          some { frame := target, window := [time other], evictable := true } := by
  have nextSeated := stacked.seated.fetched fetches
  have pageFound := (stacked.seated.pinned_of_fetches fetches).found
  obtain ⟨time, ordered, known⟩ := stacked.stamped
  obtain ⟨later, laterPage, laterOther⟩ : ∃ later : PageId → Nat,
      later page = pool.replacer.clock ∧ ∀ other ≠ page, later other = time other :=
    ⟨fun other => if other = page then pool.replacer.clock else time other, if_pos rfl,
      fun _ different => if_neg different⟩
  have leftNe : ∀ {other}, other ∈ rest → other ≠ page :=
    fun member => ne_of_mem_of_not_mem member notLeft
  refine ⟨later, List.pairwise_cons.mpr ⟨?_, ?_⟩, ?_⟩
  · intro older member
    obtain ⟨olderFrame, olderFound⟩ := (stacked.found_iff older).mpr (left.subset member)
    rw [laterPage, laterOther older (leftNe member)]
    exact (known older olderFrame olderFound).1
  · refine (ordered.sublist left).imp_of_mem ?_
    intro newer older newerMember olderMember earlier
    rwa [laterOther newer (leftNe newerMember), laterOther older (leftNe olderMember)]
  · intro other target found
    rw [stacked.seated.clock_of_fetches fetches, Replacer.lookup_mark]
    by_cases same : other = page
    · subst same
      have sameFrame := pageFound.symm.trans found
      simp only [Except.ok.injEq, Option.some.injEq] at sameFrame
      rw [laterPage, ← sameFrame, if_pos rfl, stacked.lookup_of_fetches fetches]
      exact ⟨Nat.lt_succ_self _, rfl⟩
    · have otherLeft := (found_iff other same).mp ⟨target, found⟩
      have otherNe : other ≠ noPage := by
        rintro rfl
        exact stacked.noPage_notMem (List.mem_of_mem_take (left.subset otherLeft))
      obtain ⟨formerFound, kept⟩ := stacked.kept_of_fetches fetches same otherNe found
      have frameNe : target ≠ frame := by
        rintro rfl
        exact same (nextSeated.page_unique found pageFound)
      obtain ⟨past, lookup⟩ := known other target formerFound
      rw [laterOther other same, if_neg frameNe, kept.lookup_eq]
      exact ⟨Nat.lt_succ_of_lt past, lookup⟩

/-- Once the page that was fetched is unpinned, it comes before the others that are left. -/
theorem settled (pageNe : page ≠ noPage)
    (fetches : Fetches hash page pool (.ok (some frame)) next)
    (left : rest.Sublist (recent.take size))
    (first : (page :: recent.erase page).take size = page :: rest)
    (found_iff : ∀ other ≠ page,
      (∃ frame, next.pageTable.find hash other = .ok (some frame)) ↔ other ∈ rest)
    (filled : next.free.length + (rest.length + 1) = size) :
    Stacked hash size (page :: recent.erase page) (next.unpin hash page).state := by
  have seated := stacked.seated
  have pageFound := (seated.pinned_of_fetches fetches).found
  rw [unpin_of_found (find_eq_ok_iff.mpr pageFound)]
  have notLeft : page ∉ rest := by
    have taken := (stacked.nodup_front page).sublist (List.take_sublist size _)
    rw [first] at taken
    exact (List.nodup_cons.mp taken).1
  constructor
  case seated => exact (seated.fetched fetches).mark frame true
  case k_eq => rw [Replacer.k_mark, seated.k_of_fetches fetches, stacked.k_eq]
  case noPage_notMem => exact stacked.noPage_notMem_front pageNe
  case nodup => exact stacked.nodup_front page
  case found_iff =>
    intro other
    rw [first, List.mem_cons]
    by_cases same : other = page
    · exact iff_of_true ⟨frame, same ▸ pageFound⟩ (.inl same)
    · rw [found_iff other same, or_iff_right same]
  case filled => rw [first, List.length_cons, filled]
  case stamped =>
    rw [first, Replacer.clock_mark]
    exact stacked.stamped_of_fetches fetches left notLeft found_iff

/-- The frame that is given up is that of the page fetched longest ago. -/
theorem take_eq_of_victim {room : Nat} (full : size ≤ recent.length) (fits : size = room + 1)
    (victim : pool.replacer.victim? = some frame) {former : PageId}
    (formerFound : pool.pageTable.find hash former = .ok (some frame)) :
    recent.take size = recent.take room ++ [former] := by
  subst fits
  obtain ⟨time, ordered, known⟩ := stacked.stamped
  obtain ⟨chronicle, follows⟩ := stacked.seated.follows
  have split := List.take_succ_eq_append_getElem full
  have resident := (stacked.found_iff former).mp ⟨frame, formerFound⟩
  rw [split] at ordered resident ⊢
  rcases List.mem_append.mp resident with before | last
  · have lastTaken : recent[room] ∈ recent.take (room + 1) :=
      split ▸ List.mem_append_right _ List.mem_cons_self
    obtain ⟨lastFrame, lastFound⟩ := (stacked.found_iff recent[room]).mpr lastTaken
    have earlier := (List.pairwise_append.mp ordered).2.2 former before recent[room] (by simp)
    have notEarlier := follows.keeps.front_le_of_victim victim (known _ _ formerFound).2
      (known _ _ lastFound).2 rfl rfl rfl rfl
    exact absurd earlier (Nat.not_lt.mpr notEarlier)
  · rw [List.mem_singleton.mp last]

/-- A page that was there already comes to the front. -/
theorem held (pageNe : page ≠ noPage)
    (found : pool.pageTable.find hash page = .ok (some frame)) :
    Stacked hash size (page :: recent.erase page) (unpin { pool with
      replacer := (pool.replacer.touch frame).state.mark frame false } hash page).state := by
  have resident := (stacked.found_iff page).mp ⟨frame, found⟩
  have distinct := stacked.nodup.sublist (List.take_sublist size recent)
  apply stacked.settled pageNe (.held found) (List.erase_sublist (a := page))
  case first =>
    cases size with
    | zero => simp at resident
    | succ room => rw [List.take_succ_cons, take_erase_of_mem resident]
  case found_iff =>
    intro other different
    rw [stacked.found_iff, distinct.mem_erase_iff, and_iff_right different]
  case filled =>
    have shorter := List.length_erase_of_mem resident
    have positive := List.length_pos_of_mem resident
    have sameCount : ((recent.take size).erase page).length + 1 = (recent.take size).length := by
      omega
    rw [sameCount, stacked.filled]

/-- As long as there are free frames no page has to go. -/
theorem loaded (pageNe : page ≠ noPage) {free : List FrameId} {pageTable : Table PageId FrameId}
    (absent : pool.pageTable.find hash page = .ok none) (freeEq : pool.free = frame :: free)
    (inserts : Table.Inserts hash page frame pool.pageTable pageTable) :
    Stacked hash size (page :: recent.erase page)
      ((seat { pool with free } pageTable page frame).unpin hash page).state := by
  have filled := stacked.filled
  rw [freeEq, List.length_cons, List.length_take] at filled
  -- A frame is free, so that all the pages there have been are in the pool.
  have all : recent.take size = recent := List.take_of_length_le (by omega)
  have new : page ∉ recent := all ▸ stacked.notMem_of_absent absent
  have left : recent.Sublist (recent.take size) := by rw [all]
  apply stacked.settled pageNe (.loaded absent freeEq inserts) left
  case first =>
    rw [List.erase_of_not_mem new]
    apply List.take_of_length_le
    rw [List.length_cons]
    omega
  case found_iff =>
    intro other different
    have find := (inserts.find stacked.seated.structured other).trans (if_neg different)
    have found_iff := stacked.found_iff other
    rw [all, ← find] at found_iff
    exact found_iff
  case filled =>
    have nextFree : (seat { pool with free } pageTable page frame).free = free := rfl
    rw [nextFree]
    omega

/-- After that the page fetched longest ago makes room. -/
theorem reused (pageNe : page ≠ noPage) {former : PageId}
    {emptied pageTable : Table PageId FrameId} (absent : pool.pageTable.find hash page = .ok none)
    (free : pool.free = []) (victim : pool.replacer.victim? = some frame)
    (found : pool.pageTable.find hash former = .ok (some frame)) (formerNe : former ≠ noPage)
    (removes : Table.Removes hash former pool.pageTable true emptied)
    (inserts : Table.Inserts hash page frame emptied pageTable) :
    Stacked hash size (page :: recent.erase page)
      (unpin (seat (clear { pool with replacer := pool.replacer.forget frame } emptied frame)
        pageTable page frame) hash page).state := by
  have structured := stacked.seated.structured
  have resident := (stacked.found_iff former).mp ⟨frame, found⟩
  have filled := stacked.filled
  rw [free, List.length_nil, Nat.zero_add, List.length_take] at filled
  obtain ⟨room, rfl⟩ : ∃ room, size = room + 1 := by
    cases size with
    | zero => simp at resident
    | succ room => exact ⟨room, rfl⟩
  have split := stacked.take_eq_of_victim (by omega) rfl victim found
  have new : page ∉ recent.take room :=
    fun member => stacked.notMem_of_absent absent (split ▸ List.mem_append_left _ member)
  have distinct := stacked.nodup.sublist (List.take_sublist (room + 1) recent)
  rw [split, List.nodup_append] at distinct
  have left : (recent.take room).Sublist (recent.take (room + 1)) :=
    split ▸ List.sublist_append_left _ _
  apply stacked.settled pageNe
    (.reused absent free victim found formerNe removes inserts) left
  case first => rw [List.take_succ_cons, take_erase_of_not_mem new]
  case found_iff =>
    intro other different
    have find := (inserts.find (removes.structured structured) other).trans (if_neg different)
    rw [removes.find structured] at find
    have nextTable : (seat (clear { pool with replacer := pool.replacer.forget frame } emptied
      frame) pageTable page frame).pageTable = pageTable := rfl
    rw [nextTable, find]
    by_cases gone : other = former
    · subst gone
      have notLeft : other ∉ recent.take room :=
        fun member => distinct.2.2 other member other (by simp) rfl
      simpa using notLeft
    · rw [if_neg gone, stacked.found_iff, split, List.mem_append, List.mem_singleton,
        or_iff_left gone]
  case filled =>
    have nextFree : (seat (clear { pool with replacer := pool.replacer.forget frame } emptied
      frame) pageTable page frame).free = pool.free := rfl
    rw [nextFree, free, List.length_nil, List.length_take]
    omega

/-- There is always a frame to give up, unless there are no frames at all. -/
theorem size_eq_zero (free : pool.free = []) (noVictim : pool.replacer.victim? = none) :
    size = 0 := by
  obtain ⟨chronicle, follows⟩ := stacked.seated.follows
  obtain ⟨time, _, known⟩ := stacked.stamped
  have filled := stacked.filled
  cases taken : recent.take size with
  | nil =>
      rw [free, taken] at filled
      exact filled.symm
  | cons page rest =>
      obtain ⟨frame, found⟩ := (stacked.found_iff page).mpr (taken ▸ List.mem_cons_self)
      have positive := follows.keeps.evictableCount_pos (known page frame found).2 rfl
      rw [follows.keeps.victim?_eq_none_iff.mp noVictim] at positive
      cases positive

/-- Fetching and unpinning a page makes it the most recent one. -/
theorem scanned (pageNe : page ≠ noPage)
    (returned : (perform hash (.fetch page) pool).answer ≠ .error (.table .inseparable)) :
    Stacked hash size (page :: recent.erase page)
      (Run.finalState (perform hash) pool (scanCalls [page])) := by
  have fetches : Fetches hash page pool (pool.fetch hash page).answer
      (pool.fetch hash page).state := by
    refine (stacked.seated.fetches page).resolve_right fun failed => ?_
    rw [perform, failed] at returned
    exact returned rfl
  have final : Run.finalState (perform hash) pool (scanCalls [page]) =
      ((pool.fetch hash page).state.unpin hash page).state := rfl
  rw [final]
  generalize (pool.fetch hash page).answer = answer at fetches
  generalize (pool.fetch hash page).state = next at fetches ⊢
  cases fetches with
  | held found => exact stacked.held pageNe found
  | loaded absent free inserts => exact stacked.loaded pageNe absent free inserts
  | reused absent free victim found formerNe removes inserts =>
      exact stacked.reused pageNe absent free victim found formerNe removes inserts
  | vacant _ _ _ found =>
      have resident := (stacked.found_iff noPage).mp ⟨_, found⟩
      exact absurd (List.mem_of_mem_take resident) stacked.noPage_notMem
  | full absent free noVictim =>
      obtain rfl := stacked.size_eq_zero free noVictim
      rw [unpin_of_absent (find_eq_ok_iff.mpr absent)]
      exact { stacked with
        noPage_notMem := stacked.noPage_notMem_front pageNe
        nodup := stacked.nodup_front page }

end Stacked

section Runs

variable {bucketSize : Nat} {fresh : Pool} {pages : List PageId}

theorem length_free_of_assemble {k : Nat} (assembled : assemble bucketSize size k = .ok fresh) :
    fresh.free.length = size := by
  obtain ⟨pageTable, replacer, -, -, rfl⟩ := exists_parts_of_assemble assembled
  simp [around]

theorem stacked_assemble (assembled : assemble bucketSize size 1 = .ok fresh)
    (hash : HashFunction PageId) : Stacked hash size [] fresh := by
  have absent := find_of_assemble assembled hash
  have notFound : ∀ page frame, fresh.pageTable.find hash page ≠ .ok (some frame) := by
    intro page frame found
    cases (absent page).symm.trans found
  constructor
  case seated => exact seated_assemble assembled hash
  case k_eq => exact k_of_assemble assembled
  case noPage_notMem => exact List.not_mem_nil
  case nodup => exact .nil
  case found_iff => simp [absent]
  case filled => simp [length_free_of_assemble assembled]
  case stamped => exact ⟨fun _ => 0, by simp, fun page frame found => absurd found (notFound _ _)⟩

theorem scanCalls_append (before after : List PageId) :
    scanCalls (before ++ after) = scanCalls before ++ scanCalls after :=
  List.flatMap_append

/-- Pages that are fetched and unpinned one after the other are in the pool as long as they are
among the most recent ones. -/
theorem stacked_of_scan (assembled : assemble bucketSize size 1 = .ok fresh)
    (hash : HashFunction PageId) (pagesNe : ∀ page ∈ pages, page ≠ noPage)
    (returns : Returns hash fresh (scanCalls pages)) :
    Stacked hash size (recency pages) (Run.finalState (perform hash) fresh (scanCalls pages)) := by
  induction pages using List.reverseRecOn with
  | nil => exact stacked_assemble assembled hash
  | append_singleton earlier page inductionHypothesis =>
      rw [scanCalls_append] at returns ⊢
      rcases returns_append.mp returns with ⟨returnsEarlier, returnsLast⟩
      rcases List.forall_mem_append.mp pagesNe with ⟨earlierNe, lastNe⟩
      rw [Run.finalState_append, recency_append_singleton]
      exact (inductionHypothesis earlierNe returnsEarlier).scanned
        (lastNe page List.mem_cons_self) (returns_cons.mp returnsLast).1

theorem hasPage_iff_of_scan (assembled : assemble bucketSize size 1 = .ok fresh)
    (hash : HashFunction PageId) (pagesNe : ∀ page ∈ pages, page ≠ noPage)
    (returns : Returns hash fresh (scanCalls pages)) (page : PageId) :
    HasPage hash page (Run.finalState (perform hash) fresh (scanCalls pages)) ↔
      page ∈ (recency pages).take size := by
  have stacked := stacked_of_scan assembled hash pagesNe returns
  rw [stacked.seated.hasPage_iff, stacked.found_iff]

end Runs

/-- Where windows hold one access, and each page is unpinned as soon as it has been fetched, a pool
has the most recent distinct pages, as many as it has frames.  So a larger pool has all the pages
that a smaller one has after the same sequence, and whatever the smaller one finds in it as the
sequence goes on. -/
theorem resident_iff_recent {bucketSize otherBucketSize size otherSize : Nat}
    {small large : Pool} (assembledSmall : assemble bucketSize size 1 = .ok small)
    (assembledLarge : assemble otherBucketSize otherSize 1 = .ok large) (fits : size ≤ otherSize)
    (hash otherHash : HashFunction PageId) {pages : List PageId}
    (pagesNe : ∀ page ∈ pages, page ≠ noPage) (returnsSmall : Returns hash small (scanCalls pages))
    (returnsLarge : Returns otherHash large (scanCalls pages)) :
    let smaller (pages : List PageId) : Pool :=
      Run.finalState (perform hash) small (scanCalls pages)
    let larger (pages : List PageId) : Pool :=
      Run.finalState (perform otherHash) large (scanCalls pages)
    (∀ page, HasPage hash page (smaller pages) ↔ page ∈ (recency pages).take size) ∧
      (∀ page, HasPage hash page (smaller pages) → HasPage otherHash page (larger pages)) ∧
      ∀ before page after, pages = before ++ page :: after →
        HasPage hash page (smaller before) → HasPage otherHash page (larger before) := by
  intro smaller larger
  have nested : ∀ before after, pages = before ++ after →
      ∀ page, HasPage hash page (smaller before) → HasPage otherHash page (larger before) := by
    rintro before after rfl page found
    rw [scanCalls_append] at returnsSmall returnsLarge
    have beforeNe := (List.forall_mem_append.mp pagesNe).1
    have recent := (hasPage_iff_of_scan assembledSmall hash beforeNe
      (returns_append.mp returnsSmall).1 page).mp found
    exact (hasPage_iff_of_scan assembledLarge otherHash beforeNe
      (returns_append.mp returnsLarge).1 page).mpr
        ((List.take_sublist_take_left fits).subset recent)
  refine ⟨hasPage_iff_of_scan assembledSmall hash pagesNe returnsSmall, ?_, ?_⟩
  · exact nested pages [] (List.append_nil pages).symm
  · exact fun before page after split => nested before (page :: after) split page

/-- Page `5` is found by its second fetch in either pool.  In the end it is the page that only the
larger pool still has; page `3` is in neither of them. -/
theorem resident_iff_recent_two_three :
    let small : Pool :=
      { pageTable := { bucketSize := 1 }, replacer := { capacity := 2, k := 1 }, free := [0, 1],
        resident := #[noPage, noPage] }
    let large : Pool :=
      { pageTable := { bucketSize := 2 }, replacer := { capacity := 3, k := 1 },
        free := [0, 1, 2], resident := #[noPage, noPage, noPage] }
    let hash : HashFunction PageId := fun page => UInt64.ofNat page.toNat
    let pages : List PageId := [3, 5, 7, 5, 9, 7]
    let smaller (pages : List PageId) : Pool :=
      Run.finalState (perform hash) small (scanCalls pages)
    let larger (pages : List PageId) : Pool :=
      Run.finalState (perform hash) large (scanCalls pages)
    assemble 1 2 1 = .ok small ∧ assemble 2 3 1 = .ok large ∧ recency pages = [7, 9, 5, 3] ∧
      (∀ page ∈ pages, page ≠ noPage) ∧
      Returns hash small (scanCalls pages) ∧ Returns hash large (scanCalls pages) ∧
      (smaller [3, 5, 7]).find hash 5 = .ok (some 1) ∧
      (larger [3, 5, 7]).find hash 5 = .ok (some 1) ∧
      (smaller pages).find hash 5 = .ok none ∧ (larger pages).find hash 5 = .ok (some 1) ∧
      (∀ page, HasPage hash page (smaller pages) ↔ page ∈ [7, 9]) ∧
      (∀ page, HasPage hash page (smaller pages) → HasPage hash page (larger pages)) ∧
      ∀ before page after, pages = before ++ page :: after →
        HasPage hash page (smaller before) → HasPage hash page (larger before) := by
  intro small large hash pages smaller larger
  have assembledSmall : assemble 1 2 1 = .ok small := rfl
  have assembledLarge : assemble 2 3 1 = .ok large := rfl
  have pagesNe : ∀ page ∈ pages, page ≠ noPage := by decide
  have returnsSmall : Returns hash small (scanCalls pages) := by decide +kernel
  have returnsLarge : Returns hash large (scanCalls pages) := by decide +kernel
  refine ⟨assembledSmall, assembledLarge, by decide, pagesNe, returnsSmall, returnsLarge,
    by decide +kernel, by decide +kernel, by decide +kernel, by decide +kernel, ?_⟩
  exact resident_iff_recent assembledSmall assembledLarge (by decide) hash hash pagesNe returnsSmall
    returnsLarge

end PageBuffer.Pool
