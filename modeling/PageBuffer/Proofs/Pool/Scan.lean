import PageBuffer.Proofs.Pool.Frequency

/-!
A page in frequent use outlives a scan.

A frame whose window is full is not given up while an evictable frame has a partial window.  Each
page of a scan is fetched once, so that its own frame is such a frame as soon as it is unpinned.
-/

namespace PageBuffer.Pool

variable {hash : HashFunction PageId} {pool : Pool} {page scanned : PageId} {frame : FrameId}

/-- Each page is fetched and then unpinned. -/
def scanCalls (pages : List PageId) : List Call :=
  pages.flatMap fun page => [.fetch page, .unpin page]

/-- The page's frame has a full window, and there is another frame to take before it. -/
structure Sheltered (hash : HashFunction PageId) (page : PageId) (frame : FrameId)
    (pool : Pool) : Prop where
  seated : pool.Seated hash
  several : 2 ≤ pool.replacer.k
  noPage_absent : pool.pageTable.find hash noPage = .ok none
  found : pool.pageTable.find hash page = .ok (some frame)
  full : ∃ tracked, pool.replacer.lookup frame = some tracked ∧
    tracked.isFull pool.replacer.k = true
  spare : pool.free ≠ [] ∨ ∃ other tracked, pool.replacer.lookup other = some tracked ∧
    tracked.evictable = true ∧ tracked.isFull pool.replacer.k = false

theorem Seated.holds (seated : pool.Seated hash)
    (found : pool.pageTable.find hash page = .ok (some frame)) :
    pool.find hash page = .ok (some frame) ∧ pool.pageIn frame = .ok page :=
  ⟨find_eq_ok_iff.mpr found, (seated.mapped page frame found).2⟩

theorem scanCalls_cons (pages : List PageId) :
    scanCalls (scanned :: pages) = .fetch scanned :: .unpin scanned :: scanCalls pages := rfl

namespace Sheltered

variable (sheltered : Sheltered hash page frame pool)

include sheltered

theorem exists_victim (free : pool.free = []) :
    ∃ other ≠ frame, pool.replacer.victim? = some other := by
  rcases sheltered.seated.follows with ⟨chronicle, follows⟩
  obtain ⟨other, tracked, present, evictable, short⟩ :=
    sheltered.spare.resolve_left (not_not.mpr free)
  obtain ⟨best, victim, known, bestShort⟩ :=
    follows.keeps.exists_victim_of_partial present evictable short
  refine ⟨best.frame, ?_, victim⟩
  rintro rfl
  obtain ⟨tracked, present, full⟩ := sheltered.full
  rw [known, Option.some.injEq] at present
  rw [← present, bestShort] at full
  cases full

/-- A page that is not there gets a frame. -/
theorem exists_fetches (absent : pool.pageTable.find hash scanned = .ok none)
    (returned : (pool.fetch hash scanned).answer ≠ .error (.table .inseparable)) :
    ∃ target, (pool.fetch hash scanned).answer = .ok (some target) ∧
      Fetches hash scanned pool (.ok (some target)) (pool.fetch hash scanned).state := by
  have fetches := (sheltered.seated.fetches scanned).resolve_right returned
  generalize (pool.fetch hash scanned).answer = answer at fetches ⊢
  generalize (pool.fetch hash scanned).state = next at fetches ⊢
  cases fetches with
  | held found => cases absent.symm.trans found
  | loaded _ free inserts => exact ⟨_, rfl, .loaded absent free inserts⟩
  | reused _ free victim found formerNe removes inserts =>
      exact ⟨_, rfl, .reused absent free victim found formerNe removes inserts⟩
  | vacant _ _ _ found => cases sheltered.noPage_absent.symm.trans found
  | full _ free noVictim =>
      obtain ⟨other, _, victim⟩ := sheltered.exists_victim free
      cases noVictim.symm.trans victim

theorem kept_of_fetches {target : FrameId} {next : Pool}
    (absent : pool.pageTable.find hash scanned = .ok none)
    (fetches : Fetches hash scanned pool (.ok (some target)) next) :
    Kept hash page frame pool next := by
  have different : page ≠ scanned := by
    rintro rfl
    cases absent.symm.trans sheltered.found
  rcases sheltered.seated.kept_of_fetches sheltered.found different fetches with
    ⟨kept, _⟩ | displaced
  · exact kept
  · obtain ⟨other, otherNe, victim⟩ := sheltered.exists_victim displaced.free_eq
    rw [displaced.victim, Option.some.injEq] at victim
    exact absurd victim.symm otherNe

/-- Once the page of the scan is unpinned, its frame is the next one to take. -/
theorem unpinned {target : FrameId} {next : Pool} (scannedNe : scanned ≠ noPage)
    (absent : pool.pageTable.find hash scanned = .ok none)
    (fetches : Fetches hash scanned pool (.ok (some target)) next)
    (sameK : next.replacer.k = pool.replacer.k) :
    Sheltered hash page frame { next with replacer := next.replacer.mark target true } := by
  have seated := sheltered.seated
  have nextSeated := seated.fetched fetches
  have kept := sheltered.kept_of_fetches absent fetches
  have several := sheltered.several
  have frameNe : frame ≠ target := by
    rintro rfl
    have scannedFound := (seated.pinned_of_fetches fetches).found
    obtain rfl := nextSeated.page_unique kept.find_eq scannedFound
    cases absent.symm.trans sheltered.found
  constructor
  case seated => exact nextSeated.mark target true
  case several => simpa [sameK] using several
  case noPage_absent =>
    have stillAbsent : next.pageTable.find hash noPage = .ok none :=
      seated.absent_of_fetches sheltered.noPage_absent scannedNe.symm fetches
    exact stillAbsent
  case found => exact kept.find_eq
  case full =>
    obtain ⟨tracked, present, full⟩ := sheltered.full
    refine ⟨tracked, ?_, by simpa [sameK] using full⟩
    rw [Replacer.lookup_mark, if_neg frameNe, kept.lookup_eq, present]
  case spare =>
    obtain ⟨time, loaded⟩ := seated.lookup_of_loaded absent fetches
    refine .inr ⟨target, { frame := target, window := [time], evictable := true }, ?_, rfl, ?_⟩
    · rw [Replacer.lookup_mark, if_pos rfl, loaded]
      rfl
    · simp only [Tracked.isFull, Replacer.k_mark, sameK, List.length_singleton,
        decide_eq_false_iff_not]
      omega

/-- A page of the scan gets a frame, and leaves the page in shelter. -/
theorem step (scannedNe : scanned ≠ noPage) (absent : pool.pageTable.find hash scanned = .ok none)
    (returned : (perform hash (.fetch scanned) pool).answer ≠ .error (.table .inseparable)) :
    ∃ target, let fetched := perform hash (.fetch scanned) pool
      let unpinned := perform hash (.unpin scanned) fetched.state
      fetched.answer = .ok (.frame (some target)) ∧ unpinned.answer = .ok .done ∧
        (fetched.state.find hash page = .ok (some frame) ∧
          fetched.state.pageIn frame = .ok page) ∧
        Sheltered hash page frame unpinned.state := by
  have sameK := sheltered.seated.k_of_perform returned
  have returnedHere : (pool.fetch hash scanned).answer ≠ .error (.table .inseparable) := by
    intro failed
    rw [perform, failed] at returned
    exact returned rfl
  obtain ⟨target, answered, fetches⟩ := sheltered.exists_fetches absent returnedHere
  have scannedFound := (sheltered.seated.pinned_of_fetches fetches).found
  refine ⟨target, ?_⟩
  simp only [perform, answered, unpin_of_found (find_eq_ok_iff.mpr scannedFound)]
  refine ⟨rfl, rfl, ?_, ?_⟩
  · have kept := sheltered.kept_of_fetches absent fetches
    exact (sheltered.seated.fetched fetches).holds kept.find_eq
  · exact sheltered.unpinned scannedNe absent fetches sameK

theorem scan {pages : List PageId} (distinct : pages.Nodup)
    (pagesNe : ∀ scanned ∈ pages, scanned ≠ noPage)
    (absent : ∀ scanned ∈ pages, pool.pageTable.find hash scanned = .ok none)
    (returns : Returns hash pool (scanCalls pages)) :
    (∃ frames : List FrameId, frames.length = pages.length ∧
      Run.answers (perform hash) pool (scanCalls pages) =
        frames.flatMap fun target => [.ok (.frame (some target)), .ok .done]) ∧
      ∀ reached ∈ Run.states (perform hash) pool (scanCalls pages),
        reached.find hash page = .ok (some frame) ∧ reached.pageIn frame = .ok page := by
  induction pages generalizing pool with
  | nil =>
      refine ⟨⟨[], rfl, rfl⟩, ?_⟩
      intro reached member
      rw [List.mem_singleton.mp member]
      exact sheltered.seated.holds sheltered.found
  | cons scanned rest inductionHypothesis =>
      rcases List.nodup_cons.mp distinct with ⟨notLater, laterDistinct⟩
      rcases List.forall_mem_cons.mp pagesNe with ⟨scannedNe, laterNe⟩
      rcases List.forall_mem_cons.mp absent with ⟨scannedAbsent, laterAbsent⟩
      rw [scanCalls_cons] at returns ⊢
      rcases returns_cons.mp returns with ⟨returned, unpinReturns⟩
      rcases returns_cons.mp unpinReturns with ⟨unpinReturned, laterReturns⟩
      obtain ⟨target, answered, unpinAnswered, heldBetween, later⟩ :=
        sheltered.step scannedNe scannedAbsent returned
      have seated := sheltered.seated
      have fetchedSeated := (seated.perform _ returned).1
      have stillAbsent : ∀ other ∈ rest, (Run.finalState (perform hash) pool
          [.fetch scanned, .unpin scanned]).pageTable.find hash other = .ok none := by
        intro other member
        have notFetched : Call.fetch scanned ≠ .fetch other := by
          rintro ⟨⟩
          exact notLater member
        have fetchedAbsent :=
          seated.absent_of_perform (laterAbsent other member) notFetched returned
        exact fetchedSeated.absent_of_perform fetchedAbsent (by simp) unpinReturned
      obtain ⟨⟨frames, sameLength, answers⟩, held⟩ :=
        inductionHypothesis later laterDistinct laterNe stillAbsent laterReturns
      constructor
      · refine ⟨target :: frames, by simp [sameLength], ?_⟩
        simp [answered, unpinAnswered, answers]
      · intro reached member
        rcases List.mem_cons.mp member with rfl | inRest
        · exact sheltered.seated.holds sheltered.found
        · rcases List.mem_cons.mp inRest with rfl | inLater
          · exact heldBetween
          · exact held reached inLater

end Sheltered

/-- A page that has been fetched `k` times since it was loaded stays in its frame through a scan of
any length, and every page of the scan gets a frame, if at the start a frame is free or holds an
unpinned page that has been fetched fewer times. -/
theorem resident_through_scan {bucketSize size k : Nat} {fresh pool : Pool}
    (assembled : assemble bucketSize size k = .ok fresh) (several : 2 ≤ k)
    (hash : HashFunction PageId) (before : List Call) (pages : ∀ call ∈ before, call.page ≠ noPage)
    (reached : pool = Run.finalState (perform hash) fresh before)
    {page : PageId} {frame other : FrameId} (found : pool.find hash page = .ok (some frame))
    (often : k ≤ fetchesSinceLoad hash page fresh before)
    (spare : other ∈ pool.free ∨ ∃ idle tracked, pool.find hash idle = .ok (some other) ∧
      fetchesSinceLoad hash idle fresh before < k ∧
      pool.replacer.lookup other = some tracked ∧ tracked.evictable = true)
    {scan : List PageId} (distinct : scan.Nodup)
    (scanPages : ∀ scanned ∈ scan, scanned ≠ noPage ∧ pool.find hash scanned = .ok none)
    (returns : Returns hash fresh (before ++ scanCalls scan)) :
    (∃ frames : List FrameId, frames.length = scan.length ∧
      Run.answers (perform hash) pool (scanCalls scan) =
        frames.flatMap fun target => [.ok (.frame (some target)), .ok .done]) ∧
      ∀ moment ∈ Run.states (perform hash) pool (scanCalls scan),
        moment.find hash page = .ok (some frame) ∧ moment.pageIn frame = .ok page := by
  rcases returns_append.mp returns with ⟨returnsBefore, returnsScan⟩
  have freshSeated := seated_assemble assembled hash
  have notFetched : .fetch noPage ∉ before := fun member => pages _ member rfl
  have seated := freshSeated.finalState returnsBefore
  have sameK := (freshSeated.k_of_finalState returnsBefore).trans (k_of_assemble assembled)
  have noPageAbsent := freshSeated.absent_of_finalState (find_of_assemble assembled hash noPage)
    notFetched returnsBefore
  have isFull := @isFull_after_run _ _ _ _ assembled hash before returnsBefore
  rw [← reached] at seated sameK noPageAbsent returnsScan isFull
  rw [find_eq_ok_iff] at found
  have pageNe : ∀ {sought target}, pool.pageTable.find hash sought = .ok (some target) →
      sought ≠ noPage := by
    rintro sought target soughtFound rfl
    cases noPageAbsent.symm.trans soughtFound
  have sheltered : Sheltered hash page frame pool := by
    constructor
    case seated => exact seated
    case several => rwa [sameK]
    case noPage_absent => exact noPageAbsent
    case found => exact found
    case full =>
      obtain ⟨tracked, present, full⟩ := isFull (pageNe found) found
      exact ⟨tracked, present, full.trans (decide_eq_true (sameK ▸ often))⟩
    case spare =>
      rcases spare with free | ⟨idle, tracked, idleFound, seldom, present, evictable⟩
      · exact .inl (List.ne_nil_of_mem free)
      · rw [find_eq_ok_iff] at idleFound
        obtain ⟨known, knownPresent, full⟩ := isFull (pageNe idleFound) idleFound
        rw [present, Option.some.injEq] at knownPresent
        refine .inr ⟨other, tracked, present, evictable, ?_⟩
        rw [knownPresent, full, sameK]
        exact decide_eq_false (Nat.not_le.mpr seldom)
  apply sheltered.scan distinct
  case pagesNe => exact fun scanned member => (scanPages scanned member).1
  case absent => exact fun scanned member => find_eq_ok_iff.mp (scanPages scanned member).2
  case returns => exact returnsScan

/-- Page `7` has been fetched twice.  Page `3` was fetched twice as well, but it has been deleted
and loaded again since, and the scan goes through its frame. -/
theorem resident_through_scan_of_four :
    let fresh : Pool :=
      { pageTable := { bucketSize := 1 }, replacer := { capacity := 2, k := 2 }, free := [0, 1],
        resident := #[noPage, noPage] }
    let hash : HashFunction PageId := fun page => UInt64.ofNat page.toNat
    let before : List Call :=
      [.fetch 3, .fetch 3, .unpin 3, .delete 3, .fetch 7, .fetch 7, .unpin 7, .fetch 3, .unpin 3]
    let scan : List PageId := [5, 0, 9, 2]
    let pool := Run.finalState (perform hash) fresh before
    assemble 1 2 2 = .ok fresh ∧ pool.find hash 7 = .ok (some 1) ∧
      fetchesSinceLoad hash 7 fresh before = 2 ∧ pool.free = [] ∧
      pool.find hash 3 = .ok (some 0) ∧ fetchesSinceLoad hash 3 fresh before = 1 ∧
      pool.replacer.lookup 0 = some { frame := 0, window := [4], evictable := true } ∧
      (∀ scanned ∈ scan, scanned ≠ noPage ∧ pool.find hash scanned = .ok none) ∧
      Returns hash fresh (before ++ scanCalls scan) ∧
      (∃ frames : List FrameId, frames.length = scan.length ∧
        Run.answers (perform hash) pool (scanCalls scan) =
          frames.flatMap fun target => [.ok (.frame (some target)), .ok .done]) ∧
      ∀ moment ∈ Run.states (perform hash) pool (scanCalls scan),
        moment.find hash 7 = .ok (some 1) ∧ moment.pageIn 1 = .ok 7 := by
  intro fresh hash before scan pool
  have assembled : assemble 1 2 2 = .ok fresh := rfl
  have found : pool.find hash 7 = .ok (some 1) := by decide +kernel
  have often : fetchesSinceLoad hash 7 fresh before = 2 := by decide +kernel
  have idleFound : pool.find hash 3 = .ok (some 0) := by decide +kernel
  have seldom : fetchesSinceLoad hash 3 fresh before = 1 := by decide +kernel
  have unpinned : pool.replacer.lookup 0 =
      some { frame := 0, window := [4], evictable := true } := by decide +kernel
  have scanPages : ∀ scanned ∈ scan, scanned ≠ noPage ∧ pool.find hash scanned = .ok none := by
    decide +kernel
  have returns : Returns hash fresh (before ++ scanCalls scan) := by decide +kernel
  refine ⟨assembled, found, often, by decide +kernel, idleFound, seldom, unpinned, scanPages,
    returns, ?_⟩
  exact resident_through_scan assembled (by decide) hash before (by decide) rfl found often.ge
    (.inr ⟨3, _, idleFound, by omega, unpinned, rfl⟩) (by decide) scanPages returns

end PageBuffer.Pool
