import PageBuffer.Proofs.Table.Parting
import PageBuffer.Proofs.Table.Rounds
import PageBuffer.Proofs.Table.Routing

/-!
What an insertion does, split by split.

A full bucket is split as long as all its entries go the way that the key goes.  The first level at
which an entry goes the other way leaves room for the key, and the splits end there.  The levels
before it leave an empty bucket behind each, and nothing else in the table changes.
-/

namespace PageBuffer.Table

variable {κ ν : Type} {table final : Table κ ν} {hash : HashFunction κ} {key : κ} {value : ν}
  {id deep : Nat} {bucket : Bucket κ ν} {events : List Event}

section Milestones

/-- What of the log tells how far the table has grown. -/
inductive Milestone where
  | doubled (depth : Nat)
  | split (depth : Nat)
  deriving DecidableEq, Repr

def Event.milestone? : Event → Option Milestone
  | .doubled _ depth => some (.doubled depth)
  | .split _ depth _ _ _ => some (.split depth)
  | .shape _ _ => none

def Milestone.splitDepth? : Milestone → Option Nat
  | .doubled _ => none
  | .split depth => some depth

def Milestone.doubledDepth? : Milestone → Option Nat
  | .doubled depth => some depth
  | .split _ => none

/-- A split is logged, and a doubling just before it if it leads beyond the global depth. -/
def milestonesTo (globalDepth deep : Nat) : List Milestone :=
  if globalDepth < deep then [.doubled deep, .split deep] else [.split deep]

theorem milestones_growthEvents (shallow : bucket.depth ≤ table.globalDepth) :
    (table.growthEvents hash id bucket).filterMap Event.milestone? =
      milestonesTo table.globalDepth (bucket.depth + 1) := by
  unfold growthEvents milestonesTo
  split
  · rename_i deepest
    rw [if_pos (by omega)]
    simp [partingEvents, double, Event.milestone?, deepest]
  · rw [if_neg (by omega)]
    simp [partingEvents, Event.milestone?]

/-- Up to the global depth there are splits only; beyond it a doubling precedes each split. -/
theorem flatMap_milestonesTo {depth globalDepth : Nat} (shallow : depth ≤ globalDepth)
    (deeper : depth < deep) :
    (List.range' (depth + 1) (deep - depth)).flatMap (milestonesTo globalDepth) =
      (List.range' (depth + 1) (min globalDepth deep - depth)).map .split ++
        (List.range' (globalDepth + 1) (deep - globalDepth)).flatMap
          fun level => [.doubled level, .split level] := by
  have upTo : ∀ level ∈ List.range' (depth + 1) (min globalDepth deep - depth),
      milestonesTo globalDepth level = [.split level] := by
    intro level member
    rw [List.mem_range'_1] at member
    exact if_neg (by omega)
  have beyond : ∀ level ∈ List.range' (globalDepth + 1) (deep - globalDepth),
      milestonesTo globalDepth level = [.doubled level, .split level] := by
    intro level member
    rw [List.mem_range'_1] at member
    exact if_pos (by omega)
  have levels : List.range' (depth + 1) (deep - depth) =
      List.range' (depth + 1) (min globalDepth deep - depth) ++
        List.range' (globalDepth + 1) (deep - globalDepth) := by
    rcases Nat.le_total deep globalDepth with inside | outside
    · simp [Nat.min_eq_right inside, Nat.sub_eq_zero_of_le inside]
    · have next : globalDepth + 1 = depth + 1 + (globalDepth - depth) := by omega
      rw [Nat.min_eq_left outside, next, List.range'_append_1]
      congr 1
      omega
  rw [levels, List.flatMap_append, List.flatMap_congr upTo, List.flatMap_congr beyond,
    ← List.map_eq_flatMap]

theorem filterMap_splitDepth? (levels : List Nat) (globalDepth : Nat) :
    (levels.flatMap (milestonesTo globalDepth)).filterMap Milestone.splitDepth? = levels := by
  have one : ∀ level,
      (milestonesTo globalDepth level).filterMap Milestone.splitDepth? = [level] := by
    intro level
    unfold milestonesTo
    split <;> rfl
  simp [List.filterMap_flatMap, one]

theorem filterMap_doubledDepth? (levels further : List Nat) :
    (levels.map Milestone.split ++
      further.flatMap fun level => [Milestone.doubled level, .split level]).filterMap
        Milestone.doubledDepth? = further := by
  have noSplit : Milestone.doubledDepth? ∘ Milestone.split = fun _ => none := rfl
  have one : ∀ level : Nat, [Milestone.doubled level, .split level].filterMap
      Milestone.doubledDepth? = [level] := fun _ => rfl
  simp only [List.filterMap_append, List.filterMap_map, List.filterMap_flatMap, noSplit, one]
  simp

end Milestones

/-- What has become of a table whose full bucket was split down to the depth `deep`, where the key
has found room. -/
structure Descends (hash : HashFunction κ) (key : κ) (value : ν) (bucket : Bucket κ ν) (deep : Nat)
    (table final : Table κ ν) (events : List Event) : Prop where
  milestones_eq : events.filterMap Event.milestone? =
    (List.range' (bucket.depth + 1) (deep - bucket.depth)).flatMap
      (milestonesTo table.globalDepth)
  globalDepth_eq : final.globalDepth = max table.globalDepth deep
  bucketCount_eq : final.bucketCount = table.bucketCount + (deep - bucket.depth)
  len_eq : final.len = table.len + 1
  home : ∃ id, final.route hash key = .ok (id, bucket.settled hash key value deep) ∧
    ∀ slot < 2 ^ final.globalDepth, slot % 2 ^ deep = (hash key).toNat % 2 ^ deep →
      final.bucketAt slot = .ok (id, bucket.settled hash key value deep)
  halves : ∀ level, bucket.depth ≤ level → level < deep → ∃ id, ∀ slot < 2 ^ final.globalDepth,
    slot % 2 ^ level = (hash key).toNat % 2 ^ level →
      slot.testBit level ≠ (hash key).toNat.testBit level →
        final.bucketAt slot = .ok (id, bucket.leftBehind hash key deep level)
  /-- The slots of all other buckets name them as before. -/
  others : ∀ slot < 2 ^ final.globalDepth,
    slot % 2 ^ bucket.depth ≠ (hash key).toNat % 2 ^ bucket.depth →
      final.bucketAt slot = table.bucketAt (slot % 2 ^ table.globalDepth)

/-- What a descent from depth `depth` to `deep` logs: a split for each level, and a doubling just
before each split that leads beyond the global depth. -/
structure LogsDescent (globalDepth depth deep : Nat) (events : List Event) : Prop where
  splits : (events.filterMap Event.milestone?).filterMap Milestone.splitDepth? =
    List.range' (depth + 1) (deep - depth)
  doublings : (events.filterMap Event.milestone?).filterMap Milestone.doubledDepth? =
    List.range' (globalDepth + 1) (deep - globalDepth)
  milestones_eq : events.filterMap Event.milestone? =
    (List.range' (depth + 1) (min globalDepth deep - depth)).map .split ++
      (List.range' (globalDepth + 1) (deep - globalDepth)).flatMap
        fun level => [.doubled level, .split level]

theorem Descends.logsDescent (descends : Descends hash key value bucket deep table final events)
    (shallow : bucket.depth ≤ table.globalDepth) (deeper : bucket.depth < deep) :
    LogsDescent table.globalDepth bucket.depth deep events where
  splits := by rw [descends.milestones_eq, filterMap_splitDepth?]
  doublings := by
    rw [descends.milestones_eq, flatMap_milestonesTo shallow deeper, filterMap_doubledDepth?]
  milestones_eq := by rw [descends.milestones_eq, flatMap_milestonesTo shallow deeper]

section Descent

theorem mod_two_pow_succ_ne_of_mod_ne {bits one other : Nat}
    (differ : one % 2 ^ bits ≠ other % 2 ^ bits) :
    one % 2 ^ (bits + 1) ≠ other % 2 ^ (bits + 1) :=
  fun same => differ (mod_two_pow_succ_eq_iff.mp same).1

theorem mod_two_pow_succ_ne_of_testBit_ne {bits one other : Nat}
    (differ : one.testBit bits ≠ other.testBit bits) :
    one % 2 ^ (bits + 1) ≠ other % 2 ^ (bits + 1) :=
  fun same => differ (mod_two_pow_succ_eq_iff.mp same).2

/-- As long as no entry parts from the key, the key routes to all of them. -/
theorem Structured.route_grown_of_unparted (structured : table.Structured)
    (routed : table.route hash key = .ok (id, bucket)) (shallow : bucket.depth < 63)
    (unparted : bucket.Unparted hash key) :
    (table.grown hash id bucket).route hash key =
      .ok (table.heir id ((hash key).toNat.testBit bucket.depth), bucket.deepened) := by
  rw [structured.aligned.route_grown_self structured.globalDepth_le shallow routed,
    unparted.half_self]

/-- A split before the last one: all entries go along with the key. -/
theorem Descends.of_grown (structured : table.Structured)
    (routed : table.route hash key = .ok (id, bucket)) (unparted : bucket.Unparted hash key)
    (beyond : bucket.depth + 1 < deep)
    (rest : Descends hash key value bucket.deepened deep (table.grown hash id bucket) final events) :
    Descends hash key value bucket deep table final
      (table.growthEvents hash id bucket ++ events) := by
  have found := structured.found_of_route routed
  have shallow := structured.aligned.depth_le found
  have nextDepth := globalDepth_grown structured.aligned found hash
  have nextCount : (table.grown hash id bucket).bucketCount = table.bucketCount + 1 :=
    bucketCount_grown
  have lowAgrees : ∀ (slot : Nat) {few : Nat}, few ≤ (table.grown hash id bucket).globalDepth →
      slot % 2 ^ (table.grown hash id bucket).globalDepth % 2 ^ few = slot % 2 ^ few :=
    fun slot _ le => mod_mod_two_pow slot le
  have lowInside : ∀ slot : Nat, slot % 2 ^ (table.grown hash id bucket).globalDepth <
      2 ^ (table.grown hash id bucket).globalDepth := fun slot => Nat.mod_lt _ (Nat.two_pow_pos _)
  constructor
  case milestones_eq =>
    have levels : List.range' (bucket.depth + 1) (deep - bucket.depth) =
        (bucket.depth + 1) :: List.range' (bucket.depth + 1 + 1) (deep - (bucket.depth + 1)) := by
      rw [← List.range'_succ]
      congr 1
      omega
    rw [List.filterMap_append, milestones_growthEvents shallow, rest.milestones_eq, levels,
      List.flatMap_cons, nextDepth]
    congr 1
    apply List.flatMap_congr
    intro level member
    have deeper := (List.mem_range'_1.mp member).1
    rw [Bucket.depth_deepened] at deeper
    exact if_congr (by omega) rfl rfl
  case globalDepth_eq =>
    rw [rest.globalDepth_eq, nextDepth]
    omega
  case bucketCount_eq =>
    rw [rest.bucketCount_eq, nextCount, Bucket.depth_deepened]
    omega
  case len_eq => rw [rest.len_eq, len_grown]
  case home =>
    rw [← unparted.settled_deepened (Nat.lt_of_succ_lt beyond)]
    exact rest.home
  case halves =>
    intro level above below
    -- No later split concerns the half that this one leaves behind.
    rcases Nat.eq_or_lt_of_le above with rfl | deeper
    · refine ⟨table.heir id (!(hash key).toNat.testBit bucket.depth),
        fun slot inside agree differ => ?_⟩
      have apart := mod_two_pow_succ_ne_of_testBit_ne differ
      have lowBit : (slot % 2 ^ (table.grown hash id bucket).globalDepth).testBit bucket.depth =
          slot.testBit bucket.depth := by
        simp only [Nat.testBit_mod_two_pow, nextDepth]
        simp
      rw [rest.others slot inside apart, structured.bucketAt_grown_of_agree routed (lowInside slot)
        ((lowAgrees slot (by omega)).trans agree), lowBit, unparted.half_of_ne differ beyond,
        ← Bool.eq_not.mpr differ]
    · rw [← unparted.leftBehind_deepened (Nat.lt_of_succ_lt beyond)]
      exact rest.halves level deeper below
  case others =>
    intro slot inside differ
    have apart := mod_two_pow_succ_ne_of_mod_ne differ
    have lowDiffers : slot % 2 ^ (table.grown hash id bucket).globalDepth % 2 ^ bucket.depth ≠
        (hash key).toNat % 2 ^ bucket.depth := by rwa [lowAgrees slot (by omega)]
    rw [rest.others slot inside apart,
      structured.bucketAt_grown_of_differ routed (lowInside slot) lowDiffers,
      lowAgrees slot (by omega)]

variable [DecidableEq κ]

/-- The last split: one of the entries goes the other way, and so there is room for the key. -/
theorem Structured.descends_last (structured : table.Structured)
    (routed : table.route hash key = .ok (id, bucket)) (shallow : bucket.depth < 63)
    (parts : bucket.PartsBy hash key (bucket.depth + 1)) (absent : key ∉ bucket.keys)
    (levels : Nat) : ∃ final,
      insertWithin hash key value levels (table.grown hash id bucket) = .ok (final, []) ∧
        Descends hash key value bucket (bucket.depth + 1) table final
          (table.growthEvents hash id bucket) := by
  have found := structured.found_of_route routed
  have nextStructured := structured.grown found shallow hash
  have nextRouted := structured.aligned.route_grown_self structured.globalDepth_le shallow routed
  have absentToo : key ∉ (bucket.half hash ((hash key).toNat.testBit bucket.depth)).keys :=
    fun stored => absent (mem_keys_half.mp stored).1
  have room : (bucket.half hash ((hash key).toNat.testBit bucket.depth)).entries.length <
      (table.grown hash id bucket).bucketSize := by
    rcases parts with ⟨_, _, entry, stored, parted⟩
    rw [Bucket.Along, sameBits_self_succ] at parted
    rw [bucketSize_grown]
    refine Nat.lt_of_lt_of_le ?_ (structured.fits found)
    rw [Bucket.half, List.length_filter_lt_length_iff_exists]
    exact ⟨entry, stored, by simpa using parted⟩
  refine ⟨_, insertWithin_of_added nextRouted (Bucket.put_of_room absentToo room), ?_⟩
  constructor
  case milestones_eq =>
    rw [milestones_growthEvents (structured.aligned.depth_le found), Nat.add_sub_cancel_left]
    simp
  case globalDepth_eq => exact globalDepth_grown structured.aligned found hash
  case bucketCount_eq =>
    have nextCount : (table.grown hash id bucket).bucketCount = table.bucketCount + 1 :=
      bucketCount_grown
    rw [Nat.add_sub_cancel_left, ← nextCount]
    simp [bucketCount, Table.setBucket]
  case len_eq => exact congrArg (· + 1) len_grown
  case home =>
    rw [bucket.settled_succ]
    exact ⟨_, nextStructured.route_setBucket_self nextRouted _, fun slot inside agree =>
      nextStructured.bucketAt_setBucket_of_agree nextRouted inside agree _⟩
  case halves =>
    intro level above below
    obtain rfl : level = bucket.depth := Nat.le_antisymm (Nat.le_of_lt_succ below) above
    refine ⟨table.heir id (!(hash key).toNat.testBit bucket.depth),
      fun slot inside agree differ => ?_⟩
    have apart := mod_two_pow_succ_ne_of_testBit_ne differ
    rw [nextStructured.bucketAt_setBucket_of_differ nextRouted inside apart,
      structured.bucketAt_grown_of_agree routed inside agree, Bucket.leftBehind_succ differ,
      ← Bool.eq_not.mpr differ]
  case others =>
    intro slot inside differ
    have apart := mod_two_pow_succ_ne_of_mod_ne differ
    rw [nextStructured.bucketAt_setBucket_of_differ nextRouted inside apart,
      structured.bucketAt_grown_of_differ routed inside differ]

/-- A full bucket is split until one of its entries and the key go different ways. -/
theorem Structured.descends_of_insertWithin {table : Table κ ν} (structured : table.Structured)
    {levels id : Nat} {bucket : Bucket κ ν} (routed : table.route hash key = .ok (id, bucket))
    (absent : key ∉ bucket.keys) (full : table.bucketSize ≤ bucket.entries.length)
    (least : IsLeast {deep | bucket.PartsBy hash key deep} deep)
    (room : bucket.depth + levels = 63) :
    ∃ final events, insertWithin hash key value levels table = .ok (final, events) ∧
      Descends hash key value bucket deep table final events := by
  obtain ⟨beyond, within, _⟩ := least.1
  -- The induction is on the levels that are left.  A bucket that has not parted is the same one level
  -- deeper, so the depth at which it parts stays the same as well.
  cases levels with
  | zero => omega
  | succ levels =>
      have shallow : bucket.depth < 63 := by omega
      have found := structured.found_of_route routed
      rw [insertWithin_of_full routed (Bucket.put_eq_full_iff.mpr ⟨absent, full⟩)
        (Nat.lt_succ_of_lt shallow)]
      rcases Nat.eq_or_lt_of_le (Nat.succ_le_of_lt beyond) with rfl | further
      · obtain ⟨final, inserted, descends⟩ :=
          structured.descends_last routed shallow least.1 absent levels
        refine ⟨final, table.growthEvents hash id bucket, ?_, descends⟩
        simp [inserted, Except.map]
      · have unparted := Bucket.unparted_of_not_partsBy shallow fun parts =>
          Nat.not_lt.mpr (least.2 parts) further
        have deeper := structured.route_grown_of_unparted routed shallow unparted
        have nextLeast : IsLeast {deep | bucket.deepened.PartsBy hash key deep} deep := by
          simpa only [unparted.partsBy_deepened_iff] using least
        have later : ∃ final events,
            insertWithin hash key value levels (table.grown hash id bucket) = .ok (final, events) ∧
              Descends hash key value bucket.deepened deep (table.grown hash id bucket) final
                events :=
          (structured.grown found shallow hash).descends_of_insertWithin deeper absent
            (by rwa [bucketSize_grown]) nextLeast (by rw [Bucket.depth_deepened]; omega)
        rcases later with ⟨final, events, inserted, descends⟩
        refine ⟨final, table.growthEvents hash id bucket ++ events, ?_,
          descends.of_grown structured routed unparted further⟩
        rw [inserted, Except.map]
termination_by levels

/-- As long as no entry and the key go different ways, every split leaves the bucket as full. -/
theorem Structured.exists_crowded (structured : table.Structured)
    (routed : table.route hash key = .ok (id, bucket)) (absent : key ∉ bucket.keys)
    (full : table.bucketSize ≤ bucket.entries.length)
    (never : ∀ deep, ¬ bucket.PartsBy hash key deep) (value : ν) {levels : Nat}
    (within : bucket.depth + levels ≤ 63) :
    ∃ moment home, Passes hash key value table moment ∧ moment.Structured ∧
      moment.bucketSize = table.bucketSize ∧
        moment.route hash key = .ok (home, { bucket with depth := bucket.depth + levels }) := by
  induction levels generalizing table id bucket with
  | zero => exact ⟨table, id, .start table, structured, rfl, routed⟩
  | succ levels inductionHypothesis =>
      have shallow : bucket.depth < 63 := by omega
      have found := structured.found_of_route routed
      have unparted := Bucket.unparted_of_not_partsBy shallow (never _)
      have deeper := structured.route_grown_of_unparted routed shallow unparted
      obtain ⟨moment, home, passes, momentStructured, sameSize, momentRouted⟩ :=
        inductionHypothesis (structured.grown found shallow hash) deeper absent
          (by rwa [bucketSize_grown])
          (fun deep => unparted.partsBy_deepened_iff.not.mpr (never deep))
          (by rw [Bucket.depth_deepened]; omega)
      rw [bucketSize_grown] at sameSize
      rw [Bucket.depth_deepened, Nat.add_right_comm] at momentRouted
      exact ⟨moment, home, .round routed (Bucket.put_eq_full_iff.mpr ⟨absent, full⟩)
        (makeRoom_of_lt (Nat.lt_succ_of_lt shallow)) passes, momentStructured, sameSize,
        momentRouted⟩

theorem Structured.insert_eq_inseparable (structured : table.Structured)
    (routed : table.route hash key = .ok (id, bucket)) (absent : key ∉ bucket.keys)
    (full : table.bucketSize ≤ bucket.entries.length)
    (never : ∀ deep, ¬ bucket.PartsBy hash key deep) :
    table.insert hash key value = .error .inseparable := by
  have shallow := structured.aligned.depth_le (structured.found_of_route routed)
  have narrow := structured.globalDepth_le
  have deepest : bucket.depth + (63 - bucket.depth) = 63 := by omega
  obtain ⟨moment, home, passes, momentStructured, sameSize, momentRouted⟩ :=
    structured.exists_crowded routed absent full never value (Nat.le_of_eq deepest)
  rw [deepest] at momentRouted
  have crowded : ({ bucket with depth := 63 } : Bucket κ ν).put moment.bucketSize key value = .full :=
    Bucket.put_eq_full_iff.mpr ⟨absent, by rwa [sameSize]⟩
  refine structured.insert_eq_error_iff.mpr ⟨rfl, _,
    passes.trans (.round momentRouted crowded (makeRoom_of_lt (Nat.lt_succ_self 63)) (.start _)),
    ?_⟩
  rw [globalDepth_grown momentStructured.aligned (momentStructured.found_of_route momentRouted) hash]
  exact Nat.lt_of_lt_of_le (Nat.lt_succ_self 63) (Nat.le_max_right _ _)

/-- What an insertion does to a table in which the key routes to this bucket. -/
structure Insertion (hash : HashFunction κ) (key : κ) (value : ν) (table : Table κ ν) (id : Nat)
    (bucket : Bucket κ ν) : Prop where
  /-- A value that the bucket holds for the key gives way to the new one. -/
  overwrites : key ∈ bucket.keys → ∃ before former after,
    bucket.entries = before ++ (key, former) :: after ∧
      table.insert hash key value =
        .ok (table.setBucket id { bucket with entries := before ++ (key, value) :: after }, [])
  /-- A bucket with room takes the entry. -/
  adds : key ∉ bucket.keys → bucket.entries.length < table.bucketSize →
    table.insert hash key value =
      .ok ({ table.setBucket id { bucket with entries := bucket.entries ++ [(key, value)] } with
        len := table.len + 1 }, [])
  /-- A full bucket is split until one of its entries and the key go different ways. -/
  descends : key ∉ bucket.keys → table.bucketSize ≤ bucket.entries.length →
    ∀ deep, IsLeast {deep | bucket.PartsBy hash key deep} deep → ∃ final events,
      table.insert hash key value = .ok (final, events) ∧
        Descends hash key value bucket deep table final events ∧
          LogsDescent table.globalDepth bucket.depth deep events
  /-- If none ever does, the bucket is as full at every level, and the insertion does not end. -/
  diverges : key ∉ bucket.keys → table.bucketSize ≤ bucket.entries.length →
    (∀ deep, ¬ bucket.PartsBy hash key deep) →
      table.insert hash key value = .error .inseparable ∧
        ∀ level, bucket.depth ≤ level → level ≤ 63 → ∃ moment home,
          Passes hash key value table moment ∧
            moment.route hash key = .ok (home, { bucket with depth := level }) ∧
              ({ bucket with depth := level } : Bucket κ ν).put moment.bucketSize key value = .full

theorem Structured.insertion (structured : table.Structured)
    (routed : table.route hash key = .ok (id, bucket)) :
    Insertion hash key value table id bucket := by
  have shallow := structured.aligned.depth_le (structured.found_of_route routed)
  have narrow := structured.globalDepth_le
  have room : bucket.depth + (63 - bucket.depth) = 63 := by omega
  constructor
  case overwrites =>
    intro present
    obtain ⟨before, former, after, split, put⟩ := Bucket.put_of_mem_keys present
    exact ⟨before, former, after, split,
      (insert_of_route routed).trans (insertWithin_of_overwritten routed put)⟩
  case adds =>
    intro absent spare
    exact (insert_of_route routed).trans
      (insertWithin_of_added routed (Bucket.put_of_room absent spare))
  case descends =>
    intro absent full deep least
    obtain ⟨final, events, inserted, descends⟩ :=
      structured.descends_of_insertWithin routed absent full least room
    exact ⟨final, events, (insert_of_route routed).trans inserted, descends,
      descends.logsDescent shallow least.1.1⟩
  case diverges =>
    intro absent full never
    refine ⟨structured.insert_eq_inseparable routed absent full never, ?_⟩
    intro level above within
    obtain ⟨levels, rfl⟩ := Nat.exists_eq_add_of_le above
    obtain ⟨moment, home, passes, _, sameSize, momentRouted⟩ :=
      structured.exists_crowded routed absent full never value within
    exact ⟨moment, home, passes, momentRouted,
      Bucket.put_eq_full_iff.mpr ⟨absent, by rwa [sameSize]⟩⟩

/-- Let any run have led to a table, hash functions changing between its calls.  Then an insertion
under any hash function overwrites, adds, or splits the bucket of its key, by as many levels as it
takes for one of the entries there to go another way than the key. -/
theorem insertion_after_any_history {bucketSize : Nat} {fresh : Table κ ν}
    (created : create bucketSize = .ok fresh) (steps : List (HashFunction κ × Call κ ν))
    (hash : HashFunction κ) (key : κ) (value : ν) :
    let table := Run.finalState performHashed fresh steps
    ∃ id bucket, table.route hash key = .ok (id, bucket) ∧
      Insertion hash key value table id bucket := by
  intro table
  have structured : table.Structured := ((structured_create created).finalState steps).1
  obtain ⟨id, bucket, routed, _⟩ := structured.exists_route hash key
  exact ⟨id, bucket, routed, structured.insertion routed⟩

/-- The bucket of key `17` holds the keys `0` and `8`, which the current hash function routes
elsewhere.  The hash of key `8` differs from that of key `17` at bit `3`, so three splits are made,
and the last two need a doubling.  Under a hash function that tells no keys apart the same insertion
does not end. -/
theorem insertion_after_any_history_three_splits :
    let fresh : Table Nat Nat := { bucketSize := 2 }
    let plain : HashFunction Nat := fun key => UInt64.ofNat key
    let swapped : HashFunction Nat := fun key => UInt64.ofNat key ^^^ 1
    let blind : HashFunction Nat := fun _ => 0
    let steps : List (HashFunction Nat × Call Nat Nat) :=
      [(plain, .insert 1 5), (plain, .insert 3 6), (plain, .insert 5 7), (plain, .insert 0 8),
        (plain, .insert 8 9)]
    let table := Run.finalState performHashed fresh steps
    let bucket : Bucket Nat Nat := ⟨1, [(0, 8), (8, 9)]⟩
    let final : Table Nat Nat :=
      { bucketSize := 2, globalDepth := 4, len := 6
        directory := #[0, 1, 3, 2, 4, 1, 3, 2, 5, 1, 3, 2, 4, 1, 3, 2]
        buckets := #[⟨4, [(0, 8), (17, 4)]⟩, ⟨2, [(1, 5), (5, 7)]⟩, ⟨2, [(3, 6)]⟩, ⟨2, []⟩, ⟨3, []⟩,
          ⟨4, [(8, 9)]⟩] }
    let events : List Event :=
      [.split 0 2 0 3 1, .shape 4 2, .doubled 8 3, .split 0 3 0 4 1, .shape 5 3, .doubled 16 4,
        .split 0 4 1 5 1, .shape 6 4]
    create 2 = .ok fresh ∧ table.route swapped 17 = .ok (0, bucket) ∧
      IsLeast {deep | bucket.PartsBy swapped 17 deep} 4 ∧
      table.insert swapped 17 4 = .ok (final, events) ∧
      Descends swapped 17 4 bucket 4 table final events ∧ LogsDescent 2 1 4 events ∧
      table.insert blind 17 4 = .error .inseparable := by
  intro fresh plain swapped blind steps table bucket final events
  have created : create 2 = .ok fresh := rfl
  have routed : table.route swapped 17 = .ok (0, bucket) := by decide +kernel
  have routedBlind : table.route blind 17 = .ok (0, bucket) := by decide +kernel
  have inserted : table.insert swapped 17 4 = .ok (final, events) := by decide +kernel
  have absent : 17 ∉ bucket.keys := by decide
  have full : table.bucketSize ≤ bucket.entries.length := by decide +kernel
  have twoDeep : table.globalDepth = 2 := by decide +kernel
  have least : IsLeast {deep | bucket.PartsBy swapped 17 deep} 4 := by
    refine ⟨by decide +kernel, ?_⟩
    rintro deep ⟨deeper, within, parted⟩
    by_contra early
    change 1 < deep at deeper
    have twoOrThree : deep = 2 ∨ deep = 3 := by omega
    rcases twoOrThree with rfl | rfl
    · exact absurd parted (by decide +kernel)
    · exact absurd parted (by decide +kernel)
  obtain ⟨_, _, routedToo, insertion⟩ := insertion_after_any_history created steps swapped 17 4
  cases routedToo.symm.trans routed
  obtain ⟨_, _, insertedToo, descends, logs⟩ := insertion.descends absent full 4 least
  cases insertedToo.symm.trans inserted
  rw [show (Run.finalState performHashed fresh steps).globalDepth = 2 from twoDeep] at logs
  obtain ⟨_, _, blindRouted, blindInsertion⟩ :=
    insertion_after_any_history created steps blind 17 4
  cases blindRouted.symm.trans routedBlind
  have never : ∀ deep, ¬ bucket.PartsBy blind 17 deep := by
    rintro deep ⟨_, _, entry, _, parted⟩
    exact parted fun _ _ _ => rfl
  exact ⟨created, routed, least, inserted, descends, logs,
    (blindInsertion.diverges absent full never).1⟩

end Descent

end PageBuffer.Table
