import PageBuffer.Proofs.Table.Patterns

/-!
The rounds of an insertion.

As long as the bucket that the key routes to is full, a round gives it room, and the key is routed
anew.  A round concerns the slots that agree with the key's hash on the bits that the bucket goes
by: they part at the next bit.  All other slots name what they named before.

An insertion fails exactly if its rounds take the directory beyond depth `63`.
-/

namespace PageBuffer.Table

variable {κ ν : Type} {table later : Table κ ν} {hash : HashFunction κ} {key : κ} {value : ν}
  {id slot : Nat} {bucket held : Bucket κ ν}

section Slots

theorem Aligned.getElem?_directory_widened (aligned : table.Aligned) {depth : Nat}
    (inside : slot < 2 ^ (table.widened depth).globalDepth) :
    (table.widened depth).directory[slot]? = table.directory[slot % 2 ^ table.globalDepth]? := by
  unfold Table.widened at inside ⊢
  split at inside
  · rename_i deepest
    rw [if_pos deepest]
    exact getElem?_directory_double aligned inside
  · rename_i spare
    rw [if_neg spare, Nat.mod_eq_of_lt inside]

/-- A slot that differs from the hash on the bits that its bucket goes by names another bucket. -/
theorem Aligned.ne_of_differ (aligned : table.Aligned) {other : Nat}
    (named : table.directory[(hash key).toNat % 2 ^ table.globalDepth]? = some id)
    (found : table.buckets[id]? = some bucket) (otherNamed : table.directory[slot]? = some other)
    (differ : slot % 2 ^ bucket.depth ≠ (hash key).toNat % 2 ^ bucket.depth) : other ≠ id := by
  rintro rfl
  have agree := (aligned.alias_iff named found (aligned.slot_lt otherNamed)).mp otherNamed
  rw [mod_mod_two_pow _ (aligned.depth_le found)] at agree
  exact differ agree.symm

/-- The slots of a bucket that was given room part at its next bit. -/
theorem Structured.bucketAt_grown_of_agree (structured : table.Structured)
    (routed : table.route hash key = .ok (id, bucket))
    (inside : slot < 2 ^ (table.grown hash id bucket).globalDepth)
    (agree : slot % 2 ^ bucket.depth = (hash key).toNat % 2 ^ bucket.depth) :
    (table.grown hash id bucket).bucketAt slot =
      .ok (table.heir id (slot.testBit bucket.depth),
        bucket.half hash (slot.testBit bucket.depth)) := by
  have aligned := structured.aligned
  rcases (route_eq_ok_iff structured.globalDepth_le).mp routed with ⟨named, found⟩
  have foundWide : (table.widened bucket.depth).buckets[id]? = some bucket := by
    rwa [buckets_widened]
  have slotNamed : table.directory[slot % 2 ^ table.globalDepth]? = some id := by
    refine aligned.directory_of_agree named found (Nat.mod_lt _ (Nat.two_pow_pos _)) ?_
    rw [mod_mod_two_pow slot (aligned.depth_le found), agree,
      mod_mod_two_pow _ (aligned.depth_le found)]
  rw [← aligned.getElem?_directory_widened inside] at slotNamed
  have sameHeir : table.heir id (slot.testBit bucket.depth) =
      (table.widened bucket.depth).heir id (slot.testBit bucket.depth) := by simp [heir]
  rw [bucketAt_eq_ok_iff, Table.grown, sameHeir]
  exact ⟨(directory_parted_heir_iff (aligned.widened bucket.depth) foundWide).mpr ⟨slotNamed, rfl⟩,
    buckets_parted_heir foundWide hash _⟩

/-- The slots of all other buckets are left alone. -/
theorem Structured.bucketAt_grown_of_differ (structured : table.Structured)
    (routed : table.route hash key = .ok (id, bucket))
    (inside : slot < 2 ^ (table.grown hash id bucket).globalDepth)
    (differ : slot % 2 ^ bucket.depth ≠ (hash key).toNat % 2 ^ bucket.depth) :
    (table.grown hash id bucket).bucketAt slot =
      table.bucketAt (slot % 2 ^ table.globalDepth) := by
  have aligned := structured.aligned
  rcases (route_eq_ok_iff structured.globalDepth_le).mp routed with ⟨named, found⟩
  obtain ⟨other, present, atSlot⟩ :=
    aligned.exists_bucketAt (Nat.mod_lt slot (Nat.two_pow_pos table.globalDepth))
  rcases bucketAt_eq_ok_iff.mp atSlot with ⟨otherNamed, otherFound⟩
  have bound := aligned.id_lt otherNamed
  have different : other ≠ id := by
    refine aligned.ne_of_differ named found otherNamed ?_
    rwa [mod_mod_two_pow slot (aligned.depth_le found)]
  rw [← aligned.getElem?_directory_widened inside] at otherNamed
  rw [← buckets_widened table bucket.depth] at bound otherFound
  rw [atSlot, bucketAt_eq_ok_iff, Table.grown, directory_parted_iff_of_ne bound different,
    buckets_parted_of_ne bound different]
  exact ⟨otherNamed, otherFound⟩

/-- A new bucket in the place of an old one is found at the slots of the old one. -/
theorem Structured.bucketAt_setBucket_of_agree (structured : table.Structured)
    (routed : table.route hash key = .ok (id, bucket)) (inside : slot < 2 ^ table.globalDepth)
    (agree : slot % 2 ^ bucket.depth = (hash key).toNat % 2 ^ bucket.depth) (len : Nat) :
    ({ table.setBucket id held with len } : Table κ ν).bucketAt slot = .ok (id, held) := by
  have aligned := structured.aligned
  rcases (route_eq_ok_iff structured.globalDepth_le).mp routed with ⟨named, found⟩
  rw [bucketAt_eq_ok_iff]
  refine ⟨aligned.directory_of_agree named found inside ?_, buckets_setBucket_self found⟩
  rw [mod_mod_two_pow _ (aligned.depth_le found), agree]

theorem Structured.bucketAt_setBucket_of_differ (structured : table.Structured)
    (routed : table.route hash key = .ok (id, bucket)) (inside : slot < 2 ^ table.globalDepth)
    (differ : slot % 2 ^ bucket.depth ≠ (hash key).toNat % 2 ^ bucket.depth) (len : Nat) :
    ({ table.setBucket id held with len } : Table κ ν).bucketAt slot = table.bucketAt slot := by
  have aligned := structured.aligned
  rcases (route_eq_ok_iff structured.globalDepth_le).mp routed with ⟨named, found⟩
  obtain ⟨other, present, atSlot⟩ := aligned.exists_bucketAt inside
  rw [atSlot]
  rw [bucketAt_eq_ok_iff] at atSlot ⊢
  have different : other ≠ id := aligned.ne_of_differ named found atSlot.1 differ
  exact ⟨atSlot.1, (buckets_setBucket_of_ne different).trans atSlot.2⟩

end Slots

section Rounds

/-- A bucket is given room as long as its next bit is one of a word. -/
theorem makeRoom_eq_ok_iff {next : Table κ ν} {growth : List Event} :
    table.makeRoom hash id bucket = .ok (next, growth) ↔ bucket.depth < 64 ∧
      next = table.grown hash id bucket ∧ growth = table.growthEvents hash id bucket := by
  by_cases narrow : bucket.depth < 64
  · rw [makeRoom_of_lt narrow, Except.ok.injEq, Prod.mk.injEq]
    simp only [narrow, true_and, eq_comm]
  · have fails : ∀ wide : Table κ ν,
        wide.split hash id bucket = .error (.tooManyBits bucket.depth) := by
      intro wide
      simp [Table.split, powerOfTwo, narrow, bind, Except.bind]
    simp only [makeRoom, fails, narrow, false_and, iff_false]
    split <;> simp [bind, Except.bind]

theorem le_globalDepth_widened (table : Table κ ν) (depth : Nat) :
    table.globalDepth ≤ (table.widened depth).globalDepth := by
  unfold Table.widened
  split
  · exact Nat.le_succ _
  · exact Nat.le_refl _

variable [DecidableEq κ]

/-- The tables that an insertion goes through, one after each round. -/
inductive Passes (hash : HashFunction κ) (key : κ) (value : ν) : Table κ ν → Table κ ν → Prop where
  | start (table : Table κ ν) : Passes hash key value table table
  | round {table roomier later : Table κ ν} {id : Nat} {bucket : Bucket κ ν} {growth : List Event}
      (routed : table.route hash key = .ok (id, bucket))
      (put : bucket.put table.bucketSize key value = .full)
      (room : table.makeRoom hash id bucket = .ok (roomier, growth))
      (rest : Passes hash key value roomier later) : Passes hash key value table later

theorem Passes.trans {last : Table κ ν} (passes : Passes hash key value table later)
    (further : Passes hash key value later last) : Passes hash key value table last := by
  induction passes with
  | start table => exact further
  | round routed put room rest inductionHypothesis =>
      exact .round routed put room (inductionHypothesis further)

theorem Passes.le_globalDepth (passes : Passes hash key value table later) :
    table.globalDepth ≤ later.globalDepth := by
  induction passes with
  | start table => exact Nat.le_refl _
  | @round table _ _ id bucket _ routed put room rest inductionHypothesis =>
      obtain ⟨_, rfl, _⟩ := makeRoom_eq_ok_iff.mp room
      exact Nat.le_trans (table.le_globalDepth_widened bucket.depth) inductionHypothesis

theorem Passes.structured (passes : Passes hash key value table later)
    (structured : table.Structured) (narrow : later.globalDepth ≤ 63) : later.Structured := by
  induction passes with
  | start table => exact structured
  | @round table _ later id bucket _ routed put room rest inductionHypothesis =>
      obtain ⟨_, rfl, _⟩ := makeRoom_eq_ok_iff.mp room
      have found := structured.found_of_route routed
      -- The directory never shrinks, so this round has not yet gone beyond depth 63.
      have shallow : bucket.depth < 63 := by
        have depth := globalDepth_grown structured.aligned found hash
        have bound := rest.le_globalDepth
        omega
      exact inductionHypothesis (structured.grown found shallow hash) narrow

/-- An insertion that fails would have gone beyond depth `63`. -/
theorem Structured.exists_passes_of_insertWithin {table : Table κ ν} (structured : table.Structured)
    {levels id : Nat} {bucket : Bucket κ ν} {fault : Fault}
    (routed : table.route hash key = .ok (id, bucket)) (room : bucket.depth + levels = 63)
    (failed : insertWithin hash key value levels table = .error fault) :
    ∃ later, Passes hash key value table later ∧ 63 < later.globalDepth := by
  have found := structured.found_of_route routed
  have narrow : bucket.depth < 64 := by omega
  have roomier : table.makeRoom hash id bucket =
      .ok (table.grown hash id bucket, table.growthEvents hash id bucket) := makeRoom_of_lt narrow
  cases put : bucket.put table.bucketSize key value with
  | overwritten held =>
      rw [insertWithin_of_overwritten routed put] at failed
      cases failed
  | added held =>
      rw [insertWithin_of_added routed put] at failed
      cases failed
  | full =>
      cases levels with
      | zero =>
          refine ⟨_, .round routed put roomier (.start _), ?_⟩
          rw [globalDepth_grown structured.aligned found hash]
          omega
      | succ levels =>
          have shallow : bucket.depth < 63 := by omega
          rw [insertWithin_of_full routed put narrow] at failed
          cases laterFailed : insertWithin hash key value levels (table.grown hash id bucket) with
          | ok outcome =>
              rw [laterFailed] at failed
              cases failed
          | error laterFault =>
              have deeper := structured.aligned.route_grown_self structured.globalDepth_le shallow
                routed
              obtain ⟨later, passes, beyond⟩ :=
                (structured.grown found shallow hash).exists_passes_of_insertWithin deeper
                  (by simp only [Bucket.half]; omega) laterFailed
              exact ⟨later, .round routed put roomier passes, beyond⟩
termination_by levels

/-- An insertion whose rounds go beyond depth `63` fails. -/
theorem Passes.insertWithin_eq_inseparable (passes : Passes hash key value table later)
    (structured : table.Structured) (beyond : 63 < later.globalDepth) {levels : Nat}
    (routed : table.route hash key = .ok (id, bucket)) (room : bucket.depth + levels = 63) :
    insertWithin hash key value levels table = .error .inseparable := by
  induction passes generalizing id bucket levels with
  | start table => exact absurd structured.globalDepth_le (Nat.not_le.mpr beyond)
  | @round table _ later passedId passed _ passedRouted put roomy rest inductionHypothesis =>
      cases routed.symm.trans passedRouted
      obtain ⟨narrow, rfl, _⟩ := makeRoom_eq_ok_iff.mp roomy
      cases levels with
      | zero => exact insertWithin_zero_of_full routed put
      | succ levels =>
          have shallow : passed.depth < 63 := by omega
          have found := structured.found_of_route routed
          have deeper := structured.aligned.route_grown_self structured.globalDepth_le shallow
            routed
          rw [insertWithin_of_full routed put narrow,
            inductionHypothesis (structured.grown found shallow hash) beyond deeper
              (by simp only [Bucket.half]; omega)]
          rfl

/-- An insertion fails exactly if its rounds go beyond depth `63`. -/
theorem Structured.insert_eq_error_iff (structured : table.Structured) {fault : Fault} :
    table.insert hash key value = .error fault ↔ fault = .inseparable ∧
      ∃ later, Passes hash key value table later ∧ 63 < later.globalDepth := by
  obtain ⟨id, bucket, routed, found⟩ := structured.exists_route hash key
  have room : bucket.depth + (63 - bucket.depth) = 63 := by
    have := structured.aligned.depth_le found
    have := structured.globalDepth_le
    omega
  rw [insert_of_route routed]
  constructor
  · intro failed
    exact ⟨structured.aligned.eq_inseparable_of_insertWithin structured.globalDepth_le routed
      (Nat.le_of_eq room) failed, structured.exists_passes_of_insertWithin routed room failed⟩
  · rintro ⟨rfl, later, passes, beyond⟩
    exact passes.insertWithin_eq_inseparable structured beyond routed room

end Rounds

end PageBuffer.Table
