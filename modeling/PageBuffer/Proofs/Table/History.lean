import PageBuffer.Proofs.Table.Routing

/-!
What any history of calls leaves of a fresh table, hash functions changing between calls as they
may.  The directory and the buckets keep their shape throughout; keys keep to their places as long
as the hash function has not been changed.
-/

namespace PageBuffer.Table

variable {κ ν : Type}

/-- The shape of a directory over its buckets.  It does not speak of hashes. -/
structure WellShaped (bucketSize : Nat) (table : Table κ ν) : Prop where
  size_directory : table.directory.size = 2 ^ table.globalDepth
  exists_bucket : ∀ slot < 2 ^ table.globalDepth, ∃ id bucket,
    table.bucketAt slot = .ok (id, bucket)
  /-- Two slots name one bucket exactly if they agree on as many low bits as it is deep. -/
  same_bucket_iff : ∀ slot other id bucket, table.bucketAt slot = .ok (id, bucket) →
    other < 2 ^ table.globalDepth →
      (table.directory[other]? = some id ↔ slot % 2 ^ bucket.depth = other % 2 ^ bucket.depth)
  count_slots : ∀ (id : Nat) bucket, table.buckets[id]? = some bucket →
    table.directory.count id = 2 ^ (table.globalDepth - bucket.depth)
  depth_le : ∀ bucket ∈ table.buckets, bucket.depth ≤ table.globalDepth
  exists_deepest : ∃ bucket ∈ table.buckets, bucket.depth = table.globalDepth
  lt_bucketCount : table.globalDepth + 1 ≤ table.bucketCount
  bucketCount_le : table.bucketCount ≤ 2 ^ table.globalDepth
  fits : ∀ bucket ∈ table.buckets, bucket.entries.length ≤ bucketSize
  distinct : ∀ bucket ∈ table.buckets, bucket.keys.Nodup
  len_eq : table.len = table.entries.length

/-- Where keys stand under one hash function. -/
structure WellPlaced (hash : HashFunction κ) (table : Table κ ν) : Prop where
  agrees : ∀ slot id bucket, table.bucketAt slot = .ok (id, bucket) → ∀ key ∈ bucket.keys,
    (hash key).toNat % 2 ^ bucket.depth = slot % 2 ^ bucket.depth
  once : ∀ (id other : Nat) bucket present, table.buckets[id]? = some bucket →
    table.buckets[other]? = some present → ∀ key ∈ bucket.keys, key ∈ present.keys → id = other

theorem Structured.wellShaped {table : Table κ ν} (structured : table.Structured) :
    table.WellShaped table.bucketSize := by
  have aligned := structured.aligned
  constructor
  case size_directory => exact aligned.size_directory
  case exists_bucket =>
    intro slot inside
    exact aligned.exists_bucketAt inside
  case same_bucket_iff =>
    intro slot other id bucket named inside
    rw [bucketAt_eq_ok_iff] at named
    exact aligned.alias_iff named.1 named.2 inside
  case count_slots =>
    intro id bucket found
    exact aligned.count_directory found
  case depth_le =>
    intro bucket stored
    rcases Array.mem_iff_getElem?.mp stored with ⟨id, found⟩
    exact aligned.depth_le found
  case exists_deepest =>
    rcases structured.deepest with ⟨id, bucket, found, deep⟩
    exact ⟨bucket, Array.mem_of_getElem? found, deep⟩
  case lt_bucketCount => exact structured.globalDepth_lt
  case bucketCount_le => exact aligned.bucketCount_le
  case fits =>
    intro bucket stored
    rcases Array.mem_iff_getElem?.mp stored with ⟨id, found⟩
    exact structured.fits found
  case distinct =>
    intro bucket stored
    rcases Array.mem_iff_getElem?.mp stored with ⟨id, found⟩
    exact structured.distinct found
  case len_eq => exact structured.len_eq

theorem Routed.wellPlaced {table : Table κ ν} {hash : HashFunction κ}
    (routed : table.Routed hash) (structured : table.Structured) : table.WellPlaced hash := by
  constructor
  case agrees =>
    intro slot id bucket named key stored
    rw [bucketAt_eq_ok_iff] at named
    exact routed slot id bucket named.1 named.2 key stored
  case once =>
    intro id other bucket present found presentFound key stored storedToo
    exact routed.id_unique structured found presentFound stored storedToo

variable [DecidableEq κ]

/-- A run is a list of calls, each with the hash function that is current when it is made.  After
any run the table is well shaped; after a run under one hash function it is well placed as well. -/
theorem wellShaped_after_any_history {bucketSize : Nat} {fresh : Table κ ν}
    (created : create bucketSize = .ok fresh) (steps : List (HashFunction κ × Call κ ν)) :
    (Run.finalState performHashed fresh steps).WellShaped bucketSize ∧
      ∀ hash, (∀ step ∈ steps, step.1 = hash) →
        (Run.finalState performHashed fresh steps).WellPlaced hash := by
  have freshStructured := structured_create created
  rcases freshStructured.finalState steps with ⟨structured, sameSize⟩
  constructor
  · have bucketSizeEq : fresh.bucketSize = bucketSize := by
      obtain ⟨positive, rfl⟩ := eq_of_create created
      rfl
    rw [← bucketSizeEq, ← sameSize]
    exact structured.wellShaped
  · intro hash constant
    have routed := (routed_create created hash).finalState freshStructured steps constant
    exact routed.wellPlaced structured

/-- Keys `0` and `4` part only at the third bit, so a table of one entry to a bucket is doubled
three times for them. -/
theorem wellShaped_after_three_doublings :
    let fresh : Table Nat Nat := { bucketSize := 1 }
    let plain : HashFunction Nat := fun key => UInt64.ofNat key
    let steps : List (HashFunction Nat × Call Nat Nat) :=
      [(plain, .insert 0 0), (plain, .insert 4 4), (plain, .insert 1 1), (plain, .remove 0)]
    create 1 = .ok fresh ∧ (Run.finalState performHashed fresh steps).globalDepth = 3 ∧
      (Run.finalState performHashed fresh steps).WellShaped 1 ∧
        (Run.finalState performHashed fresh steps).WellPlaced plain := by
  intro fresh plain steps
  have created : create 1 = .ok fresh := rfl
  have history := wellShaped_after_any_history created steps
  exact ⟨created, by decide +kernel, history.1, history.2 plain (by simp [steps])⟩

end PageBuffer.Table
