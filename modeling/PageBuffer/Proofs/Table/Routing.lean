import PageBuffer.Proofs.Table.Lookup

/-!
Where entries stand as long as the hash function stays the same: each in the bucket that its key
routes to, so that a table finds all it stores.
-/

namespace PageBuffer.Table

variable {κ ν : Type} {table : Table κ ν} {hash : HashFunction κ} {id : Nat}
  {bucket held : Bucket κ ν}

/-- Every stored key's hash agrees with the slots of its bucket on as many low bits as the bucket is
deep. -/
def Routed (hash : HashFunction κ) (table : Table κ ν) : Prop :=
  ∀ (slot id : Nat) (bucket : Bucket κ ν), table.directory[slot]? = some id →
    table.buckets[id]? = some bucket → ∀ key ∈ bucket.keys,
      (hash key).toNat % 2 ^ bucket.depth = slot % 2 ^ bucket.depth

theorem routed_create {bucketSize : Nat} {fresh : Table κ ν}
    (created : create bucketSize = .ok fresh) (hash : HashFunction κ) : fresh.Routed hash := by
  obtain ⟨positive, rfl⟩ := eq_of_create created
  intro slot id bucket _ found key stored
  rcases List.mem_singleton.mp (Array.mem_toList_iff.mpr (Array.mem_of_getElem? found)) with rfl
  simp [Bucket.keys] at stored

theorem mem_keys_half {key : κ} {bit : Bool} :
    key ∈ (bucket.half hash bit).keys ↔
      key ∈ bucket.keys ∧ (hash key).toNat.testBit bucket.depth = bit := by
  simp only [Bucket.keys, Bucket.half, List.mem_map, List.mem_filter, decide_eq_true_eq]
  constructor
  · rintro ⟨entry, ⟨stored, entryBit⟩, rfl⟩
    exact ⟨⟨entry, stored, rfl⟩, entryBit⟩
  · rintro ⟨⟨entry, stored, rfl⟩, entryBit⟩
    exact ⟨entry, ⟨stored, entryBit⟩, rfl⟩

namespace Routed

theorem widened (routed : table.Routed hash) (aligned : table.Aligned) (depth : Nat) :
    (table.widened depth).Routed hash := by
  unfold Table.widened
  split
  · intro slot id bucket named found key stored
    have inside := aligned.double.slot_lt named
    rw [getElem?_directory_double aligned inside] at named
    rw [routed _ id bucket named found key stored,
      Nat.mod_mod_of_dvd slot (Nat.pow_dvd_pow 2 (aligned.depth_le found))]
  · exact routed

/-- Splitting keeps keys routed, since entries and slots go by the same bit. -/
theorem parted (routed : table.Routed hash) (aligned : table.Aligned)
    (found : table.buckets[id]? = some bucket) : (table.parted hash id bucket).Routed hash := by
  intro slot other present named presentFound key stored
  rcases buckets_parted_cases found presentFound with ⟨bit, rfl, rfl⟩ | ⟨inside, different, former⟩
  · rw [directory_parted_heir_iff aligned found] at named
    rw [mem_keys_half] at stored
    rw [Bucket.half, mod_two_pow_succ_eq_iff, stored.2, named.2]
    exact ⟨routed slot id bucket named.1 found key stored.1, rfl⟩
  · rw [directory_parted_iff_of_ne inside different] at named
    exact routed slot other present named former key stored

theorem grown (routed : table.Routed hash) (aligned : table.Aligned)
    (found : table.buckets[id]? = some bucket) : (table.grown hash id bucket).Routed hash :=
  (routed.widened aligned _).parted (aligned.widened _) (by rwa [buckets_widened])

/-- A bucket may take in keys that route to it. -/
theorem setBucket (routed : table.Routed hash) (structured : table.Structured)
    (found : table.buckets[id]? = some bucket) (depth : held.depth = bucket.depth)
    (placed : ∀ key ∈ held.keys, key ∈ bucket.keys ∨ table.route hash key = .ok (id, bucket))
    (len : Nat) : ({ table.setBucket id held with len } : Table κ ν).Routed hash := by
  have aligned := structured.aligned
  intro slot other present named presentFound key stored
  rcases buckets_setBucket_cases presentFound with ⟨rfl, rfl⟩ | ⟨_, former⟩
  · rw [depth]
    rcases placed key stored with old | new
    · exact routed slot other bucket named found key old
    · rw [route_eq_ok_iff structured.globalDepth_le] at new
      have agree := (aligned.alias_iff named found (Nat.mod_lt _ (Nat.two_pow_pos _))).mp new.1
      rw [agree, Nat.mod_mod_of_dvd _ (Nat.pow_dvd_pow 2 (aligned.depth_le found))]
  · exact routed slot other present named former key stored

/-- Under an unchanged hash function a stored key routes to the bucket that holds it. -/
theorem route_of_mem (routed : table.Routed hash) (structured : table.Structured)
    (found : table.buckets[id]? = some bucket) {key : κ} (stored : key ∈ bucket.keys) :
    table.route hash key = .ok (id, bucket) := by
  have aligned := structured.aligned
  rcases aligned.reached found with ⟨slot, named⟩
  rw [route_eq_ok_iff structured.globalDepth_le]
  refine ⟨?_, found⟩
  apply aligned.directory_of_agree named found (Nat.mod_lt _ (Nat.two_pow_pos _))
  rw [Nat.mod_mod_of_dvd _ (Nat.pow_dvd_pow 2 (aligned.depth_le found))]
  exact (routed slot id bucket named found key stored).symm

/-- No key is stored in two buckets. -/
theorem id_unique (routed : table.Routed hash) (structured : table.Structured) {other : Nat}
    {present : Bucket κ ν} (found : table.buckets[id]? = some bucket)
    (presentFound : table.buckets[other]? = some present) {key : κ} (stored : key ∈ bucket.keys)
    (storedToo : key ∈ present.keys) : id = other := by
  have here := routed.route_of_mem structured found stored
  rw [routed.route_of_mem structured presentFound storedToo] at here
  exact (Prod.mk.inj (Except.ok.inj here)).1.symm

section Operations

variable [DecidableEq κ] {key : κ} {value : ν}

/-- A table finds all it stores. -/
theorem find_of_mem (routed : table.Routed hash) (structured : table.Structured)
    (stored : (key, value) ∈ table.entries) : table.find hash key = .ok (some value) := by
  rcases mem_entries_iff.mp stored with ⟨id, bucket, found, inBucket⟩
  rw [find_of_route
    (routed.route_of_mem structured found (Bucket.mem_keys_of_mem_entries inBucket)),
    (Bucket.find?_eq_some_iff (structured.distinct found)).mpr inBucket]

theorem inserts {final : Table κ ν} (routed : table.Routed hash) (structured : table.Structured)
    (inserts : Inserts hash key value table final) : final.Routed hash := by
  induction inserts with
  | @overwrite table id bucket held keyRouted put =>
      have found := structured.found_of_route keyRouted
      refine routed.setBucket structured found (Bucket.depth_of_put_eq_overwritten put) ?_ table.len
      intro other stored
      rw [(Bucket.keys_of_put_eq_overwritten put).1] at stored
      exact .inl stored
  | @add table id bucket held keyRouted put =>
      have found := structured.found_of_route keyRouted
      refine routed.setBucket structured found (Bucket.depth_of_put_eq_added put) ?_ _
      intro other stored
      rw [Bucket.keys_of_put_eq_added put, List.mem_append, List.mem_singleton] at stored
      rcases stored with old | rfl
      · exact .inl old
      · exact .inr keyRouted
  | grow keyRouted put shallow later inductionHypothesis =>
      have found := structured.found_of_route keyRouted
      exact inductionHypothesis (routed.grown structured.aligned found)
        (structured.grown found shallow hash)

theorem removes {present : Bool} {next : Table κ ν} (routed : table.Routed hash)
    (structured : table.Structured) (removes : Removes hash key table present next) :
    next.Routed hash := by
  cases removes with
  | absent keyRouted absent => exact routed
  | erase keyRouted erased =>
      have found := structured.found_of_route keyRouted
      refine routed.setBucket structured found (Bucket.depth_of_erase? erased) ?_ _
      intro other stored
      exact .inl ((Bucket.perm_keys_of_erase?_eq_some erased).mem_iff.mpr (.tail _ stored))

theorem perform (routed : table.Routed hash) (structured : table.Structured) (call : Call κ ν) :
    (Table.perform hash call table).state.Routed hash := by
  rcases structured.perform_cases hash call with ⟨_, _, _, inserts⟩ | ⟨_, _, _, removes⟩ | same
  · exact routed.inserts structured inserts
  · exact routed.removes structured removes
  · rw [same]
    exact routed

/-- A run under one hash function keeps every key routed. -/
theorem finalState (routed : table.Routed hash) (structured : table.Structured)
    (steps : List (HashFunction κ × Call κ ν)) (constant : ∀ step ∈ steps, step.1 = hash) :
    (Run.finalState performHashed table steps).Routed hash := by
  induction steps generalizing table with
  | nil => exact routed
  | cons step rest inductionHypothesis =>
      rcases step with ⟨current, call⟩
      have same : current = hash := constant _ List.mem_cons_self
      subst current
      exact inductionHypothesis (routed.perform structured call) (structured.perform hash call).1
        fun step later => constant step (List.mem_cons_of_mem _ later)

end Operations

end Routed

end PageBuffer.Table
