import Mathlib.Algebra.Group.Nat.Defs
import PageBuffer.Fallible
import PageBuffer.Table.Basic

/-!
The directory of a table: which slots name which bucket.

A table is aligned when a bucket of local depth `d` is named by exactly the slots that agree with
one another on the low `d` bits.  Doubling and splitting keep a table aligned under every hash
function.
-/

namespace PageBuffer

variable {κ ν : Type}

/-- The entries of a bucket whose next hash bit is `bit`, one level deeper. -/
def Bucket.half (bucket : Bucket κ ν) (hash : HashFunction κ) (bit : Bool) : Bucket κ ν :=
  { depth := bucket.depth + 1
    entries := bucket.entries.filter fun entry => (hash entry.1).toNat.testBit bucket.depth = bit }

namespace Table

@[simp]
theorem powerOfTwo_of_lt {bits : Nat} (narrow : bits < 64) : powerOfTwo bits = .ok (2 ^ bits) := by
  simp [powerOfTwo, narrow, Nat.one_shiftLeft]

@[simp]
theorem lowBits_of_lt {number bits : Nat} (narrow : bits < 64) :
    lowBits number bits = .ok (number % 2 ^ bits) := by
  simp [lowBits, narrow, Nat.one_shiftLeft]

/-- Numbers that agree on some low bits agree on fewer. -/
theorem mod_two_pow_eq_of_le {few many one other : Nat} (le : few ≤ many)
    (agree : one % 2 ^ many = other % 2 ^ many) : one % 2 ^ few = other % 2 ^ few := by
  rw [← Nat.mod_mod_of_dvd one (Nat.pow_dvd_pow 2 le), agree,
    Nat.mod_mod_of_dvd other (Nat.pow_dvd_pow 2 le)]

/-- Two numbers agree on one more bit when they agree on the bits so far and on the next one. -/
theorem mod_two_pow_succ_eq_iff {bits one other : Nat} :
    one % 2 ^ (bits + 1) = other % 2 ^ (bits + 1) ↔
      one % 2 ^ bits = other % 2 ^ bits ∧ one.testBit bits = other.testBit bits := by
  constructor
  · intro agree
    refine ⟨mod_two_pow_eq_of_le (Nat.le_succ bits) agree, ?_⟩
    have sameBit := congrArg (Nat.testBit · bits) agree
    simpa [Nat.testBit_mod_two_pow] using sameBit
  · rintro ⟨low, bit⟩
    have next : one / 2 ^ bits % 2 = other / 2 ^ bits % 2 := by
      simp only [Nat.testBit_eq_decide_div_mod_eq, decide_eq_decide] at bit
      omega
    rw [Nat.mod_pow_succ, Nat.mod_pow_succ, low, next]

@[simp]
theorem bucketAt_eq_ok_iff {table : Table κ ν} {slot id : Nat} {bucket : Bucket κ ν} :
    table.bucketAt slot = .ok (id, bucket) ↔
      table.directory[slot]? = some id ∧ table.buckets[id]? = some bucket := by
  unfold bucketAt
  split
  · rename_i unnamed
    simp [unnamed]
  · rename_i target named
    split
    · rename_i missing
      simp only [named, reduceCtorEq, Option.some.injEq, false_iff, not_and]
      rintro rfl
      simp [missing]
    · rename_i held found
      simp only [named, Except.ok.injEq, Prod.mk.injEq, Option.some.injEq]
      constructor
      · rintro ⟨rfl, rfl⟩
        exact ⟨rfl, found⟩
      · rintro ⟨rfl, same⟩
        exact ⟨rfl, Option.some.inj (found.symm.trans same)⟩

/-- Every slot names a bucket, every bucket is named, and two slots name the same bucket exactly if
they agree on as many low bits as that bucket is deep. -/
structure Aligned (table : Table κ ν) : Prop where
  size_directory : table.directory.size = 2 ^ table.globalDepth
  named : ∀ {slot id : Nat}, table.directory[slot]? = some id →
    ∃ bucket, table.buckets[id]? = some bucket
  reached : ∀ {id : Nat} {bucket}, table.buckets[id]? = some bucket →
    ∃ slot : Nat, table.directory[slot]? = some id
  depth_le : ∀ {id : Nat} {bucket}, table.buckets[id]? = some bucket →
    bucket.depth ≤ table.globalDepth
  alias_iff : ∀ {slot other id : Nat} {bucket}, table.directory[slot]? = some id →
    table.buckets[id]? = some bucket → other < 2 ^ table.globalDepth →
      (table.directory[other]? = some id ↔ slot % 2 ^ bucket.depth = other % 2 ^ bucket.depth)

namespace Aligned

variable {table : Table κ ν} (aligned : table.Aligned)

include aligned

theorem exists_directory {slot : Nat} (inside : slot < 2 ^ table.globalDepth) :
    ∃ id, table.directory[slot]? = some id := by
  rw [← aligned.size_directory] at inside
  exact ⟨_, Array.getElem?_eq_getElem inside⟩

theorem slot_lt {slot id : Nat} (named : table.directory[slot]? = some id) :
    slot < 2 ^ table.globalDepth := by
  rw [← aligned.size_directory]
  exact (Array.getElem?_eq_some_iff.mp named).1

theorem exists_bucketAt {slot : Nat} (inside : slot < 2 ^ table.globalDepth) :
    ∃ id bucket, table.bucketAt slot = .ok (id, bucket) := by
  obtain ⟨id, named⟩ := aligned.exists_directory inside
  rcases aligned.named named with ⟨bucket, found⟩
  exact ⟨id, bucket, bucketAt_eq_ok_iff.mpr ⟨named, found⟩⟩

theorem id_lt {slot id : Nat} (named : table.directory[slot]? = some id) :
    id < table.buckets.size := by
  rcases aligned.named named with ⟨bucket, found⟩
  exact (Array.getElem?_eq_some_iff.mp found).1

/-- A bucket is named by a slot with any bits above its depth that one likes. -/
theorem directory_of_agree {slot other id : Nat} {bucket : Bucket κ ν}
    (named : table.directory[slot]? = some id) (found : table.buckets[id]? = some bucket)
    (inside : other < 2 ^ table.globalDepth)
    (agree : slot % 2 ^ bucket.depth = other % 2 ^ bucket.depth) :
    table.directory[other]? = some id :=
  (aligned.alias_iff named found inside).mpr agree

end Aligned

/-- A fresh table is one bucket without entries, named by one slot. -/
theorem eq_of_create {bucketSize : Nat} {fresh : Table κ ν}
    (created : create bucketSize = .ok fresh) :
    ∃ positive, fresh = { bucketSize, bucketSize_pos := positive } := by
  unfold create at created
  split at created
  · rename_i positive
    exact ⟨positive, (Except.ok.inj created).symm⟩
  · simp at created

theorem aligned_create {bucketSize : Nat} {fresh : Table κ ν}
    (created : create bucketSize = .ok fresh) : fresh.Aligned := by
  obtain ⟨positive, rfl⟩ := eq_of_create created
  constructor
  all_goals simp [List.getElem?_singleton]
  all_goals grind

section Double

variable {table : Table κ ν}

theorem getElem?_directory_double (aligned : table.Aligned) {slot : Nat}
    (inside : slot < 2 ^ (table.globalDepth + 1)) :
    table.double.1.directory[slot]? = table.directory[slot % 2 ^ table.globalDepth]? := by
  simp only [double, Array.getElem?_append, aligned.size_directory]
  rw [Nat.pow_succ] at inside
  split
  · rename_i low
    rw [Nat.mod_eq_of_lt low]
  · rename_i high
    rw [Nat.mod_eq_sub_mod (Nat.le_of_not_lt high), Nat.mod_eq_of_lt (by omega)]

theorem Aligned.double (aligned : table.Aligned) : table.double.1.Aligned := by
  have size : table.double.1.directory.size = 2 ^ (table.globalDepth + 1) := by
    simp [Table.double, aligned.size_directory, Nat.pow_succ, Nat.mul_two]
  have lookup : ∀ {slot id : Nat}, table.double.1.directory[slot]? = some id →
      table.directory[slot % 2 ^ table.globalDepth]? = some id := by
    intro slot id named
    have inside := (Array.getElem?_eq_some_iff.mp named).1
    rw [size] at inside
    rwa [getElem?_directory_double aligned inside] at named
  constructor
  case size_directory => exact size
  case named =>
    intro slot id named
    exact aligned.named (lookup named)
  case reached =>
    intro id bucket found
    rcases aligned.reached found with ⟨slot, named⟩
    refine ⟨slot, ?_⟩
    simp only [Table.double]
    rwa [Array.getElem?_append_left (Array.getElem?_eq_some_iff.mp named).1]
  case depth_le =>
    intro id bucket found
    exact Nat.le_succ_of_le (aligned.depth_le found)
  case alias_iff =>
    intro slot other id bucket named found inside
    have shallow : bucket.depth ≤ table.globalDepth := aligned.depth_le found
    rw [getElem?_directory_double aligned inside,
      aligned.alias_iff (lookup named) found (Nat.mod_lt _ (Nat.two_pow_pos _)),
      Nat.mod_mod_of_dvd slot (Nat.pow_dvd_pow 2 shallow),
      Nat.mod_mod_of_dvd other (Nat.pow_dvd_pow 2 shallow)]

/-- The directory with a bit to spare beyond `depth`. -/
def widened (table : Table κ ν) (depth : Nat) : Table κ ν :=
  if depth = table.globalDepth then table.double.1 else table

theorem Aligned.widened (aligned : table.Aligned) (depth : Nat) :
    (table.widened depth).Aligned := by
  unfold Table.widened
  split
  · exact aligned.double
  · exact aligned

@[simp]
theorem buckets_widened (table : Table κ ν) (depth : Nat) :
    (table.widened depth).buckets = table.buckets := by
  unfold widened
  split <;> rfl

theorem globalDepth_widened {depth : Nat} (shallow : depth ≤ table.globalDepth) :
    (table.widened depth).globalDepth = max table.globalDepth (depth + 1) := by
  unfold widened
  split
  · simp only [Table.double]
    omega
  · omega

end Double

section Split

variable {table : Table κ ν} {hash : HashFunction κ} {id : Nat} {bucket : Bucket κ ν}

/-- The bucket that takes over the slots of a split bucket whose next bit is `bit`. -/
def heir (table : Table κ ν) (id : Nat) (bit : Bool) : Nat :=
  if bit then table.buckets.size else id

/-- The table after a split. -/
def parted (table : Table κ ν) (hash : HashFunction κ) (id : Nat) (bucket : Bucket κ ν) :
    Table κ ν :=
  { table with
    directory := table.directory.mapIdx fun slot target =>
      if target = id then table.heir id (slot.testBit bucket.depth) else target
    buckets := (table.buckets.setIfInBounds id (bucket.half hash false)).push
      (bucket.half hash true) }

/-- What a split logs. -/
def partingEvents (table : Table κ ν) (hash : HashFunction κ) (id : Nat) (bucket : Bucket κ ν) :
    List Event :=
  [.split id (bucket.depth + 1) (bucket.half hash true).entries.length table.buckets.size
      (table.directory.zipIdx.countP fun (target, slot) =>
        target = id && slot.testBit bucket.depth),
    .shape (table.parted hash id bucket).bucketCount table.globalDepth]

theorem split_of_lt (table : Table κ ν) (hash : HashFunction κ) (id : Nat)
    (narrow : bucket.depth < 64) :
    table.split hash id bucket =
      .ok (table.parted hash id bucket, table.partingEvents hash id bucket) := by
  have sorted : ∀ slot target : Nat,
      (if target = id ∧ slot.testBit bucket.depth then table.buckets.size else target) =
        if target = id then table.heir id (slot.testBit bucket.depth) else target := by
    intro slot target
    by_cases same : target = id <;> cases slot.testBit bucket.depth <;> simp [same, heir]
  simp [split, narrow, bind, Except.bind, pure, Except.pure, parted, partingEvents, bucketCount,
    Bucket.half, List.partition_eq_filter_filter, Function.comp_def, ← sorted]

@[simp]
theorem getElem?_directory_parted {slot : Nat} :
    (table.parted hash id bucket).directory[slot]? = table.directory[slot]?.map fun target =>
      if target = id then table.heir id (slot.testBit bucket.depth) else target := by
  simp [parted]

@[simp]
theorem globalDepth_parted : (table.parted hash id bucket).globalDepth = table.globalDepth := rfl

theorem heir_ne {other : Nat} (inside : other < table.buckets.size) (different : other ≠ id)
    (bit : Bool) : other ≠ table.heir id bit := by
  cases bit <;> simp only [heir] <;> grind

theorem heir_inj (inside : id < table.buckets.size) {one other : Bool} :
    table.heir id one = table.heir id other ↔ one = other := by
  cases one <;> cases other <;> simp [heir] <;> omega

/-- A slot of the split bucket goes to the heir of its bit. -/
theorem directory_parted_heir_iff (aligned : table.Aligned)
    (found : table.buckets[id]? = some bucket) {slot : Nat} {bit : Bool} :
    (table.parted hash id bucket).directory[slot]? = some (table.heir id bit) ↔
      table.directory[slot]? = some id ∧ slot.testBit bucket.depth = bit := by
  have inside : id < table.buckets.size := (Array.getElem?_eq_some_iff.mp found).1
  simp only [getElem?_directory_parted, Option.map_eq_some_iff]
  constructor
  · rintro ⟨target, named, settled⟩
    split at settled
    · rename_i same
      exact ⟨same ▸ named, (heir_inj inside).mp settled⟩
    · rename_i different
      exact absurd settled (heir_ne (aligned.id_lt named) different bit)
  · rintro ⟨named, rfl⟩
    exact ⟨id, named, if_pos rfl⟩

/-- A slot of any other bucket stays with it. -/
theorem directory_parted_iff_of_ne {slot other : Nat} (inside : other < table.buckets.size)
    (different : other ≠ id) :
    (table.parted hash id bucket).directory[slot]? = some other ↔
      table.directory[slot]? = some other := by
  simp only [getElem?_directory_parted, Option.map_eq_some_iff]
  constructor
  · rintro ⟨target, named, settled⟩
    split at settled
    · exact absurd settled.symm (heir_ne inside different _)
    · rwa [← settled]
  · intro named
    exact ⟨other, named, if_neg different⟩

theorem buckets_parted_heir (found : table.buckets[id]? = some bucket) (hash : HashFunction κ)
    (bit : Bool) :
    (table.parted hash id bucket).buckets[table.heir id bit]? = some (bucket.half hash bit) := by
  have inside : id < table.buckets.size := (Array.getElem?_eq_some_iff.mp found).1
  cases bit with
  | false =>
      have notLast : id ≠ table.buckets.size := Nat.ne_of_lt inside
      simp [parted, heir, Array.getElem?_push, notLast, inside]
  | true => simp only [parted, heir, if_true, Array.getElem?_push, Array.size_setIfInBounds]

theorem buckets_parted_of_ne {other : Nat} (inside : other < table.buckets.size)
    (different : other ≠ id) :
    (table.parted hash id bucket).buckets[other]? = table.buckets[other]? := by
  have notLast : other ≠ table.buckets.size := Nat.ne_of_lt inside
  simp [parted, Array.getElem?_push, notLast, Ne.symm different]

/-- A bucket after a split is an heir of the split one, or an old one that was not split. -/
theorem buckets_parted_cases {other : Nat} {held : Bucket κ ν}
    (found : table.buckets[id]? = some bucket)
    (present : (table.parted hash id bucket).buckets[other]? = some held) :
    (∃ bit, other = table.heir id bit ∧ held = bucket.half hash bit) ∨
      (other < table.buckets.size ∧ other ≠ id ∧ table.buckets[other]? = some held) := by
  by_cases heirs : ∃ bit, other = table.heir id bit
  · rcases heirs with ⟨bit, rfl⟩
    rw [buckets_parted_heir found hash bit] at present
    exact .inl ⟨bit, rfl, (Option.some.inj present).symm⟩
  · have different : other ≠ id := fun same => heirs ⟨false, same⟩
    have notLast : other ≠ table.buckets.size := fun same => heirs ⟨true, same⟩
    have bound := (Array.getElem?_eq_some_iff.mp present).1
    have inside : other < table.buckets.size := by
      simp only [parted, Array.size_push, Array.size_setIfInBounds] at bound
      omega
    rw [buckets_parted_of_ne inside different] at present
    exact .inr ⟨inside, different, present⟩

/-- Each half of a bucket's slots is there, if the directory has a bit to tell them apart. -/
theorem Aligned.exists_directory_of_bit (aligned : table.Aligned)
    (found : table.buckets[id]? = some bucket) (spare : bucket.depth < table.globalDepth)
    (bit : Bool) :
    ∃ slot : Nat, table.directory[slot]? = some id ∧ slot.testBit bucket.depth = bit := by
  rcases aligned.reached found with ⟨slot, named⟩
  have low : slot % 2 ^ bucket.depth < 2 ^ bucket.depth := Nat.mod_lt _ (Nat.two_pow_pos _)
  have room : 2 ^ (bucket.depth + 1) ≤ 2 ^ table.globalDepth :=
    Nat.pow_le_pow_right (by decide) spare
  rw [Nat.pow_succ] at room
  refine ⟨2 ^ bucket.depth * bit.toNat + slot % 2 ^ bucket.depth, ?_, ?_⟩
  · apply aligned.directory_of_agree named found
    · cases bit <;> simp only [Bool.toNat_false, Bool.toNat_true] <;> omega
    · simp
  · rw [Nat.testBit_two_pow_mul_add _ low]
    cases bit <;> simp

/-- Splitting keeps the directory aligned, since entries and slots go by the same bit. -/
theorem Aligned.parted (aligned : table.Aligned) (found : table.buckets[id]? = some bucket)
    (spare : bucket.depth < table.globalDepth) (hash : HashFunction κ) :
    (table.parted hash id bucket).Aligned := by
  constructor
  case size_directory => simpa [Table.parted] using aligned.size_directory
  case named =>
    intro slot target named
    rw [getElem?_directory_parted, Option.map_eq_some_iff] at named
    rcases named with ⟨former, formerNamed, rfl⟩
    split
    · exact ⟨_, buckets_parted_heir found hash _⟩
    · rename_i different
      rw [buckets_parted_of_ne (aligned.id_lt formerNamed) different]
      exact aligned.named formerNamed
  case reached =>
    intro other held present
    rcases buckets_parted_cases found present with ⟨bit, rfl, rfl⟩ | ⟨inside, different, present⟩
    · obtain ⟨slot, named⟩ := aligned.exists_directory_of_bit found spare bit
      exact ⟨slot, (directory_parted_heir_iff aligned found).mpr named⟩
    · rcases aligned.reached present with ⟨slot, named⟩
      exact ⟨slot, (directory_parted_iff_of_ne inside different).mpr named⟩
  case depth_le =>
    intro other held present
    rcases buckets_parted_cases found present with ⟨bit, rfl, rfl⟩ | ⟨_, _, present⟩
    · exact spare
    · exact aligned.depth_le present
  case alias_iff =>
    intro slot other target held named present inside
    rcases buckets_parted_cases found present with ⟨bit, rfl, rfl⟩ | ⟨bound, different, present⟩
    · rw [directory_parted_heir_iff aligned found] at named ⊢
      rcases named with ⟨named, slotBit⟩
      rw [aligned.alias_iff named found inside, Bucket.half, mod_two_pow_succ_eq_iff, slotBit,
        eq_comm (a := bit)]
    · rw [directory_parted_iff_of_ne bound different] at named ⊢
      exact aligned.alias_iff named present inside

end Split

end Table

end PageBuffer
