import Mathlib.Data.Set.Card
import PageBuffer.Proofs.Table.Structure

/-!
The shape of a table as the patterns of its buckets: how many low bits each bucket goes by, and
which bits these are.

Every number has the pattern of exactly one bucket.  A pattern that buckets go beyond is a fork, and
there is one bucket more than there are forks.
-/

namespace PageBuffer.Table

variable {κ ν : Type} {table other : Table κ ν} {hash : HashFunction κ}
  {id slot number depth otherDepth pattern : Nat} {bucket held : Bucket κ ν}

/-- A bucket of this depth is named by the slots whose low bits are `pattern`. -/
def HasPattern (table : Table κ ν) (depth pattern : Nat) : Prop :=
  ∃ (slot id : Nat) (bucket : Bucket κ ν), table.directory[slot]? = some id ∧
    table.buckets[id]? = some bucket ∧ bucket.depth = depth ∧ slot % 2 ^ depth = pattern

theorem HasPattern.pattern_lt (has : table.HasPattern depth pattern) : pattern < 2 ^ depth := by
  rcases has with ⟨_, _, _, _, _, _, rfl⟩
  exact Nat.mod_lt _ (Nat.two_pow_pos depth)

theorem mod_mod_two_pow {few many : Nat} (number : Nat) (le : few ≤ many) :
    number % 2 ^ many % 2 ^ few = number % 2 ^ few :=
  Nat.mod_mod_of_dvd number (Nat.pow_dvd_pow 2 le)

section Aligned

variable (aligned : table.Aligned)

include aligned

theorem Aligned.depth_le_of_hasPattern (has : table.HasPattern depth pattern) :
    depth ≤ table.globalDepth := by
  rcases has with ⟨_, _, _, _, found, rfl, _⟩
  exact aligned.depth_le found

/-- Every number has the pattern of some bucket. -/
theorem Aligned.exists_hasPattern (number : Nat) :
    ∃ depth, table.HasPattern depth (number % 2 ^ depth) := by
  obtain ⟨id, named⟩ :=
    aligned.exists_directory (Nat.mod_lt number (Nat.two_pow_pos table.globalDepth))
  rcases aligned.named named with ⟨bucket, found⟩
  exact ⟨bucket.depth, _, id, bucket, named, found, rfl,
    mod_mod_two_pow number (aligned.depth_le found)⟩

theorem Aligned.directory_of_hasPattern (has : table.HasPattern depth (slot % 2 ^ depth))
    (inside : slot < 2 ^ table.globalDepth) :
    ∃ id bucket, table.directory[slot]? = some id ∧ table.buckets[id]? = some bucket ∧
      bucket.depth = depth := by
  rcases has with ⟨namer, id, bucket, named, found, rfl, agree⟩
  exact ⟨id, bucket, aligned.directory_of_agree named found inside agree, found, rfl⟩

/-- A slot's bucket is as deep as the slot's pattern is long. -/
theorem Aligned.localDepth_eq_ok_iff (inside : slot < 2 ^ table.globalDepth) :
    table.localDepth slot = .ok depth ↔ table.HasPattern depth (slot % 2 ^ depth) := by
  obtain ⟨id, bucket, atSlot⟩ := aligned.exists_bucketAt inside
  rcases bucketAt_eq_ok_iff.mp atSlot with ⟨named, found⟩
  have here : table.localDepth slot = .ok bucket.depth := by rw [localDepth, atSlot]; rfl
  rw [here, Except.ok.injEq]
  constructor
  · rintro rfl
    exact ⟨slot, id, bucket, named, found, rfl, rfl⟩
  · intro has
    obtain ⟨otherId, otherBucket, otherNamed, otherFound, rfl⟩ :=
      aligned.directory_of_hasPattern has inside
    cases Option.some.inj (named.symm.trans otherNamed)
    rw [Option.some.inj (found.symm.trans otherFound)]

theorem Aligned.localDepth_of_outside (outside : 2 ^ table.globalDepth ≤ slot) :
    table.localDepth slot = .error (.noSlot slot) := by
  have unnamed : table.directory[slot]? = none := by
    rw [Array.getElem?_eq_none_iff, aligned.size_directory]
    exact outside
  rw [localDepth, bucketAt, unnamed]
  rfl

/-- The patterns can be read off the local depths. -/
theorem Aligned.hasPattern_iff_localDepth :
    table.HasPattern depth pattern ↔ pattern < 2 ^ depth ∧ table.localDepth pattern = .ok depth := by
  constructor
  · intro has
    have low := has.pattern_lt
    have inside : pattern < 2 ^ table.globalDepth := by
      apply Nat.lt_of_lt_of_le low
      exact Nat.pow_le_pow_right (by decide) (aligned.depth_le_of_hasPattern has)
    refine ⟨low, (aligned.localDepth_eq_ok_iff inside).mpr ?_⟩
    rwa [Nat.mod_eq_of_lt low]
  · rintro ⟨low, answered⟩
    by_cases inside : pattern < 2 ^ table.globalDepth
    · have has := (aligned.localDepth_eq_ok_iff inside).mp answered
      rwa [Nat.mod_eq_of_lt low] at has
    · rw [aligned.localDepth_of_outside (Nat.le_of_not_lt inside)] at answered
      cases answered

/-- No number has the patterns of two buckets. -/
theorem Aligned.depth_unique (has : table.HasPattern depth (number % 2 ^ depth))
    (hasOther : table.HasPattern otherDepth (number % 2 ^ otherDepth)) : depth = otherDepth := by
  have inside := Nat.mod_lt number (Nat.two_pow_pos table.globalDepth)
  rw [← mod_mod_two_pow number (aligned.depth_le_of_hasPattern has),
    ← aligned.localDepth_eq_ok_iff inside] at has
  rw [← mod_mod_two_pow number (aligned.depth_le_of_hasPattern hasOther),
    ← aligned.localDepth_eq_ok_iff inside, has] at hasOther
  exact Except.ok.inj hasOther

end Aligned

/-- A key's hash ends in the pattern of the bucket that the key belongs to. -/
theorem Structured.hasPattern_of_route (structured : table.Structured) {key : κ}
    (routed : table.route hash key = .ok (id, bucket)) :
    table.HasPattern bucket.depth ((hash key).toNat % 2 ^ bucket.depth) := by
  rcases (route_eq_ok_iff structured.globalDepth_le).mp routed with ⟨named, found⟩
  exact ⟨_, id, bucket, named, found, rfl, mod_mod_two_pow _ (structured.aligned.depth_le found)⟩

theorem Structured.isGreatest_globalDepth (structured : table.Structured) :
    IsGreatest {depth | ∃ pattern, table.HasPattern depth pattern} table.globalDepth := by
  constructor
  · rcases structured.deepest with ⟨id, bucket, found, deep⟩
    rcases structured.aligned.reached found with ⟨slot, named⟩
    exact ⟨_, slot, id, bucket, named, found, deep, rfl⟩
  · rintro depth ⟨pattern, has⟩
    exact structured.aligned.depth_le_of_hasPattern has

section Forks

/-- Buckets whose slots end in these bits go by more bits than these. -/
def Fork (table : Table κ ν) (depth pattern : Nat) : Prop :=
  ∃ deeper whole, table.HasPattern deeper whole ∧ depth < deeper ∧ whole % 2 ^ depth = pattern

theorem Fork.pattern_lt (fork : table.Fork depth pattern) : pattern < 2 ^ depth := by
  rcases fork with ⟨_, whole, _, _, rfl⟩
  exact Nat.mod_lt whole (Nat.two_pow_pos depth)

/-- The bucket on the far side of a fork: the bit after the pattern is set, and none after that. -/
def farSide (table : Table κ ν) (fork : Nat × Nat) : Nat :=
  table.directory.getD (fork.2 + 2 ^ fork.1) 0

variable (aligned : table.Aligned)

include aligned

theorem Aligned.directory_farSide (fork : table.Fork depth pattern) :
    ∃ bucket, table.directory[pattern + 2 ^ depth]? = some (table.farSide (depth, pattern)) ∧
      table.buckets[table.farSide (depth, pattern)]? = some bucket ∧ depth < bucket.depth := by
  have low := fork.pattern_lt
  rcases fork with ⟨deeper, whole, has, beyond, rfl⟩
  have room : 2 ^ (depth + 1) ≤ 2 ^ table.globalDepth :=
    Nat.pow_le_pow_right (by decide)
      (Nat.le_trans beyond (aligned.depth_le_of_hasPattern has))
  rw [Nat.pow_succ] at room
  have inside : whole % 2 ^ depth + 2 ^ depth < 2 ^ table.globalDepth := by omega
  obtain ⟨id, named⟩ := aligned.exists_directory inside
  rcases aligned.named named with ⟨bucket, found⟩
  have far : table.farSide (depth, whole % 2 ^ depth) = id := by
    rw [farSide, Array.getD_eq_getD_getElem?, named]
    rfl
  rw [far]
  refine ⟨bucket, named, found, ?_⟩
  -- Were the bucket no deeper than the fork, its pattern would be that of the deeper buckets too.
  by_contra notBeyond
  have shallow := Nat.le_of_not_lt notBeyond
  rcases has with ⟨slot, otherId, otherBucket, otherNamed, otherFound, rfl, rfl⟩
  have agree : (slot % 2 ^ otherBucket.depth % 2 ^ depth + 2 ^ depth) % 2 ^ bucket.depth =
      slot % 2 ^ bucket.depth := by
    rw [mod_mod_two_pow slot (Nat.le_of_lt beyond), Nat.add_mod,
      Nat.mod_eq_zero_of_dvd (Nat.pow_dvd_pow 2 shallow), Nat.add_zero, Nat.mod_mod,
      mod_mod_two_pow slot shallow]
  have same := aligned.directory_of_agree named found (aligned.slot_lt otherNamed) agree
  rw [otherNamed, Option.some.injEq] at same
  subst same
  rw [otherFound, Option.some.injEq] at found
  subst found
  exact notBeyond beyond

theorem Aligned.injOn_farSide :
    Set.InjOn table.farSide {fork | table.Fork fork.1 fork.2} := by
  rintro ⟨depth, pattern⟩ (fork : table.Fork depth pattern)
    ⟨otherDepth, otherPattern⟩ (otherFork : table.Fork otherDepth otherPattern) same
  obtain ⟨bucket, named, found, beyond⟩ := aligned.directory_farSide fork
  obtain ⟨otherBucket, otherNamed, otherFound, otherBeyond⟩ :=
    aligned.directory_farSide otherFork
  rw [← same] at otherNamed otherFound
  rw [found, Option.some.injEq] at otherFound
  subst otherFound
  have low := fork.pattern_lt
  have otherLow := otherFork.pattern_lt
  have room : 2 ^ (depth + 1) ≤ 2 ^ bucket.depth := Nat.pow_le_pow_right (by decide) beyond
  have otherRoom : 2 ^ (otherDepth + 1) ≤ 2 ^ bucket.depth :=
    Nat.pow_le_pow_right (by decide) otherBeyond
  rw [Nat.pow_succ] at room otherRoom
  have sum : pattern + 2 ^ depth = otherPattern + 2 ^ otherDepth := by
    have agree := (aligned.alias_iff named found (aligned.slot_lt otherNamed)).mp otherNamed
    rwa [Nat.mod_eq_of_lt (by omega), Nat.mod_eq_of_lt (by omega)] at agree
  -- Both sums lie between two powers of two, which are those of their depths.
  have sameDepth : depth = otherDepth := by
    rcases Nat.lt_trichotomy depth otherDepth with shorter | same | longer
    · have : 2 ^ (depth + 1) ≤ 2 ^ otherDepth := Nat.pow_le_pow_right (by decide) shorter
      rw [Nat.pow_succ] at this
      omega
    · exact same
    · have : 2 ^ (otherDepth + 1) ≤ 2 ^ depth := Nat.pow_le_pow_right (by decide) longer
      rw [Nat.pow_succ] at this
      omega
  subst sameDepth
  simpa using sum

/-- Every bucket but that of slot `0` is on the far side of one fork: the one below the highest bit
of its pattern. -/
theorem Aligned.image_farSide {first : Nat} (firstNamed : table.directory[0]? = some first) :
    table.farSide '' {fork | table.Fork fork.1 fork.2} =
      {id | id < table.bucketCount ∧ id ≠ first} := by
  ext id
  simp only [Set.mem_image, Set.mem_ofPred_eq, Prod.exists]
  constructor
  · rintro ⟨depth, pattern, fork, rfl⟩
    obtain ⟨bucket, named, found, beyond⟩ := aligned.directory_farSide fork
    refine ⟨aligned.id_lt named, ?_⟩
    intro same
    have low := fork.pattern_lt
    have room : 2 ^ (depth + 1) ≤ 2 ^ bucket.depth := Nat.pow_le_pow_right (by decide) beyond
    rw [Nat.pow_succ] at room
    rw [← same] at firstNamed
    have agree := (aligned.alias_iff named found (aligned.slot_lt firstNamed)).mp firstNamed
    rw [Nat.zero_mod, Nat.mod_eq_of_lt (by omega)] at agree
    omega
  · rintro ⟨inside, different⟩
    have found := Array.getElem?_eq_getElem inside
    rcases aligned.reached found with ⟨slot, named⟩
    generalize table.buckets[id] = bucket at found
    have pattern_ne : slot % 2 ^ bucket.depth ≠ 0 := by
      intro zero
      have named := aligned.directory_of_agree named found (Nat.two_pow_pos table.globalDepth)
        (zero.trans (Nat.zero_mod _).symm)
      exact different (Option.some.inj (named.symm.trans firstNamed))
    have below := Nat.mod_lt slot (Nat.two_pow_pos bucket.depth)
    have atLeast := Nat.log2_self_le pattern_ne
    have beyond : (slot % 2 ^ bucket.depth).log2 < bucket.depth :=
      (Nat.log2_lt pattern_ne).mpr below
    have atMost : slot % 2 ^ bucket.depth < 2 ^ ((slot % 2 ^ bucket.depth).log2 + 1) :=
      (Nat.log2_lt pattern_ne).mp (Nat.lt_succ_self _)
    refine ⟨(slot % 2 ^ bucket.depth).log2, _,
      ⟨bucket.depth, _, ⟨slot, id, bucket, named, found, rfl, rfl⟩, beyond, rfl⟩, ?_⟩
    generalize (slot % 2 ^ bucket.depth).log2 = highest at *
    rw [Nat.pow_succ] at atMost
    have sum : slot % 2 ^ bucket.depth % 2 ^ highest + 2 ^ highest = slot % 2 ^ bucket.depth := by
      rw [Nat.mod_eq_sub_mod atLeast, Nat.mod_eq_of_lt (by omega)]
      omega
    have inDirectory : slot % 2 ^ bucket.depth < 2 ^ table.globalDepth :=
      Nat.lt_of_lt_of_le below (Nat.pow_le_pow_right (by decide) (aligned.depth_le found))
    have farNamed := aligned.directory_of_agree named found inDirectory (Nat.mod_mod _ _).symm
    rw [farSide, sum, Array.getD_eq_getD_getElem?, farNamed]
    rfl

/-- There is one bucket more than there are forks. -/
theorem Aligned.encard_forks_add_one :
    {fork : Nat × Nat | table.Fork fork.1 fork.2}.encard + 1 = table.bucketCount := by
  obtain ⟨first, firstNamed⟩ := aligned.exists_directory (Nat.two_pow_pos table.globalDepth)
  have inside : first < table.bucketCount := aligned.id_lt firstNamed
  have left : first ∉ {id | id < table.bucketCount ∧ id ≠ first} := by simp
  have all : Insert.insert first {id | id < table.bucketCount ∧ id ≠ first} =
      ((Finset.range table.bucketCount : Finset Nat) : Set Nat) := by
    ext id
    simp only [Set.mem_insert_iff, Set.mem_ofPred_eq, Finset.coe_range, Set.mem_Iio]
    omega
  rw [← aligned.injOn_farSide.encard_image, aligned.image_farSide firstNamed,
    ← Set.encard_insert_of_notMem left, all, Set.encard_coe_eq_coe_finsetCard,
    Finset.card_range]

end Forks

section Growth

theorem hasPattern_setBucket (found : table.buckets[id]? = some bucket)
    (sameDepth : held.depth = bucket.depth) (len : Nat) :
    ({ table.setBucket id held with len } : Table κ ν).HasPattern depth pattern ↔
      table.HasPattern depth pattern := by
  constructor
  · rintro ⟨slot, target, present, named, presentFound, rfl, rfl⟩
    rcases buckets_setBucket_cases presentFound with ⟨rfl, rfl⟩ | ⟨_, formerFound⟩
    · exact ⟨slot, target, bucket, named, found, sameDepth.symm, rfl⟩
    · exact ⟨slot, target, present, named, formerFound, rfl, rfl⟩
  · rintro ⟨slot, target, former, named, formerFound, rfl, rfl⟩
    by_cases same : target = id
    · subst same
      cases Option.some.inj (found.symm.trans formerFound)
      exact ⟨slot, target, held, named, buckets_setBucket_self found, sameDepth, rfl⟩
    · exact ⟨slot, target, former, named, (buckets_setBucket_of_ne same).trans formerFound, rfl,
        rfl⟩

theorem Aligned.directory_of_widened (aligned : table.Aligned)
    (named : (table.widened depth).directory[slot]? = some id) :
    table.directory[slot % 2 ^ table.globalDepth]? = some id := by
  unfold Table.widened at named
  split at named
  · have inside := aligned.double.slot_lt named
    rwa [getElem?_directory_double aligned inside] at named
  · rwa [Nat.mod_eq_of_lt (aligned.slot_lt named)]

/-- A pattern after room was made in a bucket is one from before, or one bit longer than that of the
bucket. -/
theorem Aligned.hasPattern_of_grown (aligned : table.Aligned)
    (found : table.buckets[id]? = some bucket)
    (has : (table.grown hash id bucket).HasPattern depth pattern) :
    table.HasPattern depth pattern ∨ depth = bucket.depth + 1 ∧
      ∃ slot, table.directory[slot]? = some id ∧
        slot % 2 ^ bucket.depth = pattern % 2 ^ bucket.depth := by
  rcases has with ⟨slot, target, present, named, presentFound, rfl, rfl⟩
  have foundWide : (table.widened bucket.depth).buckets[id]? = some bucket := by
    rwa [buckets_widened]
  have alignedWide := aligned.widened bucket.depth
  rcases buckets_parted_cases foundWide presentFound with
    ⟨bit, rfl, rfl⟩ | ⟨inside, different, former⟩
  · have namedWide := ((directory_parted_heir_iff alignedWide foundWide).mp named).1
    refine .inr ⟨rfl, _, aligned.directory_of_widened namedWide, ?_⟩
    rw [mod_mod_two_pow slot (aligned.depth_le found), Bucket.half,
      mod_mod_two_pow slot (Nat.le_succ bucket.depth)]
  · have namedWide := (directory_parted_iff_of_ne inside different).mp named
    rw [buckets_widened] at former
    exact .inl ⟨_, target, present, aligned.directory_of_widened namedWide, former, rfl,
      mod_mod_two_pow slot (aligned.depth_le former)⟩

/-- After room was made in a bucket, the numbers that had its pattern go by one bit more. -/
theorem Aligned.hasPattern_grown_self (aligned : table.Aligned)
    (named : table.directory[slot]? = some id) (found : table.buckets[id]? = some bucket)
    (inside : number % 2 ^ bucket.depth = slot % 2 ^ bucket.depth) :
    (table.grown hash id bucket).HasPattern (bucket.depth + 1)
      (number % 2 ^ (bucket.depth + 1)) := by
  have alignedWide := aligned.widened bucket.depth
  have foundWide : (table.widened bucket.depth).buckets[id]? = some bucket := by
    rwa [buckets_widened]
  have spare : bucket.depth < (table.widened bucket.depth).globalDepth := by
    rw [globalDepth_widened (aligned.depth_le found)]
    omega
  obtain ⟨namer, namerWide, sameBit⟩ :=
    alignedWide.exists_directory_of_bit foundWide spare (number.testBit bucket.depth)
  refine ⟨namer, _, bucket.half hash (number.testBit bucket.depth),
    (directory_parted_heir_iff alignedWide foundWide).mpr ⟨namerWide, sameBit⟩,
    buckets_parted_heir foundWide hash _, rfl, ?_⟩
  rw [mod_two_pow_succ_eq_iff]
  refine ⟨?_, sameBit⟩
  have namerNamed := aligned.directory_of_widened namerWide
  have agree := (aligned.alias_iff named found (aligned.slot_lt namerNamed)).mp namerNamed
  rw [mod_mod_two_pow namer (aligned.depth_le found)] at agree
  exact agree.symm.trans inside.symm

/-- After room was made in a bucket, all other numbers have the patterns that they had. -/
theorem Aligned.hasPattern_grown_iff (aligned : table.Aligned)
    (named : table.directory[slot]? = some id) (found : table.buckets[id]? = some bucket) :
    (table.grown hash id bucket).HasPattern depth (number % 2 ^ depth) ↔
      if number % 2 ^ bucket.depth = slot % 2 ^ bucket.depth then depth = bucket.depth + 1
      else table.HasPattern depth (number % 2 ^ depth) := by
  have grownAligned := aligned.grown found hash
  split
  · rename_i inside
    have deeper : (table.grown hash id bucket).HasPattern (bucket.depth + 1)
        (number % 2 ^ (bucket.depth + 1)) := aligned.hasPattern_grown_self named found inside
    constructor
    · intro has
      exact grownAligned.depth_unique has deeper
    · rintro rfl
      exact deeper
  · rename_i outside
    have former : ∀ {level}, (table.grown hash id bucket).HasPattern level (number % 2 ^ level) →
        table.HasPattern level (number % 2 ^ level) := by
      intro level has
      rcases aligned.hasPattern_of_grown found has with old | ⟨rfl, namer, namerNamed, agree⟩
      · exact old
      · have sameBucket := (aligned.alias_iff named found (aligned.slot_lt namerNamed)).mp namerNamed
        rw [mod_mod_two_pow number (Nat.le_succ bucket.depth)] at agree
        exact absurd (agree.symm.trans sameBucket.symm) outside
    constructor
    · exact former
    · intro has
      obtain ⟨level, grownHas⟩ := grownAligned.exists_hasPattern number
      obtain rfl := aligned.depth_unique has (former grownHas)
      exact grownHas

theorem Structured.hasPattern_grown_iff_of_route (structured : table.Structured) {key : κ}
    (routed : table.route hash key = .ok (id, bucket)) :
    (table.grown hash id bucket).HasPattern depth (number % 2 ^ depth) ↔
      if number % 2 ^ bucket.depth = (hash key).toNat % 2 ^ bucket.depth then
        depth = bucket.depth + 1
      else table.HasPattern depth (number % 2 ^ depth) := by
  rcases (route_eq_ok_iff structured.globalDepth_le).mp routed with ⟨named, found⟩
  rw [structured.aligned.hasPattern_grown_iff named found,
    mod_mod_two_pow _ (structured.aligned.depth_le found)]

end Growth

/-- Two tables that show the same shape. -/
structure SameShape (table other : Table κ ν) : Prop where
  globalDepth_eq : table.globalDepth = other.globalDepth
  bucketCount_eq : table.bucketCount = other.bucketCount
  localDepth_eq : ∀ slot, table.localDepth slot = other.localDepth slot

/-- Tables whose buckets have the same patterns show the same shape. -/
theorem Structured.sameShape (structured : table.Structured) (otherStructured : other.Structured)
    (patterns : ∀ depth pattern, table.HasPattern depth pattern ↔ other.HasPattern depth pattern) :
    table.SameShape other := by
  have globalDepth_eq : table.globalDepth = other.globalDepth := by
    have greatest := structured.isGreatest_globalDepth
    simp only [patterns] at greatest
    exact greatest.unique otherStructured.isGreatest_globalDepth
  constructor
  case globalDepth_eq => exact globalDepth_eq
  case bucketCount_eq =>
    have forks : ∀ depth pattern, table.Fork depth pattern ↔ other.Fork depth pattern := by
      intro depth pattern
      simp only [Fork, patterns]
    have count := structured.aligned.encard_forks_add_one
    simp only [forks] at count
    exact Nat.cast_injective (count.symm.trans otherStructured.aligned.encard_forks_add_one)
  case localDepth_eq =>
    intro slot
    by_cases inside : slot < 2 ^ table.globalDepth
    · obtain ⟨depth, has⟩ := structured.aligned.exists_hasPattern slot
      rw [(structured.aligned.localDepth_eq_ok_iff inside).mpr has]
      rw [globalDepth_eq] at inside
      exact ((otherStructured.aligned.localDepth_eq_ok_iff inside).mpr
        ((patterns _ _).mp has)).symm
    · have outside := Nat.le_of_not_lt inside
      rw [structured.aligned.localDepth_of_outside outside]
      rw [globalDepth_eq] at outside
      rw [otherStructured.aligned.localDepth_of_outside outside]

end PageBuffer.Table
