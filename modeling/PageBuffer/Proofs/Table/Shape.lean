import PageBuffer.Proofs.Table.Patterns
import PageBuffer.Proofs.Table.Refinement

/-!
The shape of a table as the high-water mark of its contents.

Buckets are split and never merged, so a pattern that was once crowded stays forked.  Nothing else
forks it: a bucket goes by as many bits as it takes for its pattern never to have been crowded.
-/

namespace PageBuffer.Table

variable {κ ν : Type} {hash : HashFunction κ} {few many depth pattern room : Nat} {list : List κ}
  {table other next final : Table κ ν} {moments : List (Table κ ν)}

section Keys

/-- All stored keys. -/
def keys (table : Table κ ν) : List κ :=
  table.entries.map (·.1)

theorem mem_keys_iff {key : κ} : key ∈ table.keys ↔
    ∃ (id : Nat) (bucket : Bucket κ ν), table.buckets[id]? = some bucket ∧ key ∈ bucket.keys := by
  simp only [keys, List.mem_map, mem_entries_iff, Bucket.keys]
  constructor
  · rintro ⟨entry, ⟨id, bucket, found, stored⟩, rfl⟩
    exact ⟨id, bucket, found, entry, stored, rfl⟩
  · rintro ⟨id, bucket, found, entry, stored, rfl⟩
    exact ⟨entry, ⟨id, bucket, found, stored⟩, rfl⟩

theorem Routed.nodup_keys (routed : table.Routed hash) (structured : table.Structured) :
    table.keys.Nodup := by
  rw [keys, entries, List.map_flatMap, List.nodup_flatMap]
  constructor
  · intro bucket stored
    rcases Array.mem_iff_getElem?.mp (Array.mem_toList_iff.mp stored) with ⟨id, found⟩
    exact structured.distinct found
  · rw [List.pairwise_iff_getElem]
    intro one other oneInside otherInside before key inOne inOther
    refine Nat.ne_of_lt before (routed.id_unique structured ?_ ?_ inOne inOther)
    · rw [← Array.getElem?_toList, List.getElem?_eq_getElem oneInside]
    · rw [← Array.getElem?_toList, List.getElem?_eq_getElem otherInside]

/-- The keys of a slot's bucket are all those that are stored with the slot's pattern. -/
theorem Routed.mem_bucket_keys_iff (routed : table.Routed hash) (structured : table.Structured)
    {slot id : Nat} {bucket : Bucket κ ν} (named : table.directory[slot]? = some id)
    (found : table.buckets[id]? = some bucket) {key : κ} :
    key ∈ bucket.keys ↔
      key ∈ table.keys ∧ (hash key).toNat % 2 ^ bucket.depth = slot % 2 ^ bucket.depth := by
  have aligned := structured.aligned
  constructor
  · intro stored
    exact ⟨mem_keys_iff.mpr ⟨id, bucket, found, stored⟩,
      routed slot id bucket named found key stored⟩
  · rintro ⟨inTable, agree⟩
    rcases mem_keys_iff.mp inTable with ⟨other, present, presentFound, stored⟩
    have home := (route_eq_ok_iff structured.globalDepth_le).mp
      (routed.route_of_mem structured presentFound stored)
    have here := aligned.directory_of_agree named found
      (Nat.mod_lt (hash key).toNat (Nat.two_pow_pos table.globalDepth))
      (by rw [mod_mod_two_pow _ (aligned.depth_le found), agree])
    rw [here, Option.some.injEq] at home
    obtain rfl := home.1
    rw [found, Option.some.injEq] at presentFound
    rwa [presentFound]

theorem Routed.mem_bucket_keys_iff_of_route (routed : table.Routed hash)
    (structured : table.Structured) {id : Nat} {bucket : Bucket κ ν} {key other : κ}
    (keyRouted : table.route hash key = .ok (id, bucket)) :
    other ∈ bucket.keys ↔ other ∈ table.keys ∧
      (hash other).toNat % 2 ^ bucket.depth = (hash key).toNat % 2 ^ bucket.depth := by
  rcases (route_eq_ok_iff structured.globalDepth_le).mp keyRouted with ⟨named, found⟩
  rw [routed.mem_bucket_keys_iff structured named found,
    mod_mod_two_pow _ (structured.aligned.depth_le found)]

theorem Routed.crowd_le (routed : table.Routed hash) (structured : table.Structured)
    (has : table.HasPattern depth pattern) :
    crowd hash table.keys depth pattern ≤ table.bucketSize := by
  rcases has with ⟨slot, id, bucket, named, found, rfl, rfl⟩
  have inBucket : (table.keys.filter fun key => (hash key).toNat % 2 ^ bucket.depth =
      slot % 2 ^ bucket.depth) ⊆ bucket.keys := by
    intro key member
    simp only [List.mem_filter, decide_eq_true_eq] at member
    exact (routed.mem_bucket_keys_iff structured named found).mpr member
  have atMost := ((routed.nodup_keys structured).filter _).length_le_of_subset inBucket
  rw [← List.countP_eq_length_filter, Bucket.length_keys] at atMost
  exact atMost.trans (structured.fits found)

variable [DecidableEq κ] {key : κ} {value : ν}

theorem Routed.mem_keys_iff_find (routed : table.Routed hash) (structured : table.Structured) :
    key ∈ table.keys ↔ ∃ value, table.find hash key = .ok (some value) := by
  constructor
  · intro stored
    rcases List.mem_map.mp stored with ⟨entry, inTable, rfl⟩
    exact ⟨entry.2, routed.find_of_mem structured inTable⟩
  · rintro ⟨value, answered⟩
    exact List.mem_map.mpr ⟨_, structured.mem_entries_of_find answered, rfl⟩

/-- Tables with the same look-ups store the same keys. -/
theorem Routed.perm_keys (routed : table.Routed hash) (structured : table.Structured)
    (otherRouted : other.Routed hash) (otherStructured : other.Structured)
    (same : ∀ key, table.find hash key = other.find hash key) :
    table.keys.Perm other.keys := by
  rw [List.perm_ext_iff_of_nodup (routed.nodup_keys structured)
    (otherRouted.nodup_keys otherStructured)]
  intro key
  rw [routed.mem_keys_iff_find structured, otherRouted.mem_keys_iff_find otherStructured, same]

theorem Routed.len_eq_len (routed : table.Routed hash) (structured : table.Structured)
    (otherRouted : other.Routed hash) (otherStructured : other.Structured)
    (same : ∀ key, table.find hash key = other.find hash key) : table.len = other.len := by
  have lengths := (routed.perm_keys structured otherRouted otherStructured same).length_eq
  rw [keys, keys, List.length_map, List.length_map] at lengths
  rw [structured.len_eq, otherStructured.len_eq, lengths]

theorem Inserts.mem_keys_iff (inserts : Inserts hash key value table final)
    (structured : table.Structured) (routed : table.Routed hash) {other : κ} :
    other ∈ final.keys ↔ other = key ∨ other ∈ table.keys := by
  rw [(routed.inserts structured inserts).mem_keys_iff_find (inserts.structured structured),
    routed.mem_keys_iff_find structured, inserts.find structured]
  by_cases same : other = key <;> simp [same]

end Keys

section Peak

/-- A longer pattern is crowded no more than its end. -/
theorem crowd_le_crowd_of_le (le : few ≤ many) :
    crowd hash list many pattern ≤ crowd hash list few (pattern % 2 ^ few) := by
  refine List.countP_mono_left ?_
  intro key _ agree
  simp only [decide_eq_true_eq] at agree ⊢
  rw [← agree, mod_mod_two_pow _ le]

theorem crowd_le_crowd_of_subset {others : List κ} (distinct : list.Nodup)
    (subset : list ⊆ others) :
    crowd hash list depth pattern ≤ crowd hash others depth pattern :=
  (List.subperm_of_subset distinct subset).countP_le _

/-- The most stored keys at any of these moments whose hashes end in these bits. -/
def peak (hash : HashFunction κ) (moments : List (Table κ ν)) (depth pattern : Nat) : Nat :=
  (moments.map fun table => crowd hash table.keys depth pattern).foldr max 0

theorem peak_le_iff : peak hash moments depth pattern ≤ room ↔
    ∀ table ∈ moments, crowd hash table.keys depth pattern ≤ room := by
  induction moments with
  | nil => simp [peak]
  | cons table rest inductionHypothesis =>
      rw [List.forall_mem_cons, ← inductionHypothesis]
      exact Nat.max_le

theorem lt_peak_iff : room < peak hash moments depth pattern ↔
    ∃ table ∈ moments, room < crowd hash table.keys depth pattern := by
  rw [← Nat.not_le, peak_le_iff]
  simp

theorem peak_le_of_le (le : few ≤ many)
    (fits : peak hash moments few (pattern % 2 ^ few) ≤ room) :
    peak hash moments many pattern ≤ room :=
  peak_le_iff.mpr fun table moment =>
    (crowd_le_crowd_of_le le).trans (peak_le_iff.mp fits table moment)

end Peak

section Steps

/-- From one table to the next, buckets are only split, and only where their patterns are crowded
afterwards. -/
def Refines (hash : HashFunction κ) (table next : Table κ ν) : Prop :=
  ∀ depth pattern, next.HasPattern depth pattern →
    ∃ former ≤ depth, table.HasPattern former (pattern % 2 ^ former) ∧
      ∀ level, former ≤ level → level < depth →
        table.bucketSize < crowd hash next.keys level (pattern % 2 ^ level)

theorem Refines.of_hasPattern
    (same : ∀ depth pattern, next.HasPattern depth pattern → table.HasPattern depth pattern) :
    Refines hash table next := by
  intro depth pattern has
  refine ⟨depth, Nat.le_refl depth, ?_, by omega⟩
  rw [Nat.mod_eq_of_lt has.pattern_lt]
  exact same depth pattern has

/-- A split may come first, if its bucket's pattern is crowded afterwards. -/
theorem Refines.of_grown {id : Nat} {bucket : Bucket κ ν}
    (refines : Refines hash (table.grown hash id bucket) final) (aligned : table.Aligned)
    (found : table.buckets[id]? = some bucket)
    (forced : ∀ slot : Nat, table.directory[slot]? = some id →
      table.bucketSize < crowd hash final.keys bucket.depth (slot % 2 ^ bucket.depth)) :
    Refines hash table final := by
  intro depth pattern has
  obtain ⟨former, le, formerHas, crowded⟩ := refines depth pattern has
  rw [bucketSize_grown] at crowded
  rcases aligned.hasPattern_of_grown found formerHas with old | ⟨rfl, slot, named, agree⟩
  · exact ⟨former, le, old, crowded⟩
  · rw [mod_mod_two_pow pattern (Nat.le_succ bucket.depth)] at agree
    refine ⟨bucket.depth, by omega, ⟨slot, id, bucket, named, found, rfl, agree⟩, ?_⟩
    intro level atLeast below
    by_cases first : level = bucket.depth
    · rw [first, ← agree]
      exact forced slot named
    · exact crowded level (by omega) below

/-- How many bits a slot's bucket goes by grows only as far as its patterns are crowded. -/
theorem Refines.localDepth {slot former : Nat} (refines : Refines hash table next)
    (structured : table.Structured) (nextStructured : next.Structured)
    (inside : slot < 2 ^ next.globalDepth)
    (before : table.localDepth (slot % 2 ^ table.globalDepth) = .ok former)
    (after : next.localDepth slot = .ok depth) :
    former ≤ depth ∧ ∀ level, former ≤ level → level < depth →
      table.bucketSize < crowd hash next.keys level (slot % 2 ^ level) := by
  have aligned := structured.aligned
  rw [nextStructured.aligned.localDepth_eq_ok_iff inside] at after
  rw [aligned.localDepth_eq_ok_iff (Nat.mod_lt _ (Nat.two_pow_pos _))] at before
  rw [mod_mod_two_pow slot (aligned.depth_le_of_hasPattern before)] at before
  obtain ⟨earlier, le, has, crowded⟩ := refines depth _ after
  rw [mod_mod_two_pow slot le] at has
  obtain rfl := aligned.depth_unique before has
  refine ⟨le, ?_⟩
  intro level atLeast below
  have := crowded level atLeast below
  rwa [mod_mod_two_pow slot (Nat.le_of_lt below)] at this

variable [DecidableEq κ] {key : κ} {value : ν} {present : Bool}

theorem Removes.hasPattern_iff (removes : Removes hash key table present next)
    (structured : table.Structured) :
    next.HasPattern depth pattern ↔ table.HasPattern depth pattern := by
  cases removes with
  | absent routed absent => rfl
  | erase routed erased =>
      have found := structured.found_of_route routed
      exact hasPattern_setBucket found (Bucket.depth_of_erase? erased) _

theorem Inserts.hasPattern_iff_of_found (inserts : Inserts hash key value table final)
    (structured : table.Structured) {former : ν}
    (answered : table.find hash key = .ok (some former)) :
    final.HasPattern depth pattern ↔ table.HasPattern depth pattern := by
  have notAbsent : ∀ {id : Nat} {bucket : Bucket κ ν}, table.route hash key = .ok (id, bucket) →
      key ∈ bucket.keys := by
    intro id bucket routed
    rw [find_of_route routed] at answered
    by_contra absent
    rw [Bucket.find?_eq_none_iff_not_mem_keys.mpr absent] at answered
    cases answered
  cases inserts with
  | overwrite routed put =>
      have found := structured.found_of_route routed
      exact hasPattern_setBucket found (Bucket.depth_of_put_eq_overwritten put) table.len
  | add routed put => exact absurd (notAbsent routed) (Bucket.put_eq_added put).1
  | grow routed put => exact absurd (notAbsent routed) (Bucket.put_eq_full_iff.mp put).1

theorem Inserts.refines (inserts : Inserts hash key value table final)
    (structured : table.Structured) (routed : table.Routed hash) :
    Refines hash table final := by
  induction inserts with
  | @overwrite table id bucket held keyRouted put =>
      have found := structured.found_of_route keyRouted
      exact .of_hasPattern fun _ _ =>
        (hasPattern_setBucket found (Bucket.depth_of_put_eq_overwritten put) table.len).mp
  | @add table id bucket held keyRouted put =>
      have found := structured.found_of_route keyRouted
      exact .of_hasPattern fun _ _ =>
        (hasPattern_setBucket found (Bucket.depth_of_put_eq_added put) _).mp
  | @grow table final id bucket keyRouted put shallow later inductionHypothesis =>
      have aligned := structured.aligned
      rcases (route_eq_ok_iff structured.globalDepth_le).mp keyRouted with ⟨named, found⟩
      have laterRefines := inductionHypothesis (structured.grown found shallow hash)
        (routed.grown aligned found)
      refine laterRefines.of_grown aligned found ?_
      -- The split is forced by the keys of the full bucket and the one to insert.
      have inserts := Inserts.grow keyRouted put shallow later
      have crowded := routed.lt_crowd_of_full structured keyRouted put (Nat.le_refl _)
        ((inserts.mem_keys_iff structured routed).mpr (.inl rfl)) fun entry stored =>
          (inserts.mem_keys_iff structured routed).mpr (.inr (List.mem_map_of_mem stored))
      intro slot slotNamed
      have agree := (aligned.alias_iff slotNamed found (aligned.slot_lt named)).mp named
      rw [mod_mod_two_pow _ (aligned.depth_le found)] at agree
      rwa [agree]

theorem Routed.refines_perform (routed : table.Routed hash) (structured : table.Structured)
    (call : Call κ ν) : Refines hash table (Table.perform hash call table).state := by
  rcases structured.perform_cases hash call with ⟨_, _, _, inserts⟩ | ⟨_, _, _, removes⟩ | same
  · exact inserts.refines structured routed
  · exact .of_hasPattern fun _ _ => (removes.hasPattern_iff structured).mp
  · rw [same]
    exact .of_hasPattern fun _ _ => id

/-- Only the insertion of a key that is not there changes the shape. -/
theorem Structured.sameShape_perform (structured : table.Structured) {call : Call κ ν}
    (known : ∀ key value, call = .insert key value →
      ∃ former, table.find hash key = .ok (some former)) :
    table.SameShape (Table.perform hash call table).state := by
  refine structured.sameShape (structured.perform hash call).1 ?_
  intro depth pattern
  rcases structured.perform_cases hash call with
    ⟨key, value, isInsert, inserts⟩ | ⟨_, _, _, removes⟩ | same
  · obtain ⟨former, answered⟩ := known key value isInsert
    exact (inserts.hasPattern_iff_of_found structured answered).symm
  · exact (removes.hasPattern_iff structured).symm
  · rw [same]

end Steps

section History

/-- Between its patterns and these moments, which have led to it, a table has lost no split and made
none that was not forced. -/
structure ShapedBy (hash : HashFunction κ) (moments : List (Table κ ν)) (table : Table κ ν) :
    Prop where
  forced : ∀ {depth pattern}, table.HasPattern depth pattern → ∀ level < depth,
    table.bucketSize < peak hash moments level (pattern % 2 ^ level)
  fits : ∀ {depth pattern}, table.HasPattern depth pattern →
    peak hash moments depth pattern ≤ table.bucketSize

namespace ShapedBy

theorem of_fresh (routed : table.Routed hash) (structured : table.Structured)
    (flat : table.globalDepth = 0) : ShapedBy hash [table] table where
  forced has level below := by
    have := structured.aligned.depth_le_of_hasPattern has
    omega
  fits has := by
    rw [peak_le_iff]
    intro moment member
    rw [List.mem_singleton.mp member]
    exact routed.crowd_le structured has

/-- A table keeps the shape that its history gives it through any call. -/
theorem of_refines (shaped : ShapedBy hash moments table) (refines : Refines hash table next)
    (sameSize : next.bucketSize = table.bucketSize) (nextRouted : next.Routed hash)
    (nextStructured : next.Structured) : ShapedBy hash (moments ++ [next]) next where
  forced {depth pattern} has level below := by
    obtain ⟨former, le, formerHas, crowded⟩ := refines depth pattern has
    rw [sameSize, lt_peak_iff]
    by_cases shorter : level < former
    · have earlier := shaped.forced formerHas level shorter
      rw [mod_mod_two_pow pattern (Nat.le_of_lt shorter), lt_peak_iff] at earlier
      rcases earlier with ⟨moment, member, crowded⟩
      exact ⟨moment, List.mem_append_left _ member, crowded⟩
    · exact ⟨next, by simp, crowded level (Nat.le_of_not_lt shorter) below⟩
  fits {depth pattern} has := by
    obtain ⟨former, le, formerHas, _⟩ := refines depth pattern has
    rw [peak_le_iff, sameSize]
    intro moment member
    rcases List.mem_append.mp member with earlier | last
    · exact peak_le_iff.mp (peak_le_of_le le (shaped.fits formerHas)) moment earlier
    · rw [List.mem_singleton.mp last, ← sameSize]
      exact nextRouted.crowd_le nextStructured has

variable (shaped : ShapedBy hash moments table)

include shaped

theorem isLeast_of_hasPattern {number : Nat} (has : table.HasPattern depth (number % 2 ^ depth)) :
    IsLeast {depth | peak hash moments depth (number % 2 ^ depth) ≤ table.bucketSize} depth := by
  refine ⟨shaped.fits has, ?_⟩
  intro level fits
  by_contra below
  have crowded := shaped.forced has level (Nat.lt_of_not_le below)
  rw [mod_mod_two_pow number (Nat.le_of_not_le below)] at crowded
  exact Nat.not_lt.mpr fits crowded

/-- The patterns can be read off the peaks. -/
theorem hasPattern_iff (aligned : table.Aligned) : table.HasPattern depth pattern ↔
    pattern < 2 ^ depth ∧
      IsLeast {depth | peak hash moments depth (pattern % 2 ^ depth) ≤ table.bucketSize} depth := by
  constructor
  · intro has
    refine ⟨has.pattern_lt, shaped.isLeast_of_hasPattern ?_⟩
    rwa [Nat.mod_eq_of_lt has.pattern_lt]
  · rintro ⟨low, least⟩
    obtain ⟨depth, has⟩ := aligned.exists_hasPattern pattern
    obtain rfl := least.unique (shaped.isLeast_of_hasPattern has)
    rwa [Nat.mod_eq_of_lt low] at has

/-- Tables that are shaped by peaks of the same height have the same shape. -/
theorem sameShape {other : Table κ ν} {otherMoments : List (Table κ ν)}
    (structured : table.Structured) (otherShaped : ShapedBy hash otherMoments other)
    (otherStructured : other.Structured) (sameSize : other.bucketSize = table.bucketSize)
    (samePeaks : ∀ depth pattern, peak hash moments depth pattern ≤ table.bucketSize ↔
      peak hash otherMoments depth pattern ≤ table.bucketSize) : table.SameShape other := by
  refine structured.sameShape otherStructured ?_
  intro depth pattern
  rw [shaped.hasPattern_iff structured.aligned, otherShaped.hasPattern_iff otherStructured.aligned,
    sameSize]
  simp only [samePeaks]

theorem isLeast_globalDepth (structured : table.Structured) :
    IsLeast {depth | ∀ pattern < 2 ^ depth, peak hash moments depth pattern ≤ table.bucketSize}
      table.globalDepth := by
  have aligned := structured.aligned
  constructor
  · intro pattern low
    obtain ⟨depth, has⟩ := aligned.exists_hasPattern pattern
    exact peak_le_of_le (aligned.depth_le_of_hasPattern has) (shaped.fits has)
  · intro level fits
    by_contra below
    obtain ⟨pattern, has⟩ := structured.isGreatest_globalDepth.1
    have crowded := shaped.forced has level (Nat.lt_of_not_le below)
    exact Nat.not_lt.mpr (fits _ (Nat.mod_lt pattern (Nat.two_pow_pos level))) crowded

/-- The forks are the patterns that were crowded at some moment. -/
theorem fork_iff (aligned : table.Aligned) : table.Fork depth pattern ↔
    pattern < 2 ^ depth ∧ table.bucketSize < peak hash moments depth pattern := by
  constructor
  · intro fork
    refine ⟨fork.pattern_lt, ?_⟩
    rcases fork with ⟨deeper, whole, has, beyond, rfl⟩
    exact shaped.forced has depth beyond
  · rintro ⟨low, crowded⟩
    obtain ⟨deeper, has⟩ := aligned.exists_hasPattern pattern
    have beyond : depth < deeper := by
      by_contra shallow
      exact Nat.not_lt.mpr (peak_le_of_le (Nat.le_of_not_lt shallow) (shaped.fits has)) crowded
    refine ⟨deeper, _, has, beyond, ?_⟩
    rw [mod_mod_two_pow pattern (Nat.le_of_lt beyond), Nat.mod_eq_of_lt low]

end ShapedBy

variable [DecidableEq κ]

/-- What calls under one hash function keep. -/
theorem Routed.reached (routed : table.Routed hash) (structured : table.Structured)
    (calls : List (Call κ ν)) :
    (Run.finalState (Table.perform hash) table calls).Routed hash ∧
      (Run.finalState (Table.perform hash) table calls).Structured ∧
      (Run.finalState (Table.perform hash) table calls).bucketSize = table.bucketSize := by
  have kept : ∀ (call : Call κ ν) (reached : Table κ ν),
      (reached.Routed hash ∧ reached.Structured ∧ reached.bucketSize = table.bucketSize) →
        (Table.perform hash call reached).state.Routed hash ∧
          (Table.perform hash call reached).state.Structured ∧
          (Table.perform hash call reached).state.bucketSize = table.bucketSize := by
    rintro call reached ⟨reachedRouted, reachedStructured, sameSize⟩
    have step := reachedStructured.perform hash call
    exact ⟨reachedRouted.perform reachedStructured call, step.1, step.2.trans sameSize⟩
  exact Run.finalState_induction (Table.perform hash) kept ⟨routed, structured, rfl⟩ calls

theorem ShapedBy.finalState (shaped : ShapedBy hash moments table)
    (routed : table.Routed hash) (structured : table.Structured) (calls : List (Call κ ν)) :
    ShapedBy hash (moments ++ (Run.outcomes (perform hash) table calls).map (·.state))
      (Run.finalState (perform hash) table calls) := by
  induction calls generalizing table moments with
  | nil => simpa using shaped
  | cons call rest inductionHypothesis =>
      obtain ⟨nextStructured, sameSize⟩ := structured.perform hash call
      have nextRouted := routed.perform structured call
      have nextShaped := shaped.of_refines (routed.refines_perform structured call) sameSize
        nextRouted nextStructured
      simpa using inductionHypothesis nextShaped nextRouted nextStructured

/-- A run from a fresh table leaves one that is shaped by the moments of the run. -/
theorem shapedBy_states {bucketSize : Nat} {fresh : Table κ ν}
    (created : create bucketSize = .ok fresh) (hash : HashFunction κ) (calls : List (Call κ ν)) :
    ShapedBy hash (Run.states (perform hash) fresh calls)
      (Run.finalState (perform hash) fresh calls) := by
  have routed := routed_create created hash
  have structured := structured_create created
  have flat : fresh.globalDepth = 0 := by
    obtain ⟨positive, rfl⟩ := eq_of_create created
    rfl
  exact (ShapedBy.of_fresh routed structured flat).finalState routed structured calls

/-- A shape that is read off the peaks of its patterns. -/
structure AtHighWater (hash : HashFunction κ) (bucketSize : Nat) (moments : List (Table κ ν))
    (table : Table κ ν) : Prop where
  localDepth_isLeast : ∀ slot < 2 ^ table.globalDepth, ∃ depth,
    table.localDepth slot = .ok depth ∧
      IsLeast {depth | peak hash moments depth (slot % 2 ^ depth) ≤ bucketSize} depth
  globalDepth_isLeast :
    IsLeast {depth | ∀ pattern < 2 ^ depth, peak hash moments depth pattern ≤ bucketSize}
      table.globalDepth
  /-- One bucket, and one more for each pair of a depth and a pattern that was too crowded. -/
  bucketCount_eq :
    {pair : Nat × Nat | pair.2 < 2 ^ pair.1 ∧ bucketSize < peak hash moments pair.1 pair.2}.encard +
      1 = table.bucketCount

omit [DecidableEq κ] in
theorem ShapedBy.atHighWater (shaped : ShapedBy hash moments table)
    (structured : table.Structured) : AtHighWater hash table.bucketSize moments table := by
  have aligned := structured.aligned
  constructor
  case localDepth_isLeast =>
    intro slot inside
    obtain ⟨depth, has⟩ := aligned.exists_hasPattern slot
    exact ⟨depth, (aligned.localDepth_eq_ok_iff inside).mpr has, shaped.isLeast_of_hasPattern has⟩
  case globalDepth_isLeast => exact shaped.isLeast_globalDepth structured
  case bucketCount_eq =>
    rw [← aligned.encard_forks_add_one]
    simp only [shaped.fork_iff aligned]

/-- After any run under one hash function the shape is the high-water mark of what was stored.  A
further call changes it only if it inserts a key that is not there, and then only where more keys
than a bucket holds share the bits that a bucket goes by. -/
theorem atHighWater_after_any_run {bucketSize : Nat} {fresh : Table κ ν}
    (created : create bucketSize = .ok fresh) (hash : HashFunction κ) (calls : List (Call κ ν)) :
    let table := Run.finalState (perform hash) fresh calls
    AtHighWater hash bucketSize (Run.states (perform hash) fresh calls) table ∧
      ∀ call, let next := (perform hash call table).state
        ((∀ key value, call = .insert key value →
            ∃ former, table.find hash key = .ok (some former)) → table.SameShape next) ∧
          ∀ slot < 2 ^ next.globalDepth, ∀ former depth,
            table.localDepth (slot % 2 ^ table.globalDepth) = .ok former →
              next.localDepth slot = .ok depth → former ≤ depth ∧
                ∀ level, former ≤ level → level < depth →
                  bucketSize < crowd hash next.keys level (slot % 2 ^ level) := by
  intro table
  obtain ⟨routed, structured, sameSize⟩ :=
    (routed_create created hash).reached (structured_create created) calls
  have freshSize : fresh.bucketSize = bucketSize := by
    obtain ⟨positive, rfl⟩ := eq_of_create created
    rfl
  rw [← freshSize, ← sameSize]
  refine ⟨(shapedBy_states created hash calls).atHighWater structured, ?_⟩
  intro call next
  constructor
  · intro known
    exact structured.sameShape_perform known
  · intro slot inside former depth before after
    exact (routed.refines_perform structured call).localDepth structured
      (structured.perform hash call).1 inside before after

/-- Keys `0` and `4` have once shared two low bits.  Neither is there any more, and the table is
still three levels deep. -/
theorem atHighWater_after_removals :
    let fresh : Table Nat Nat := { bucketSize := 1 }
    let plain : HashFunction Nat := fun key => UInt64.ofNat key
    let calls : List (Call Nat Nat) :=
      [.insert 0 5, .insert 4 6, .insert 4 7, .remove 0, .remove 4, .insert 1 8]
    let table := Run.finalState (perform plain) fresh calls
    create 1 = .ok fresh ∧ AtHighWater plain 1 (Run.states (perform plain) fresh calls) table ∧
      crowd plain table.keys 2 0 = 0 ∧
      peak plain (Run.states (perform plain) fresh calls) 2 0 = 2 ∧
      table.globalDepth = 3 ∧ table.bucketCount = 4 ∧ table.localDepth 5 = .ok 1 := by
  intro fresh plain calls table
  have created : create 1 = .ok fresh := rfl
  have highWater := (atHighWater_after_any_run created plain calls).1
  refine ⟨created, highWater, ?_⟩
  decide +kernel

end History

end PageBuffer.Table
