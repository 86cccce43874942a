import Mathlib.Data.Set.Card
import PageBuffer.Proofs.Table.Routing

/-!
What the structural check of a table can find.

Whatever hash functions a table was built under, only one rule can be broken: that keys stand where
the current hash function routes them.  It is unbroken exactly if as many keys are found as entries
are stored.
-/

namespace PageBuffer.Table

variable {κ ν : Type} {table : Table κ ν} {hash : HashFunction κ} {id slot : Nat}
  {bucket : Bucket κ ν}

section Search

variable {ε α β : Type} {check : α → Except ε (Option β)} {list before after : List α} {item : α}
  {result : β}

theorem findSomeM?_of_passed (passed : ∀ item ∈ list, check item = .ok none) :
    list.findSomeM? check = .ok none := by
  induction list with
  | nil => rfl
  | cons head tail inductionHypothesis =>
      have tailPassed : ∀ item ∈ tail, check item = .ok none :=
        fun item inTail => passed item (List.mem_cons_of_mem head inTail)
      simp [List.findSomeM?, passed head List.mem_cons_self, bind, Except.bind,
        inductionHypothesis tailPassed]

theorem findSomeM?_of_first (passed : ∀ item ∈ before, check item = .ok none)
    (hit : check item = .ok (some result)) :
    (before ++ item :: after).findSomeM? check = .ok (some result) := by
  induction before with
  | nil => simp [List.findSomeM?, hit, bind, Except.bind, pure, Except.pure]
  | cons head tail inductionHypothesis =>
      have tailPassed : ∀ item ∈ tail, check item = .ok none :=
        fun item inTail => passed item (List.mem_cons_of_mem head inTail)
      simp [List.findSomeM?, passed head List.mem_cons_self, bind, Except.bind,
        inductionHypothesis tailPassed]

end Search

/-- Every stored key with the number of its bucket. -/
def places (table : Table κ ν) : List (Nat × κ) :=
  table.buckets.toList.zipIdx.flatMap fun (bucket, id) => bucket.keys.map (id, ·)

theorem mem_places {key : κ} : (id, key) ∈ table.places ↔
    ∃ bucket, table.buckets[id]? = some bucket ∧ key ∈ bucket.keys := by
  simp only [places, List.mem_flatMap, Prod.exists, List.mem_zipIdx_iff_getElem?,
    Array.getElem?_toList, List.mem_map, Prod.mk.injEq]
  constructor
  · rintro ⟨bucket, other, found, present, stored, rfl, rfl⟩
    exact ⟨bucket, found, stored⟩
  · rintro ⟨bucket, found, stored⟩
    exact ⟨bucket, id, found, key, stored, rfl, rfl⟩

theorem length_places (table : Table κ ν) : table.places.length = table.entries.length := by
  have sizes : table.places.length =
      (table.buckets.toList.zipIdx.map fun item => item.1.entries.length).sum := by
    simp [places, List.length_flatMap]
  rw [sizes, entries, List.length_flatMap]
  conv_rhs => rw [← List.zipIdx_map_fst 0 table.buckets.toList, List.map_map]
  rfl

/-- The slot's bucket holds a key whose hash differs from the slot in the bits that the bucket goes
by. -/
def HoldsStray (hash : HashFunction κ) (table : Table κ ν) (slot : Nat) : Prop :=
  ∃ id bucket, table.bucketAt slot = .ok (id, bucket) ∧
    ∃ key ∈ bucket.keys, (hash key).toNat % 2 ^ bucket.depth ≠ slot % 2 ^ bucket.depth

theorem routed_iff_forall_not_holdsStray :
    table.Routed hash ↔ ∀ slot, ¬ table.HoldsStray hash slot := by
  constructor
  · rintro routed slot ⟨id, bucket, named, key, stored, stray⟩
    rw [bucketAt_eq_ok_iff] at named
    exact stray (routed slot id bucket named.1 named.2 key stored)
  · intro noStray slot id bucket named found key stored
    by_contra stray
    exact noStray slot
      ⟨id, bucket, bucketAt_eq_ok_iff.mpr ⟨named, found⟩, key, stored, stray⟩

/-- Keys are routed exactly if each stands in the bucket that it routes to. -/
theorem Structured.routed_iff_route (structured : table.Structured) :
    table.Routed hash ↔ ∀ (id : Nat) (bucket : Bucket κ ν), table.buckets[id]? = some bucket →
      ∀ key ∈ bucket.keys, table.route hash key = .ok (id, bucket) := by
  constructor
  · intro routed id bucket found key stored
    exact routed.route_of_mem structured found stored
  · intro atHome slot id bucket named found key stored
    have keyNamed :=
      ((route_eq_ok_iff structured.globalDepth_le).mp (atHome id bucket found key stored)).1
    have agree := (structured.aligned.alias_iff named found
      (structured.aligned.slot_lt keyNamed)).mp keyNamed
    rw [agree, Nat.mod_mod_of_dvd _
      (Nat.pow_dvd_pow 2 (structured.aligned.depth_le found))]

section Checks

variable (structured : table.Structured)

include structured

theorem Structured.auditDirectory_eq : table.auditDirectory = .ok none := by
  have narrow := Nat.lt_succ_of_le structured.globalDepth_le
  simp [auditDirectory, powerOfTwo_of_lt narrow, structured.aligned.size_directory, bind,
    Except.bind, pure, Except.pure]

theorem Structured.auditLength_eq : table.auditLength = none := by
  rw [auditLength, if_pos structured.len_eq.symm]

theorem Structured.auditBucket_eq (found : table.buckets[id]? = some bucket) :
    table.auditBucket id bucket = .ok none := by
  have shallow := structured.aligned.depth_le found
  have narrow : table.globalDepth - bucket.depth < 64 := by
    have := structured.globalDepth_le
    omega
  have slots := structured.aligned.count_directory found
  have named : 2 ^ (table.globalDepth - bucket.depth) ≠ 0 := (Nat.two_pow_pos _).ne'
  have fits := Nat.not_lt.mpr (structured.fits found)
  simp only [auditBucket, slots, if_neg named, minus_of_le shallow, powerOfTwo_of_lt narrow, bind,
    Except.bind, pure, Except.pure, ne_eq, not_true_eq_false, if_false, if_neg fits]

/-- Of the rules about slots only that on keys can be broken. -/
theorem Structured.auditSlot_eq (found : table.buckets[id]? = some bucket) :
    table.auditSlot hash slot id =
      .ok (if bucket.entries.any fun entry =>
        (hash entry.1).toNat % 2 ^ bucket.depth ≠ slot % 2 ^ bucket.depth
      then some (.misrouted slot id) else none) := by
  have shallow := structured.aligned.depth_le found
  have narrow := Nat.lt_succ_of_le (Nat.le_trans shallow structured.globalDepth_le)
  simp only [auditSlot, found, if_neg (Nat.not_lt.mpr shallow), powerOfTwo_of_lt narrow, bind,
    Except.bind, pure, Except.pure]

theorem Structured.auditSlot_of_stray (stray : table.HoldsStray hash slot)
    (named : table.directory[slot]? = some id) :
    table.auditSlot hash slot id = .ok (some (.misrouted slot id)) := by
  rcases stray with ⟨other, bucket, otherNamed, key, stored, strays⟩
  rw [bucketAt_eq_ok_iff, named, Option.some.injEq] at otherNamed
  rcases otherNamed with ⟨rfl, found⟩
  rcases List.mem_map.mp stored with ⟨entry, inEntries, rfl⟩
  rw [structured.auditSlot_eq found, if_pos]
  rw [List.any_eq_true]
  exact ⟨entry, inEntries, decide_eq_true strays⟩

theorem Structured.auditSlot_of_not_stray (clean : ¬ table.HoldsStray hash slot)
    (named : table.directory[slot]? = some id) : table.auditSlot hash slot id = .ok none := by
  rcases structured.aligned.named named with ⟨bucket, found⟩
  rw [structured.auditSlot_eq found, if_neg]
  intro someStray
  rcases List.any_eq_true.mp someStray with ⟨entry, inEntries, strays⟩
  exact clean ⟨id, bucket, bucketAt_eq_ok_iff.mpr ⟨named, found⟩, entry.1,
    Bucket.mem_keys_of_mem_entries inEntries, of_decide_eq_true strays⟩

/-- The check comes to what it finds slot by slot. -/
theorem Structured.audit_eq_of_slots {violation : Option Violation}
    (slots : (table.directory.toList.zipIdx.findSomeM? fun (id, slot) =>
      table.auditSlot hash slot id) = .ok violation) :
    table.audit hash = .ok violation := by
  have buckets : (table.buckets.toList.zipIdx.findSomeM? fun (bucket, id) =>
      table.auditBucket id bucket) = .ok none := by
    apply findSomeM?_of_passed
    rintro ⟨bucket, id⟩ member
    rw [List.mem_zipIdx_iff_getElem?, Array.getElem?_toList] at member
    exact structured.auditBucket_eq member
  rw [audit, slots, buckets, structured.auditDirectory_eq, structured.auditLength_eq]
  cases violation <;> rfl

theorem Structured.audit_of_routed (routed : table.Routed hash) :
    table.audit hash = .ok none := by
  apply structured.audit_eq_of_slots
  apply findSomeM?_of_passed
  rintro ⟨id, slot⟩ member
  rw [List.mem_zipIdx_iff_getElem?, Array.getElem?_toList] at member
  exact structured.auditSlot_of_not_stray (routed_iff_forall_not_holdsStray.mp routed slot) member

/-- The first slot that holds a stray key is the one reported. -/
theorem Structured.audit_of_stray (first : IsLeast {slot | table.HoldsStray hash slot} slot)
    (named : table.directory[slot]? = some id) :
    table.audit hash = .ok (some (.misrouted slot id)) := by
  apply structured.audit_eq_of_slots
  have inside : slot < table.directory.toList.zipIdx.length := by
    simpa using (Array.getElem?_eq_some_iff.mp named).1
  have atSlot : table.directory.toList.zipIdx[slot] = (id, slot) := by
    rw [List.getElem_zipIdx, Nat.zero_add, Array.getElem_toList,
      (Array.getElem?_eq_some_iff.mp named).2]
  rw [← List.take_append_drop slot table.directory.toList.zipIdx, List.drop_eq_getElem_cons inside,
    atSlot]
  apply findSomeM?_of_first
  case hit => exact structured.auditSlot_of_stray first.1 named
  case passed =>
    rintro ⟨target, earlier⟩ member
    rcases List.mem_take_iff_getElem.mp member with ⟨index, before, atIndex⟩
    rw [List.getElem_zipIdx, Nat.zero_add, Prod.mk.injEq] at atIndex
    rcases atIndex with ⟨atTarget, rfl⟩
    have earlierNamed : table.directory[index]? = some target := by
      rw [← Array.getElem?_toList, List.getElem?_eq_some_iff]
      exact ⟨by simpa using (Nat.lt_min.mp before).2, atTarget⟩
    apply structured.auditSlot_of_not_stray _ earlierNamed
    intro stray
    have := first.2 stray
    omega

/-- The check finds nothing in a table whose keys are routed, and else the first stray key. -/
theorem Structured.audit_cases (hash : HashFunction κ) :
    (table.Routed hash ∧ table.audit hash = .ok none) ∨
      ∃ slot id, IsLeast {slot | table.HoldsStray hash slot} slot ∧
        table.directory[slot]? = some id ∧ table.audit hash = .ok (some (.misrouted slot id)) := by
  classical
  by_cases astray : ∃ slot, table.HoldsStray hash slot
  · right
    have least : IsLeast {slot | table.HoldsStray hash slot} (Nat.find astray) :=
      ⟨Nat.find_spec astray, fun _ stray => Nat.find_min' astray stray⟩
    obtain ⟨id, bucket, named, _⟩ := least.1
    have atSlot := (bucketAt_eq_ok_iff.mp named).1
    exact ⟨_, id, least, atSlot, structured.audit_of_stray least atSlot⟩
  · left
    have routed := routed_iff_forall_not_holdsStray.mpr (not_exists.mp astray)
    exact ⟨routed, structured.audit_of_routed routed⟩

end Checks

section Counting

theorem encard_mem_of_nodup {α : Type} {list : List α} (distinct : list.Nodup) :
    {item | item ∈ list}.encard = list.length := by
  classical
  rw [← List.toFinset_card_of_nodup distinct, ← Set.encard_coe_eq_coe_finsetCard,
    List.coe_toFinset]

theorem Structured.nodup_places (structured : table.Structured) : table.places.Nodup := by
  rw [places, List.nodup_flatMap]
  constructor
  · rintro ⟨bucket, id⟩ member
    rw [List.mem_zipIdx_iff_getElem?, Array.getElem?_toList] at member
    refine List.Nodup.map ?_ (structured.distinct member)
    intro one other same
    exact (Prod.mk.inj same).2
  · have indices := List.pairwise_lt_range' (s := 0) (n := table.buckets.toList.length)
    rw [← List.zipIdx_map_snd, List.pairwise_map] at indices
    refine indices.imp ?_
    rintro ⟨one, first⟩ ⟨other, second⟩ before place inOne inOther
    rcases List.mem_map.mp inOne with ⟨_, _, rfl⟩
    rcases List.mem_map.mp inOther with ⟨_, _, same⟩
    exact Nat.ne_of_gt before (Prod.mk.inj same).1

/-- The number of the bucket that a key's slot names. -/
def home (hash : HashFunction κ) (table : Table κ ν) (key : κ) : Nat :=
  table.directory.getD ((hash key).toNat % 2 ^ table.globalDepth) 0

theorem Structured.home_eq (structured : table.Structured) {key : κ}
    (routed : table.route hash key = .ok (id, bucket)) : table.home hash key = id := by
  have named := ((route_eq_ok_iff structured.globalDepth_le).mp routed).1
  rw [home, Array.getD_eq_getD_getElem?, named]
  rfl

theorem Structured.routed_iff_home (structured : table.Structured) :
    table.Routed hash ↔ ∀ place ∈ table.places, table.home hash place.2 = place.1 := by
  rw [structured.routed_iff_route]
  constructor
  · rintro atHome ⟨id, key⟩ member
    rcases mem_places.mp member with ⟨bucket, found, stored⟩
    exact structured.home_eq (atHome id bucket found key stored)
  · intro atHome id bucket found key stored
    obtain ⟨homeId, homeBucket, routed, homeFound⟩ := structured.exists_route hash key
    have same := atHome (id, key) (mem_places.mpr ⟨bucket, found, stored⟩)
    rw [structured.home_eq routed] at same
    subst same
    rw [homeFound, Option.some.injEq] at found
    rw [routed, found]

variable [DecidableEq κ]

/-- The keys that a look-up finds. -/
def foundKeys (hash : HashFunction κ) (table : Table κ ν) : Set κ :=
  {key | ∃ value, table.find hash key = .ok (some value)}

theorem mem_foundKeys_iff {key : κ} (routed : table.route hash key = .ok (id, bucket)) :
    key ∈ table.foundKeys hash ↔ key ∈ bucket.keys := by
  simp only [foundKeys, Set.mem_ofPred_eq, find_of_route routed, Except.ok.injEq]
  rw [← Option.isSome_iff_exists, Option.isSome_iff_ne_none, ne_eq,
    Bucket.find?_eq_none_iff_not_mem_keys, not_not]

/-- A key is found if it stands at home, so the keys found are as many as the places that are the
homes of their keys. -/
theorem Structured.image_foundKeys (structured : table.Structured) (hash : HashFunction κ) :
    (fun key => (table.home hash key, key)) '' table.foundKeys hash =
      {place | place ∈ table.places ∧ table.home hash place.2 = place.1} := by
  ext ⟨id, key⟩
  obtain ⟨homeId, homeBucket, routed, found⟩ := structured.exists_route hash key
  have atHome := structured.home_eq routed
  simp only [Set.mem_image, Prod.mk.injEq, Set.mem_ofPred_eq, mem_places]
  constructor
  · rintro ⟨key, member, rfl, rfl⟩
    rw [atHome]
    exact ⟨⟨homeBucket, found, (mem_foundKeys_iff routed).mp member⟩, rfl⟩
  · rintro ⟨⟨bucket, bucketFound, stored⟩, rfl⟩
    rw [atHome, found, Option.some.injEq] at bucketFound
    subst bucketFound
    exact ⟨key, (mem_foundKeys_iff routed).mpr stored, rfl, rfl⟩

/-- Every entry stands where its key routes exactly if as many keys are found as entries are
stored. -/
theorem Structured.routed_iff_encard (structured : table.Structured) (hash : HashFunction κ) :
    table.Routed hash ↔ (table.foundKeys hash).encard = table.len := by
  have inject : Set.InjOn (fun key => (table.home hash key, key)) (table.foundKeys hash) :=
    fun _ _ _ _ same => (Prod.mk.inj same).2
  have all : {place | place ∈ table.places}.encard = table.len := by
    rw [structured.len_eq, ← length_places, encard_mem_of_nodup structured.nodup_places]
  have atHome : {place | place ∈ table.places ∧ table.home hash place.2 = place.1} ⊆
      {place | place ∈ table.places} := fun _ member => member.1
  rw [← inject.encard_image, structured.image_foundKeys, ← all, structured.routed_iff_home]
  constructor
  · intro everywhere
    congr 1
    ext place
    exact and_iff_left_of_imp (everywhere place)
  · intro sameCount place member
    have finite : {place | place ∈ table.places ∧ table.home hash place.2 = place.1}.Finite :=
      (List.finite_toSet table.places).subset atHome
    have same := finite.eq_of_subset_of_encard_le atHome sameCount.ge
    have inAll : place ∈ {place | place ∈ table.places} := member
    rw [← same] at inAll
    exact inAll.2

end Counting

variable [DecidableEq κ]

/-- Let any run have led to a table, hash functions changing between its calls, and let any hash
function be current now.  The check finds nothing exactly if as many keys are found as entries are
counted, and exactly if every entry stands in the bucket that its key routes to.  Otherwise it
reports the first slot whose bucket holds a stray key, and that is all it ever reports. -/
theorem audit_after_any_history {bucketSize : Nat} {fresh : Table κ ν}
    (created : create bucketSize = .ok fresh) (steps : List (HashFunction κ × Call κ ν))
    (hash : HashFunction κ) :
    let table := Run.finalState performHashed fresh steps
    (table.audit hash = .ok none ↔ (table.foundKeys hash).encard = table.len) ∧
      (table.audit hash = .ok none ↔ ∀ (id : Nat) bucket, table.buckets[id]? = some bucket →
        ∀ entry ∈ bucket.entries, table.route hash entry.1 = .ok (id, bucket)) ∧
      (table.audit hash ≠ .ok none → ∃ slot id, IsLeast {slot | table.HoldsStray hash slot} slot ∧
        table.directory[slot]? = some id ∧
        table.audit hash = .ok (some (.misrouted slot id)) ∧
        (Violation.misrouted slot id).toError = .invariant
          s!"slot {slot} routes to bucket {id} holding a key outside its range") := by
  intro table
  have structured : table.Structured := ((structured_create created).finalState steps).1
  rcases structured.audit_cases hash with ⟨routed, silent⟩ | ⟨slot, id, first, named, reported⟩
  · refine ⟨?_, ?_, fun loud => absurd silent loud⟩
    · simpa [silent] using (structured.routed_iff_encard hash).mp routed
    · simp only [silent, true_iff]
      intro id bucket found entry stored
      exact structured.routed_iff_route.mp routed id bucket found entry.1
        (Bucket.mem_keys_of_mem_entries stored)
  · have loud : table.audit hash ≠ .ok none := by simp [reported]
    have astray : ¬ table.Routed hash := fun routed =>
      routed_iff_forall_not_holdsStray.mp routed slot first.1
    refine ⟨iff_of_false loud ?_, iff_of_false loud ?_,
      fun _ => ⟨slot, id, first, named, reported, rfl⟩⟩
    · rwa [← structured.routed_iff_encard hash]
    · intro atHome
      apply astray
      rw [structured.routed_iff_route]
      intro id bucket found key stored
      rcases List.mem_map.mp stored with ⟨entry, inEntries, rfl⟩
      exact atHome id bucket found entry inEntries

/-- Two keys in two buckets, and then a hash function that has their lowest bits the other way
round: neither key is found, and the check names the first slot. -/
theorem audit_after_swapped_bits :
    let fresh : Table Nat Nat := { bucketSize := 1 }
    let plain : HashFunction Nat := fun key => UInt64.ofNat key
    let swapped : HashFunction Nat := fun key => UInt64.ofNat key ^^^ 1
    let steps : List (HashFunction Nat × Call Nat Nat) :=
      [(plain, .insert 0 5), (plain, .insert 1 6)]
    let table := Run.finalState performHashed fresh steps
    create 1 = .ok fresh ∧ (table.foundKeys plain).encard = table.len ∧
      (table.foundKeys swapped).encard ≠ table.len ∧
      table.audit swapped = .ok (some (.misrouted 0 0)) ∧
      IsLeast {slot | table.HoldsStray swapped slot} 0 := by
  intro fresh plain swapped steps table
  have created : create 1 = .ok fresh := rfl
  have before := audit_after_any_history created steps plain
  have after := audit_after_any_history created steps swapped
  have silent : table.audit plain = .ok none := by decide +kernel
  have reported : table.audit swapped = .ok (some (.misrouted 0 0)) := by decide +kernel
  have loud : table.audit swapped ≠ .ok none := by simp [reported]
  refine ⟨created, before.1.mp silent, fun same => loud (after.1.mpr same), reported, ?_⟩
  obtain ⟨slot, id, first, named, reportedToo, _⟩ := after.2.2 loud
  rw [show Run.finalState performHashed fresh steps = table from rfl, reported] at reportedToo
  cases reportedToo
  exact first

end PageBuffer.Table
