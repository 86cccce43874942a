import PageBuffer.Proofs.Keyed
import PageBuffer.Proofs.Simulation
import PageBuffer.Proofs.Table.Routing
import PageBuffer.Table.Contents

/-!
A table under one hash function is a finite map.

The map's keys may be crowded: an insertion returns as long as no more of them than fit a bucket
agree on some number of low hash bits, and then the directory is never deeper than that number.
-/

namespace PageBuffer.Table

variable {κ ν : Type}

/-- At most `room` of the keys agree on the low `depth` bits of their hashes, whatever these are. -/
def Sparse (hash : HashFunction κ) (depth room : Nat) (keys : List κ) : Prop :=
  ∀ pattern, keys.countP (fun key => (hash key).toNat % 2 ^ depth = pattern) ≤ room

/-- Only the patterns that the keys have need be looked at. -/
theorem sparse_iff {hash : HashFunction κ} {depth room : Nat} {keys : List κ} :
    Sparse hash depth room keys ↔ ∀ key ∈ keys, keys.countP (fun other =>
      (hash other).toNat % 2 ^ depth = (hash key).toNat % 2 ^ depth) ≤ room := by
  constructor
  · intro sparse key _
    exact sparse _
  · intro own pattern
    by_cases shown : ∃ key ∈ keys, (hash key).toNat % 2 ^ depth = pattern
    · rcases shown with ⟨key, member, rfl⟩
      exact own key member
    · have none : keys.countP (fun key => (hash key).toNat % 2 ^ depth = pattern) = 0 := by
        simpa [List.countP_eq_zero] using shown
      omega

theorem Sparse.of_perm {hash : HashFunction κ} {depth room : Nat} {keys others : List κ}
    (sparse : Sparse hash depth room keys) (perm : keys.Perm others) :
    Sparse hash depth room others := by
  intro pattern
  rw [← perm.countP_eq]
  exact sparse pattern

instance (hash : HashFunction κ) (depth room : Nat) (keys : List κ) :
    Decidable (Sparse hash depth room keys) :=
  decidable_of_iff _ sparse_iff.symm

namespace Contents

def keys (contents : Contents κ ν) : List κ :=
  contents.entries.map (·.1)

variable [DecidableEq κ] {contents : Contents κ ν} {key other : κ} {value : ν}

theorem mem_keys_of_find?_eq_some (found : contents.find? key = some value) :
    key ∈ contents.keys := by
  rcases Option.map_eq_some_iff.mp found with ⟨entry, entryFound, _⟩
  have sameKey : entry.1 = key := by simpa using List.find?_some entryFound
  exact List.mem_map.mpr ⟨entry, List.mem_of_find?_eq_some entryFound, sameKey⟩

theorem find?_eq_none_iff_not_mem_keys : contents.find? key = none ↔ key ∉ contents.keys := by
  simp only [find?, keys, Option.map_eq_none_iff, List.find?_eq_none, List.mem_map,
    decide_eq_true_eq]
  constructor
  · rintro absent ⟨entry, stored, same⟩
    exact absent entry stored same
  · intro absent entry stored same
    exact absent ⟨entry, stored, same⟩

theorem keys_remove : (contents.remove key).keys = contents.keys.filter (· ≠ key) := by
  simp [keys, remove, List.filter_map, Function.comp_def]

theorem keys_insert :
    (contents.insert key value).keys = key :: contents.keys.filter (· ≠ key) := by
  rw [← keys_remove]
  rfl

theorem mem_keys_insert : other ∈ (contents.insert key value).keys ↔
    other = key ∨ other ∈ contents.keys := by
  rw [keys_insert, List.mem_cons, List.mem_filter]
  by_cases same : other = key <;> simp [same]

theorem nodup_keys_remove (distinct : contents.keys.Nodup) (key : κ) :
    (contents.remove key).keys.Nodup := by
  rw [keys_remove]
  exact distinct.filter _

theorem nodup_keys_insert (distinct : contents.keys.Nodup) (key : κ) (value : ν) :
    (contents.insert key value).keys.Nodup := by
  rw [keys_insert, List.nodup_cons]
  exact ⟨by simp, distinct.filter _⟩

/-- A removal takes one entry away if its key is there, and none otherwise. -/
theorem length_remove (distinct : contents.keys.Nodup) (key : κ) :
    contents.entries.length = if (contents.find? key).isSome
      then (contents.remove key).entries.length + 1 else (contents.remove key).entries.length := by
  cases found : contents.entries.find? (·.1 = key) with
  | none =>
      have absent : key ∉ contents.keys := by
        rw [← find?_eq_none_iff_not_mem_keys, find?, found]
        rfl
      have kept : (contents.remove key).entries = contents.entries :=
        Keyed.filter_ne_eq_self absent
      simp [find?, found, kept]
  | some entry =>
      rcases (Keyed.find?_eq_some_iff distinct).mp found with ⟨stored, rfl⟩
      rw [(Keyed.perm_cons_filter distinct stored).length_eq]
      simp [find?, found, remove]

theorem length_insert (distinct : contents.keys.Nodup) (key : κ) (value : ν) :
    (contents.insert key value).entries.length =
      if (contents.find? key).isSome then contents.entries.length
      else contents.entries.length + 1 := by
  have removed := length_remove distinct key
  rw [insert, List.length_cons, removed]
  split
  · rfl
  · rfl

end Contents

variable [DecidableEq κ] {table : Table κ ν} {hash : HashFunction κ} {id depth : Nat}
  {bucket : Bucket κ ν} {keys : List κ} {key : κ} {value : ν}

section Crowding

/-- The keys whose hashes end in these bits. -/
def crowd (hash : HashFunction κ) (keys : List κ) (depth pattern : Nat) : Nat :=
  keys.countP fun key => (hash key).toNat % 2 ^ depth = pattern

/-- The keys of a full bucket, with the one that it has no room for, crowd every pattern that the
bucket goes by. -/
theorem Routed.lt_crowd_of_full (routed : table.Routed hash) (structured : table.Structured)
    (keyRouted : table.route hash key = .ok (id, bucket))
    (put : bucket.put table.bucketSize key value = .full) (shallow : depth ≤ bucket.depth)
    (new : key ∈ keys) (stored : ∀ entry ∈ table.entries, entry.1 ∈ keys) :
    table.bucketSize < crowd hash keys depth ((hash key).toNat % 2 ^ depth) := by
  rcases Bucket.put_eq_full_iff.mp put with ⟨absent, crowded⟩
  rw [route_eq_ok_iff structured.globalDepth_le] at keyRouted
  rcases keyRouted with ⟨named, found⟩
  have agree : ∀ other ∈ bucket.keys,
      (hash other).toNat % 2 ^ depth = (hash key).toNat % 2 ^ depth := by
    intro other inBucket
    have sameSlot := routed _ id bucket named found other inBucket
    rw [Nat.mod_mod_of_dvd _ (Nat.pow_dvd_pow 2 (structured.aligned.depth_le found))] at sameSlot
    exact mod_two_pow_eq_of_le shallow sameSlot
  have agreeing : key :: bucket.keys ⊆
      keys.filter fun other => (hash other).toNat % 2 ^ depth = (hash key).toNat % 2 ^ depth := by
    intro other member
    rcases List.mem_cons.mp member with rfl | inBucket
    · simp [new]
    · rcases List.mem_map.mp inBucket with ⟨entry, inEntries, rfl⟩
      have known := stored entry (mem_entries_iff.mpr ⟨id, bucket, found, inEntries⟩)
      simp [known, agree entry.1 inBucket]
  have distinct : (key :: bucket.keys).Nodup :=
    List.nodup_cons.mpr ⟨absent, structured.distinct found⟩
  have atLeast := distinct.length_le_of_subset agreeing
  rw [List.length_cons, Bucket.length_keys, ← List.countP_eq_length_filter] at atLeast
  exact Nat.lt_of_le_of_lt crowded atLeast

/-- A bucket that is full, and so would have to be split, is not as deep as its keys are sparse. -/
theorem Routed.depth_lt_of_full (routed : table.Routed hash) (structured : table.Structured)
    (keyRouted : table.route hash key = .ok (id, bucket))
    (put : bucket.put table.bucketSize key value = .full)
    (sparse : Sparse hash depth table.bucketSize keys) (new : key ∈ keys)
    (stored : ∀ entry ∈ table.entries, entry.1 ∈ keys) : bucket.depth < depth := by
  by_contra deep
  have crowded :=
    routed.lt_crowd_of_full structured keyRouted put (Nat.le_of_not_lt deep) new stored
  exact Nat.not_lt.mpr (sparse _) crowded

/-- An insertion among sparse keys returns, within as many levels as are left to depth `63`. -/
theorem Routed.exists_insertWithin {table : Table κ ν} {id : Nat} {bucket : Bucket κ ν}
    (levels : Nat) (routed : table.Routed hash) (structured : table.Structured)
    (keyRouted : table.route hash key = .ok (id, bucket)) (room : 63 ≤ bucket.depth + levels)
    (sparse : Sparse hash depth table.bucketSize keys) (shallow : depth ≤ 63) (new : key ∈ keys)
    (stored : ∀ entry ∈ table.entries, entry.1 ∈ keys) :
    ∃ final events, insertWithin hash key value levels table = .ok (final, events) ∧
      final.globalDepth ≤ max table.globalDepth depth := by
  cases put : bucket.put table.bucketSize key value with
  | overwritten held => exact ⟨_, _, insertWithin_of_overwritten keyRouted put, Nat.le_max_left _ _⟩
  | added held => exact ⟨_, _, insertWithin_of_added keyRouted put, Nat.le_max_left _ _⟩
  | full =>
      have below := routed.depth_lt_of_full structured keyRouted put sparse new stored
      have found := structured.found_of_route keyRouted
      have aligned := structured.aligned
      cases levels with
      | zero => omega
      | succ levels =>
          -- The key's own bucket is one level deeper now, so the levels left still reach depth 63.
          have roomier := aligned.route_grown_self structured.globalDepth_le (by omega) keyRouted
          have storedStill : ∀ entry ∈ (table.grown hash id bucket).entries, entry.1 ∈ keys := by
            intro entry inGrown
            exact stored entry ((entries_grown_perm found).mem_iff.mp inGrown)
          rcases exists_insertWithin levels (routed.grown aligned found)
            (structured.grown found (by omega) hash) roomier
            (by simp only [Bucket.half]; omega) (by rwa [bucketSize_grown]) shallow new
            storedStill with ⟨final, events, inserted, bounded⟩
          refine ⟨final, table.growthEvents hash id bucket ++ events, ?_, ?_⟩
          · rw [insertWithin_of_full keyRouted put (by omega), inserted]
            rfl
          · rw [globalDepth_grown aligned found hash] at bounded
            omega
termination_by levels

end Crowding

section Representation

variable {contents : Contents κ ν} {bucketSize : Nat}

/-- A table that stands for a finite map, under a hash function that is not changed. -/
structure Represents (hash : HashFunction κ) (bucketSize depth : Nat) (table : Table κ ν)
    (contents : Contents κ ν) : Prop where
  structured : table.Structured
  routed : table.Routed hash
  distinct : contents.keys.Nodup
  find_eq : ∀ key, table.find hash key = .ok (contents.find? key)
  len_eq : table.len = contents.entries.length
  bucketSize_eq : table.bucketSize = bucketSize
  globalDepth_le : table.globalDepth ≤ depth

theorem represents_create {fresh : Table κ ν} (created : create bucketSize = .ok fresh)
    (hash : HashFunction κ) (depth : Nat) : Represents hash bucketSize depth fresh {} := by
  have structured := structured_create created
  have routed := routed_create created hash
  obtain ⟨positive, rfl⟩ := eq_of_create created
  constructor
  case structured => exact structured
  case routed => exact routed
  case distinct => exact .nil
  case find_eq =>
    intro key
    obtain ⟨answer, answered⟩ := structured.exists_find hash key
    cases answer with
    | none => exact answered
    | some value => cases structured.mem_entries_of_find answered
  case len_eq => exact structured.len_eq
  case bucketSize_eq => rfl
  case globalDepth_le => exact Nat.zero_le depth

namespace Represents

variable (represents : Represents hash bucketSize depth table contents)

include represents

/-- The order of the map's entries is of no account. -/
theorem of_perm {other : Contents κ ν} (perm : contents.entries.Perm other.entries) :
    Represents hash bucketSize depth table other where
  structured := represents.structured
  routed := represents.routed
  distinct := (perm.map _).nodup_iff.mp represents.distinct
  find_eq key := by
    have sameEntry := Keyed.find?_eq_of_perm represents.distinct perm key
    rw [represents.find_eq, Contents.find?, sameEntry, Contents.find?]
  len_eq := represents.len_eq.trans perm.length_eq
  bucketSize_eq := represents.bucketSize_eq
  globalDepth_le := represents.globalDepth_le

theorem mem_keys_of_mem_entries {entry : κ × ν} (stored : entry ∈ table.entries) :
    entry.1 ∈ contents.keys := by
  have found := represents.routed.find_of_mem represents.structured stored
  rw [represents.find_eq] at found
  exact Contents.mem_keys_of_find?_eq_some (Except.ok.inj found)

/-- An insertion into the table returns, and comes to the insertion into the map. -/
theorem exists_insert (shallow : depth ≤ 63)
    (sparse : Sparse hash depth bucketSize (contents.insert key value).keys) :
    ∃ final events, table.insert hash key value = .ok (final, events) ∧
      Represents hash bucketSize depth final (contents.insert key value) := by
  have structured := represents.structured
  have narrow := structured.globalDepth_le
  rw [← represents.bucketSize_eq] at sparse
  obtain ⟨id, bucket, keyRouted, found⟩ := structured.exists_route hash key
  have depthLe : bucket.depth ≤ 63 := Nat.le_trans (structured.aligned.depth_le found) narrow
  have stored : ∀ entry ∈ table.entries, entry.1 ∈ (contents.insert key value).keys := by
    intro entry inTable
    exact Contents.mem_keys_insert.mpr (.inr (represents.mem_keys_of_mem_entries inTable))
  rcases represents.routed.exists_insertWithin (63 - bucket.depth) structured keyRouted (by omega)
    sparse shallow (Contents.mem_keys_insert.mpr (.inl rfl)) stored with
    ⟨final, events, inserted, bounded⟩
  have returned : table.insert hash key value = .ok (final, events) := by
    simpa [insert, keyRouted, bind, Except.bind] using inserted
  have inserts := structured.aligned.inserts_of_insert narrow returned
  refine ⟨final, events, returned, ?_⟩
  constructor
  case structured => exact inserts.structured structured
  case routed => exact represents.routed.inserts structured inserts
  case distinct => exact Contents.nodup_keys_insert represents.distinct key value
  case find_eq =>
    intro other
    rw [inserts.find structured, represents.find_eq, Contents.find?_insert]
    split <;> rfl
  case len_eq =>
    rw [inserts.len structured (represents.find_eq key), represents.len_eq,
      Contents.length_insert represents.distinct]
  case bucketSize_eq => exact inserts.bucketSize_eq.trans represents.bucketSize_eq
  case globalDepth_le =>
    exact bounded.trans (Nat.max_le.mpr ⟨represents.globalDepth_le, Nat.le_refl depth⟩)

/-- A removal from the table comes to the removal from the map. -/
theorem exists_remove (key : κ) :
    ∃ next, table.remove hash key = .ok ((contents.find? key).isSome, next) ∧
      Represents hash bucketSize depth next (contents.remove key) := by
  have structured := represents.structured
  obtain ⟨present, next, removed, removes⟩ := structured.exists_removes hash key
  have answer := removes.present_eq (represents.find_eq key)
  subst answer
  refine ⟨next, removed, ?_⟩
  constructor
  case structured => exact removes.structured structured
  case routed => exact represents.routed.removes structured removes
  case distinct => exact Contents.nodup_keys_remove represents.distinct key
  case find_eq =>
    intro other
    rw [removes.find structured, represents.find_eq, Contents.find?_remove]
    split <;> rfl
  case len_eq =>
    have tableLen := removes.len structured
    have contentsLen := Contents.length_remove represents.distinct key
    rw [represents.len_eq, contentsLen] at tableLen
    split at tableLen <;> omega
  case bucketSize_eq => exact removes.bucketSize_eq.trans represents.bucketSize_eq
  case globalDepth_le => exact removes.globalDepth_eq ▸ represents.globalDepth_le

/-- Each call is answered as by the map, and leaves a table for the map that the call leaves. -/
theorem perform (shallow : depth ≤ 63) {call : Contents.Call κ ν}
    (sparse : ∀ key value, call = .insert key value →
      Sparse hash depth bucketSize (contents.insert key value).keys) :
    Run.Matches (Represents hash bucketSize depth) .ok
      (Table.perform hash call.onTable table) (Contents.perform call contents) := by
  cases call with
  | insert key value =>
      obtain ⟨final, events, inserted, nextRepresents⟩ :=
        represents.exists_insert shallow (sparse key value rfl)
      simp only [Contents.Call.onTable, Table.perform, inserted]
      exact ⟨rfl, nextRepresents⟩
  | find key =>
      refine ⟨?_, represents⟩
      simp [Contents.Call.onTable, Table.perform, represents.find_eq, Contents.perform, Except.map]
  | remove key =>
      obtain ⟨next, removed, nextRepresents⟩ := represents.exists_remove key
      simp only [Contents.Call.onTable, Table.perform, removed]
      exact ⟨rfl, nextRepresents⟩
  | len =>
      refine ⟨?_, represents⟩
      simp [Contents.Call.onTable, Table.perform, represents.len_eq, Contents.perform]
  | isEmpty =>
      refine ⟨?_, represents⟩
      simp only [Contents.Call.onTable, Table.perform, isEmpty, represents.len_eq,
        Contents.perform]
      cases contents.entries <;> rfl

end Represents

end Representation

/-- A table under one hash function answers every run of calls as a finite map does, provided that
whenever a key is inserted, the keys stored by then are sparse: every insertion returns, and the
directory is never deeper than `depth`. -/
theorem answers_eq_answers_of_contents {bucketSize : Nat} {fresh : Table κ ν}
    (hash : HashFunction κ) (created : create bucketSize = .ok fresh) (shallow : depth ≤ 63)
    (calls : List (Contents.Call κ ν))
    (sparse : ∀ before key value after, calls = before ++ .insert key value :: after →
      Sparse hash depth bucketSize
        ((Run.finalState Contents.perform {} before).insert key value).keys) :
    Run.answers (fun call => perform hash call.onTable) fresh calls =
        (Run.answers Contents.perform {} calls).map .ok ∧
      ∀ outcome ∈ Run.outcomes (fun call : Contents.Call κ ν => perform hash call.onTable)
        fresh calls, outcome.state.globalDepth ≤ depth := by
  have start := represents_create created hash depth
  have step : ∀ (call : Contents.Call κ ν) (table : Table κ ν) (contents : Contents κ ν),
      Represents hash bucketSize depth table contents →
      (∀ key value, call = .insert key value →
        Sparse hash depth bucketSize (contents.insert key value).keys) →
      Run.Matches (Represents hash bucketSize depth) .ok
        (perform hash call.onTable table) (Contents.perform call contents) :=
    fun _ _ _ represents sparse => represents.perform shallow sparse
  have allowed : Run.Allowed Contents.perform (fun contents call => ∀ key value,
      call = .insert key value → Sparse hash depth bucketSize (contents.insert key value).keys)
      {} calls := by
    rintro before _ after split key value rfl
    exact sparse before key value after split
  constructor
  · exact Run.answers_eq_map step start allowed
  · intro outcome member
    obtain ⟨_, represents⟩ := Run.exists_related step start allowed outcome member
    exact represents.globalDepth_le

/-- Keys `0` and `8` agree on three low bits, so one entry to a bucket needs a depth of four. -/
theorem answers_eq_answers_of_contents_four_deep :
    let fresh : Table Nat Nat := { bucketSize := 1 }
    let hash : HashFunction Nat := fun key => UInt64.ofNat key
    let calls : List (Contents.Call Nat Nat) :=
      [.insert 0 5, .insert 8 6, .insert 8 7, .find 8, .remove 0, .remove 0, .len, .isEmpty]
    create 1 = .ok fresh ∧
      (∀ before key value after, calls = before ++ .insert key value :: after →
        Sparse hash 4 1 ((Run.finalState Contents.perform {} before).insert key value).keys) ∧
      Run.answers (fun call => perform hash call.onTable) fresh calls =
        [.done, .done, .done, .found (some 7), .removed true, .removed false, .number 1,
          .empty false].map .ok ∧
      ∀ outcome ∈ Run.outcomes (fun call : Contents.Call Nat Nat => perform hash call.onTable)
        fresh calls, outcome.state.globalDepth ≤ 4 := by
  intro fresh hash calls
  have created : create 1 = .ok fresh := rfl
  have sparse : ∀ before key value after, calls = before ++ .insert key value :: after →
      Sparse hash 4 1 ((Run.finalState Contents.perform {} before).insert key value).keys := by
    intro before key value after split
    rcases before with _ | ⟨first, _ | ⟨second, _ | ⟨third, later⟩⟩⟩ <;>
      simp only [calls, List.nil_append, List.cons_append, List.cons.injEq] at split
    · rcases split with ⟨⟨⟩, _⟩
      decide
    · rcases split with ⟨rfl, ⟨⟩, _⟩
      decide
    · rcases split with ⟨rfl, rfl, ⟨⟩, _⟩
      decide
    · have noInsert : Contents.Call.insert key value ∉ ([.find 8, .remove 0, .remove 0, .len,
          .isEmpty] : List (Contents.Call Nat Nat)) := by simp
      rcases split with ⟨_, _, _, split⟩
      exact absurd (by simp [split]) noInsert
  have run := answers_eq_answers_of_contents hash created (by decide) calls sparse
  exact ⟨created, sparse, run.1, run.2⟩

end PageBuffer.Table
