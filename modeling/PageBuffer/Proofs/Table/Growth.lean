import PageBuffer.Proofs.Table.Bucket
import PageBuffer.Proofs.Table.Directory

/-!
How a table takes an entry in: while the bucket that the key routes to is full, it is split, after a
doubling where it has no bit to spare; then the entry is put into the bucket it routes to.

`Inserts` says this once, so that every law of insertion is an induction over its three cases.
-/

namespace PageBuffer.Table

variable {κ ν : Type} {table : Table κ ν} {hash : HashFunction κ} {id : Nat} {bucket : Bucket κ ν}

section Entries

theorem mem_entries_iff {entry : κ × ν} :
    entry ∈ table.entries ↔
      ∃ (id : Nat) (bucket : Bucket κ ν), table.buckets[id]? = some bucket ∧
        entry ∈ bucket.entries := by
  simp only [entries, List.mem_flatMap, Array.mem_toList_iff, Array.mem_iff_getElem?]
  constructor
  · rintro ⟨bucket, ⟨id, found⟩, stored⟩
    exact ⟨id, bucket, found, stored⟩
  · rintro ⟨id, bucket, found, stored⟩
    exact ⟨bucket, ⟨id, found⟩, stored⟩

/-- Replacing a bucket exchanges its entries for those of the new one. -/
theorem entries_setBucket_perm (found : table.buckets[id]? = some bucket) (held : Bucket κ ν) :
    ((table.setBucket id held).entries ++ bucket.entries).Perm (table.entries ++ held.entries) := by
  rcases Array.getElem?_eq_some_iff.mp found with ⟨inside, rfl⟩
  obtain ⟨before, after, former, _, changed⟩ :=
    @List.exists_of_set _ id held table.buckets.toList inside
  have formerEntries : table.entries = before.flatMap (·.entries) ++
      (table.buckets[id].entries ++ after.flatMap (·.entries)) := by
    rw [entries, former]
    simp
  have changedEntries : (table.setBucket id held).entries = before.flatMap (·.entries) ++
      (held.entries ++ after.flatMap (·.entries)) := by
    rw [entries, setBucket, Array.toList_setIfInBounds, changed]
    simp
  rw [formerEntries, changedEntries]
  simp only [List.append_assoc]
  apply List.Perm.append_left
  rw [← List.append_assoc]
  exact (List.perm_append_comm.append_right _).trans
    (List.perm_append_comm.trans (by simp))

theorem half_append_half_perm (bucket : Bucket κ ν) (hash : HashFunction κ) :
    ((bucket.half hash false).entries ++ (bucket.half hash true).entries).Perm bucket.entries := by
  apply List.perm_append_comm.trans
  have parts := List.filter_append_perm
    (fun entry => (hash entry.1).toNat.testBit bucket.depth) bucket.entries
  simpa [Bucket.half] using parts

/-- A split moves entries about and neither loses nor adds one. -/
theorem entries_parted_perm (found : table.buckets[id]? = some bucket) :
    (table.parted hash id bucket).entries.Perm table.entries := by
  have pushed : (table.parted hash id bucket).entries =
      (table.setBucket id (bucket.half hash false)).entries ++ (bucket.half hash true).entries := by
    simp [entries, parted, setBucket]
  rw [← List.perm_append_right_iff bucket.entries, pushed]
  have exchanged := entries_setBucket_perm found (bucket.half hash false)
  have halves := half_append_half_perm bucket hash
  have keptFirst := (exchanged.append_right (bucket.half hash true).entries).trans
    (by simpa only [List.append_assoc] using halves.append_left table.entries)
  refine List.Perm.trans ?_ keptFirst
  simp only [List.append_assoc]
  exact List.perm_append_comm.append_left _

end Entries

section Grown

/-- The table after room was made in a bucket. -/
def grown (table : Table κ ν) (hash : HashFunction κ) (id : Nat) (bucket : Bucket κ ν) :
    Table κ ν :=
  (table.widened bucket.depth).parted hash id bucket

/-- What making room logs. -/
def growthEvents (table : Table κ ν) (hash : HashFunction κ) (id : Nat) (bucket : Bucket κ ν) :
    List Event :=
  if bucket.depth = table.globalDepth then
    table.double.2 :: table.double.1.partingEvents hash id bucket
  else
    table.partingEvents hash id bucket

theorem makeRoom_of_lt (narrow : bucket.depth < 64) :
    table.makeRoom hash id bucket =
      .ok (table.grown hash id bucket, table.growthEvents hash id bucket) := by
  unfold makeRoom grown growthEvents widened
  split
  · have parted := table.double.1.split_of_lt hash id narrow
    simp [parted, bind, Except.bind, pure, Except.pure]
  · exact table.split_of_lt hash id narrow

theorem Aligned.grown (aligned : table.Aligned) (found : table.buckets[id]? = some bucket)
    (hash : HashFunction κ) : (table.grown hash id bucket).Aligned := by
  refine (aligned.widened bucket.depth).parted ?_ ?_ hash
  · rwa [buckets_widened]
  · rw [globalDepth_widened (aligned.depth_le found)]
    omega

theorem globalDepth_grown (aligned : table.Aligned) (found : table.buckets[id]? = some bucket)
    (hash : HashFunction κ) :
    (table.grown hash id bucket).globalDepth = max table.globalDepth (bucket.depth + 1) :=
  globalDepth_widened (aligned.depth_le found)

@[simp]
theorem bucketSize_grown : (table.grown hash id bucket).bucketSize = table.bucketSize := by
  unfold grown widened
  split <;> rfl

@[simp]
theorem len_grown : (table.grown hash id bucket).len = table.len := by
  unfold grown widened
  split <;> rfl

@[simp]
theorem bucketCount_grown : (table.grown hash id bucket).bucketCount = table.bucketCount + 1 := by
  simp [grown, parted, bucketCount]

theorem entries_grown_perm (found : table.buckets[id]? = some bucket) :
    (table.grown hash id bucket).entries.Perm table.entries := by
  rw [← buckets_widened table bucket.depth] at found
  apply (entries_parted_perm found).trans
  simp [entries]

theorem buckets_grown_cases {other : Nat} {held : Bucket κ ν}
    (found : table.buckets[id]? = some bucket)
    (present : (table.grown hash id bucket).buckets[other]? = some held) :
    (∃ bit, other = table.heir id bit ∧ held = bucket.half hash bit) ∨
      (other < table.buckets.size ∧ other ≠ id ∧ table.buckets[other]? = some held) := by
  rw [← buckets_widened table bucket.depth] at found
  simpa [heir] using buckets_parted_cases found present

end Grown

section Route

variable {key : κ}

theorem route_eq_bucketAt (narrow : table.globalDepth ≤ 63) :
    table.route hash key = table.bucketAt ((hash key).toNat % 2 ^ table.globalDepth) := by
  simp [route, lowBits_of_lt (Nat.lt_succ_of_le narrow), bind, Except.bind]

theorem route_eq_ok_iff (narrow : table.globalDepth ≤ 63) :
    table.route hash key = .ok (id, bucket) ↔
      table.directory[(hash key).toNat % 2 ^ table.globalDepth]? = some id ∧
        table.buckets[id]? = some bucket := by
  rw [route_eq_bucketAt narrow, bucketAt_eq_ok_iff]

theorem Aligned.exists_route (aligned : table.Aligned) (narrow : table.globalDepth ≤ 63)
    (hash : HashFunction κ) (key : κ) : ∃ id bucket, table.route hash key = .ok (id, bucket) := by
  rw [route_eq_bucketAt narrow]
  exact aligned.exists_bucketAt (Nat.mod_lt _ (Nat.two_pow_pos _))

/-- Doubling leaves every key with its bucket. -/
theorem Aligned.route_widened (aligned : table.Aligned) (narrow : table.globalDepth ≤ 63)
    {depth : Nat} (shallow : depth < 63) (routed : table.route hash key = .ok (id, bucket)) :
    (table.widened depth).route hash key = .ok (id, bucket) := by
  unfold Table.widened
  split
  · rename_i deepest
    have inside : (hash key).toNat % 2 ^ (table.globalDepth + 1) < 2 ^ (table.globalDepth + 1) :=
      Nat.mod_lt _ (Nat.two_pow_pos _)
    have doubled : table.double.1.globalDepth ≤ 63 := by
      rw [deepest] at shallow
      exact shallow
    rw [route_eq_ok_iff narrow] at routed
    rw [route_eq_ok_iff doubled, show table.double.1.globalDepth = table.globalDepth + 1 from rfl,
      getElem?_directory_double aligned inside,
      Nat.mod_mod_of_dvd _ (Nat.pow_dvd_pow 2 (Nat.le_succ _))]
    exact routed
  · exact routed

/-- After a split, a key of the split bucket routes to the heir of its own bit. -/
theorem Aligned.route_parted_self (aligned : table.Aligned) (narrow : table.globalDepth ≤ 63)
    (spare : bucket.depth < table.globalDepth) (routed : table.route hash key = .ok (id, bucket)) :
    (table.parted hash id bucket).route hash key =
      .ok (table.heir id ((hash key).toNat.testBit bucket.depth),
        bucket.half hash ((hash key).toNat.testBit bucket.depth)) := by
  rw [route_eq_ok_iff narrow] at routed
  rcases routed with ⟨named, found⟩
  rw [route_eq_ok_iff (by exact narrow), directory_parted_heir_iff aligned found]
  refine ⟨⟨named, ?_⟩, buckets_parted_heir found hash _⟩
  simp [Nat.testBit_mod_two_pow, spare]

theorem Aligned.route_parted_of_ne (aligned : table.Aligned) (narrow : table.globalDepth ≤ 63)
    {other : Nat} {held : Bucket κ ν} (routed : table.route hash key = .ok (other, held))
    (different : other ≠ id) :
    (table.parted hash id bucket).route hash key = .ok (other, held) := by
  rw [route_eq_ok_iff narrow] at routed
  rcases routed with ⟨named, found⟩
  have inside := aligned.id_lt named
  rw [route_eq_ok_iff (by exact narrow), globalDepth_parted,
    directory_parted_iff_of_ne inside different, buckets_parted_of_ne inside different]
  exact ⟨named, found⟩

/-- The depth stays in the range of a word when a bucket of depth below `63` is given room. -/
theorem globalDepth_widened_le (aligned : table.Aligned) (narrow : table.globalDepth ≤ 63)
    (found : table.buckets[id]? = some bucket) (shallow : bucket.depth < 63) :
    (table.widened bucket.depth).globalDepth ≤ 63 := by
  rw [globalDepth_widened (aligned.depth_le found)]
  exact Nat.max_le.mpr ⟨narrow, shallow⟩

theorem Aligned.route_grown_self (aligned : table.Aligned) (narrow : table.globalDepth ≤ 63)
    (shallow : bucket.depth < 63) (routed : table.route hash key = .ok (id, bucket)) :
    (table.grown hash id bucket).route hash key =
      .ok (table.heir id ((hash key).toNat.testBit bucket.depth),
        bucket.half hash ((hash key).toNat.testBit bucket.depth)) := by
  have found := ((route_eq_ok_iff narrow).mp routed).2
  have narrowWide := globalDepth_widened_le aligned narrow found shallow
  have spare : bucket.depth < (table.widened bucket.depth).globalDepth := by
    rw [globalDepth_widened (aligned.depth_le found)]
    omega
  have routedWide := aligned.route_widened narrow shallow routed
  simpa [heir, Table.grown] using (aligned.widened _).route_parted_self narrowWide spare routedWide

theorem Aligned.route_grown_of_ne (aligned : table.Aligned) (narrow : table.globalDepth ≤ 63)
    (found : table.buckets[id]? = some bucket) (shallow : bucket.depth < 63)
    {other : Nat} {held : Bucket κ ν} (routed : table.route hash key = .ok (other, held))
    (different : other ≠ id) :
    (table.grown hash id bucket).route hash key = .ok (other, held) := by
  have narrowWide := globalDepth_widened_le aligned narrow found shallow
  have routedWide := aligned.route_widened narrow shallow routed
  exact (aligned.widened _).route_parted_of_ne narrowWide routedWide different

end Route

section Insertion

variable [DecidableEq κ] {key : κ} {value : ν}

/-- What an insertion that returns has done. -/
inductive Inserts (hash : HashFunction κ) (key : κ) (value : ν) : Table κ ν → Table κ ν → Prop where
  | overwrite {table : Table κ ν} {id : Nat} {bucket held : Bucket κ ν}
      (routed : table.route hash key = .ok (id, bucket))
      (put : bucket.put table.bucketSize key value = .overwritten held) :
      Inserts hash key value table (table.setBucket id held)
  | add {table : Table κ ν} {id : Nat} {bucket held : Bucket κ ν}
      (routed : table.route hash key = .ok (id, bucket))
      (put : bucket.put table.bucketSize key value = .added held) :
      Inserts hash key value table { table.setBucket id held with len := table.len + 1 }
  | grow {table final : Table κ ν} {id : Nat} {bucket : Bucket κ ν}
      (routed : table.route hash key = .ok (id, bucket))
      (put : bucket.put table.bucketSize key value = .full) (shallow : bucket.depth < 63)
      (later : Inserts hash key value (table.grown hash id bucket) final) :
      Inserts hash key value table final

section Within

variable {levels : Nat} {held : Bucket κ ν}

theorem insertWithin_of_overwritten (routed : table.route hash key = .ok (id, bucket))
    (put : bucket.put table.bucketSize key value = .overwritten held) :
    insertWithin hash key value levels table = .ok (table.setBucket id held, []) := by
  cases levels <;> simp [insertWithin, routed, put, bind, Except.bind, pure, Except.pure]

theorem insertWithin_of_added (routed : table.route hash key = .ok (id, bucket))
    (put : bucket.put table.bucketSize key value = .added held) :
    insertWithin hash key value levels table =
      .ok ({ table.setBucket id held with len := table.len + 1 }, []) := by
  cases levels <;> simp [insertWithin, routed, put, bind, Except.bind, pure, Except.pure]

theorem insertWithin_zero_of_full (routed : table.route hash key = .ok (id, bucket))
    (put : bucket.put table.bucketSize key value = .full) :
    insertWithin hash key value 0 table = .error .inseparable := by
  simp only [insertWithin, routed, put, bind, Except.bind]
  rfl

theorem insertWithin_of_full (routed : table.route hash key = .ok (id, bucket))
    (put : bucket.put table.bucketSize key value = .full) (narrow : bucket.depth < 64) :
    insertWithin hash key value (levels + 1) table =
      (insertWithin hash key value levels (table.grown hash id bucket)).map fun (final, later) =>
        (final, table.growthEvents hash id bucket ++ later) := by
  rw [insertWithin]
  simp only [routed, put, makeRoom_of_lt narrow, bind, Except.bind, pure, Except.pure]
  cases insertWithin hash key value levels (table.grown hash id bucket) <;> rfl

end Within

theorem Aligned.inserts_of_insertWithin {table : Table κ ν} (aligned : table.Aligned)
    (narrow : table.globalDepth ≤ 63) {levels id : Nat} {bucket : Bucket κ ν}
    {outcome : Table κ ν × List Event} (routed : table.route hash key = .ok (id, bucket))
    (room : bucket.depth + levels ≤ 63)
    (inserted : insertWithin hash key value levels table = .ok outcome) :
    Inserts hash key value table outcome.1 := by
  cases put : bucket.put table.bucketSize key value with
  | overwritten held =>
      rw [insertWithin_of_overwritten routed put] at inserted
      cases inserted
      exact .overwrite routed put
  | added held =>
      rw [insertWithin_of_added routed put] at inserted
      cases inserted
      exact .add routed put
  | full =>
      cases levels with
      | zero =>
          rw [insertWithin_zero_of_full routed put] at inserted
          cases inserted
      | succ levels =>
          have shallow : bucket.depth < 63 := by omega
          have found := ((route_eq_ok_iff narrow).mp routed).2
          rw [insertWithin_of_full routed put (Nat.lt_succ_of_lt shallow),
            Fallible.map_eq_ok_iff] at inserted
          rcases inserted with ⟨⟨final, events⟩, laterInserted, rfl⟩
          have deeper := aligned.route_grown_self narrow shallow routed
          have later := (aligned.grown found hash).inserts_of_insertWithin
            (globalDepth_widened_le aligned narrow found shallow) deeper
            (by simp only [Bucket.half]; omega) laterInserted
          exact .grow routed put shallow later
termination_by levels

theorem insert_of_route (routed : table.route hash key = .ok (id, bucket)) :
    table.insert hash key value = insertWithin hash key value (63 - bucket.depth) table := by
  simp [insert, routed, bind, Except.bind]

/-- An insertion that returns has grown the table for the key and then put the entry. -/
theorem Aligned.inserts_of_insert (aligned : table.Aligned) (narrow : table.globalDepth ≤ 63)
    {outcome : Table κ ν × List Event} (inserted : table.insert hash key value = .ok outcome) :
    Inserts hash key value table outcome.1 := by
  obtain ⟨id, bucket, routed⟩ := aligned.exists_route narrow hash key
  have found := ((route_eq_ok_iff narrow).mp routed).2
  have depth : bucket.depth ≤ 63 := Nat.le_trans (aligned.depth_le found) narrow
  rw [insert_of_route routed] at inserted
  exact aligned.inserts_of_insertWithin narrow routed (by omega) inserted

theorem Aligned.eq_inseparable_of_insertWithin {table : Table κ ν} (aligned : table.Aligned)
    (narrow : table.globalDepth ≤ 63) {levels id : Nat} {bucket : Bucket κ ν} {fault : Fault}
    (routed : table.route hash key = .ok (id, bucket)) (room : bucket.depth + levels ≤ 63)
    (failed : insertWithin hash key value levels table = .error fault) : fault = .inseparable := by
  cases put : bucket.put table.bucketSize key value with
  | overwritten held =>
      rw [insertWithin_of_overwritten routed put] at failed
      cases failed
  | added held =>
      rw [insertWithin_of_added routed put] at failed
      cases failed
  | full =>
      cases levels with
      | zero =>
          rw [insertWithin_zero_of_full routed put] at failed
          cases failed
          rfl
      | succ levels =>
          have shallow : bucket.depth < 63 := by omega
          have found := ((route_eq_ok_iff narrow).mp routed).2
          rw [insertWithin_of_full routed put (Nat.lt_succ_of_lt shallow)] at failed
          cases laterFailed : insertWithin hash key value levels (table.grown hash id bucket) with
          | ok outcome =>
              rw [laterFailed] at failed
              cases failed
          | error later =>
              rw [laterFailed] at failed
              cases failed
              have deeper := aligned.route_grown_self narrow shallow routed
              exact (aligned.grown found hash).eq_inseparable_of_insertWithin
                (globalDepth_widened_le aligned narrow found shallow) deeper
                (by simp only [Bucket.half]; omega) laterFailed
termination_by levels

/-- An insertion comes to an end, or else no split makes room for its key. -/
theorem Aligned.insert_cases (aligned : table.Aligned) (narrow : table.globalDepth ≤ 63)
    (hash : HashFunction κ) (key : κ) (value : ν) :
    (∃ final events, table.insert hash key value = .ok (final, events) ∧
        Inserts hash key value table final) ∨
      table.insert hash key value = .error .inseparable := by
  cases inserted : table.insert hash key value with
  | ok outcome => exact .inl ⟨_, _, rfl, aligned.inserts_of_insert narrow inserted⟩
  | error fault =>
      obtain ⟨id, bucket, routed⟩ := aligned.exists_route narrow hash key
      have found := ((route_eq_ok_iff narrow).mp routed).2
      have depth : bucket.depth ≤ 63 := Nat.le_trans (aligned.depth_le found) narrow
      rw [insert_of_route routed] at inserted
      rw [aligned.eq_inseparable_of_insertWithin narrow routed (by omega) inserted]
      exact .inr rfl

end Insertion

end PageBuffer.Table
