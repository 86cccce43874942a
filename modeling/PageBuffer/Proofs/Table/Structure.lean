import Mathlib.Data.Int.CardIntervalMod
import PageBuffer.Proofs.Table.Growth
import PageBuffer.Table.Run

/-!
The structure that every table has, whatever hash functions it was built under: an aligned directory
as deep as its deepest bucket, buckets that are not overfull and hold no key twice, and a true count
of entries.  Each operation keeps it.
-/

namespace PageBuffer.Table

variable {κ ν : Type} {table : Table κ ν} {hash : HashFunction κ} {id : Nat}
  {bucket held : Bucket κ ν}

/-- What holds of a table under any history of hash functions. -/
structure Structured (table : Table κ ν) : Prop where
  aligned : table.Aligned
  globalDepth_le : table.globalDepth ≤ 63
  deepest : ∃ (id : Nat) (bucket : Bucket κ ν), table.buckets[id]? = some bucket ∧
    bucket.depth = table.globalDepth
  globalDepth_lt : table.globalDepth < table.bucketCount
  fits : ∀ {id : Nat} {bucket : Bucket κ ν}, table.buckets[id]? = some bucket →
    bucket.entries.length ≤ table.bucketSize
  distinct : ∀ {id : Nat} {bucket : Bucket κ ν}, table.buckets[id]? = some bucket →
    bucket.keys.Nodup
  len_eq : table.len = table.entries.length

theorem structured_create {bucketSize : Nat} {fresh : Table κ ν}
    (created : create bucketSize = .ok fresh) : fresh.Structured := by
  have aligned := aligned_create created
  obtain ⟨positive, rfl⟩ := eq_of_create created
  refine ⟨aligned, by simp, ⟨0, {}, by simp⟩, by simp [bucketCount], ?_, ?_, by simp [entries]⟩
  all_goals
    intro id bucket found
    rcases List.mem_singleton.mp (Array.mem_toList_iff.mpr (Array.mem_of_getElem? found)) with rfl
    simp [Bucket.keys]

section Counting

theorem count_eq_count_index (list : List Nat) (item : Nat) :
    list.count item = Nat.count (fun index => list[index]? = some item) list.length := by
  induction list with
  | nil => rfl
  | cons head tail inductionHypothesis =>
      simp only [List.length_cons, Nat.count_succ', List.getElem?_cons_succ,
        List.getElem?_cons_zero, Option.some.injEq, List.count_cons, beq_iff_eq,
        inductionHypothesis]

/-- A bucket is named by as many slots as there are ways to fill the bits above its depth. -/
theorem Aligned.count_directory (aligned : table.Aligned)
    (found : table.buckets[id]? = some bucket) :
    table.directory.count id = 2 ^ (table.globalDepth - bucket.depth) := by
  rcases aligned.reached found with ⟨slot, named⟩
  have shallow := aligned.depth_le found
  have agreeing : ∀ other ∈ Finset.range (2 ^ table.globalDepth),
      table.directory[other]? = some id ↔ other ≡ slot [MOD 2 ^ bucket.depth] := by
    intro other inside
    rw [aligned.alias_iff named found (Finset.mem_range.mp inside)]
    exact eq_comm
  have size : table.directory.toList.length = 2 ^ table.globalDepth := aligned.size_directory
  rw [← Array.count_toList, count_eq_count_index, size, Nat.count_eq_card_filter_range]
  simp only [Array.getElem?_toList]
  rw [Finset.filter_congr agreeing, ← Nat.count_eq_card_filter_range,
    Nat.count_modEq_card _ (Nat.two_pow_pos _), Nat.pow_div shallow (by decide),
    Nat.mod_eq_zero_of_dvd (Nat.pow_dvd_pow 2 shallow)]
  simp

/-- There are no more buckets than slots. -/
theorem Aligned.bucketCount_le (aligned : table.Aligned) :
    table.bucketCount ≤ 2 ^ table.globalDepth := by
  rw [← aligned.size_directory, ← Array.length_toList, ← List.length_range (n := table.bucketCount)]
  apply List.nodup_range.length_le_of_subset
  intro id inside
  rcases aligned.reached (Array.getElem?_eq_getElem (List.mem_range.mp inside)) with ⟨slot, named⟩
  exact Array.mem_toList_iff.mpr (Array.mem_of_getElem? named)

end Counting

section Replace

theorem buckets_setBucket_cases {other : Nat} {present : Bucket κ ν}
    (found : (table.setBucket id held).buckets[other]? = some present) :
    (other = id ∧ present = held) ∨ (other ≠ id ∧ table.buckets[other]? = some present) := by
  rw [setBucket, Array.getElem?_setIfInBounds] at found
  split at found
  · rename_i same
    split at found
    · exact .inl ⟨same.symm, (Option.some.inj found).symm⟩
    · simp at found
  · rename_i different
    exact .inr ⟨Ne.symm different, found⟩

theorem buckets_setBucket_self (found : table.buckets[id]? = some bucket) :
    (table.setBucket id held).buckets[id]? = some held := by
  have inside : id < table.buckets.size := (Array.getElem?_eq_some_iff.mp found).1
  simp [setBucket, inside]

theorem buckets_setBucket_of_ne {other : Nat} (different : other ≠ id) :
    (table.setBucket id held).buckets[other]? = table.buckets[other]? := by
  simp [setBucket, Ne.symm different]

/-- A bucket may give way to one of the same depth. -/
theorem Aligned.setBucket (aligned : table.Aligned) (found : table.buckets[id]? = some bucket)
    (depth : held.depth = bucket.depth) (len : Nat) :
    ({ table.setBucket id held with len } : Table κ ν).Aligned := by
  constructor
  case size_directory => exact aligned.size_directory
  case named =>
    intro slot target named
    by_cases same : target = id
    · subst target
      exact ⟨held, buckets_setBucket_self found⟩
    · rcases aligned.named named with ⟨former, formerFound⟩
      exact ⟨former, (buckets_setBucket_of_ne same).trans formerFound⟩
  case reached =>
    intro other present presentFound
    rcases buckets_setBucket_cases presentFound with ⟨rfl, _⟩ | ⟨_, formerFound⟩
    · exact aligned.reached found
    · exact aligned.reached formerFound
  case depth_le =>
    intro other present presentFound
    rcases buckets_setBucket_cases presentFound with ⟨rfl, rfl⟩ | ⟨_, formerFound⟩
    · rw [depth]
      exact aligned.depth_le found
    · exact aligned.depth_le formerFound
  case alias_iff =>
    intro slot other target present named presentFound inside
    rcases buckets_setBucket_cases presentFound with ⟨rfl, rfl⟩ | ⟨_, formerFound⟩
    · rw [depth]
      exact aligned.alias_iff named found inside
    · exact aligned.alias_iff named formerFound inside

theorem length_entries_setBucket (found : table.buckets[id]? = some bucket)
    (held : Bucket κ ν) :
    (table.setBucket id held).entries.length + bucket.entries.length =
      table.entries.length + held.entries.length := by
  simpa using (entries_setBucket_perm found held).length_eq

theorem Structured.setBucket (structured : table.Structured)
    (found : table.buckets[id]? = some bucket) (depth : held.depth = bucket.depth)
    (fits : held.entries.length ≤ table.bucketSize) (distinct : held.keys.Nodup) {len : Nat}
    (counted : len + bucket.entries.length = table.len + held.entries.length) :
    ({ table.setBucket id held with len } : Table κ ν).Structured := by
  constructor
  case aligned => exact structured.aligned.setBucket found depth len
  case globalDepth_le => exact structured.globalDepth_le
  case deepest =>
    rcases structured.deepest with ⟨deep, former, formerFound, deepDepth⟩
    by_cases same : deep = id
    · subst deep
      cases Option.some.inj (found.symm.trans formerFound)
      exact ⟨id, held, buckets_setBucket_self found, depth.trans deepDepth⟩
    · exact ⟨deep, former, (buckets_setBucket_of_ne same).trans formerFound, deepDepth⟩
  case globalDepth_lt =>
    simpa [bucketCount, Table.setBucket] using structured.globalDepth_lt
  case fits =>
    intro other present presentFound
    rcases buckets_setBucket_cases presentFound with ⟨rfl, rfl⟩ | ⟨_, formerFound⟩
    · exact fits
    · exact structured.fits formerFound
  case distinct =>
    intro other present presentFound
    rcases buckets_setBucket_cases presentFound with ⟨rfl, rfl⟩ | ⟨_, formerFound⟩
    · exact distinct
    · exact structured.distinct formerFound
  case len_eq =>
    have lengths := length_entries_setBucket found held
    have former := structured.len_eq
    change len = (table.setBucket id held).entries.length
    omega

theorem Structured.route_setBucket_self (structured : table.Structured) {key : κ}
    (routed : table.route hash key = .ok (id, bucket)) (len : Nat) :
    ({ table.setBucket id held with len } : Table κ ν).route hash key = .ok (id, held) := by
  have narrow := structured.globalDepth_le
  rw [route_eq_ok_iff narrow] at routed
  rw [route_eq_ok_iff (by exact narrow)]
  exact ⟨routed.1, buckets_setBucket_self routed.2⟩

theorem Structured.route_setBucket_of_ne (structured : table.Structured) {key : κ} {other : Nat}
    {former : Bucket κ ν} (routed : table.route hash key = .ok (other, former))
    (different : other ≠ id) (len : Nat) :
    ({ table.setBucket id held with len } : Table κ ν).route hash key = .ok (other, former) := by
  have narrow := structured.globalDepth_le
  rw [route_eq_ok_iff narrow] at routed
  rw [route_eq_ok_iff (by exact narrow)]
  exact ⟨routed.1, (buckets_setBucket_of_ne different).trans routed.2⟩

end Replace

theorem length_entries_half_le (bucket : Bucket κ ν) (hash : HashFunction κ) (bit : Bool) :
    (bucket.half hash bit).entries.length ≤ bucket.entries.length :=
  List.length_filter_le _ _

theorem nodup_keys_half (distinct : bucket.keys.Nodup) (hash : HashFunction κ) (bit : Bool) :
    (bucket.half hash bit).keys.Nodup := by
  have part : (bucket.half hash bit).keys.Sublist bucket.keys := List.filter_sublist.map _
  exact part.nodup distinct

/-- Making room keeps the structure: a doubling always comes with the split that uses its bit. -/
theorem Structured.grown (structured : table.Structured)
    (found : table.buckets[id]? = some bucket) (shallow : bucket.depth < 63)
    (hash : HashFunction κ) : (table.grown hash id bucket).Structured := by
  have aligned := structured.aligned
  have depth := globalDepth_grown aligned found hash
  constructor
  case aligned => exact aligned.grown found hash
  case globalDepth_le =>
    rw [depth]
    exact Nat.max_le.mpr ⟨structured.globalDepth_le, shallow⟩
  case deepest =>
    rw [depth]
    by_cases deep : bucket.depth = table.globalDepth
    · have foundWide : (table.widened bucket.depth).buckets[id]? = some bucket := by
        rwa [buckets_widened]
      have present := buckets_parted_heir foundWide hash false
      exact ⟨_, _, present, by simp only [Bucket.half]; omega⟩
    · rcases structured.deepest with ⟨other, former, formerFound, formerDepth⟩
      have different : other ≠ id := by
        rintro rfl
        cases Option.some.inj (found.symm.trans formerFound)
        exact deep formerDepth
      have inside := (Array.getElem?_eq_some_iff.mp formerFound).1
      refine ⟨other, former, ?_, ?_⟩
      · rw [Table.grown, buckets_parted_of_ne (by rwa [buckets_widened]) different,
          buckets_widened]
        exact formerFound
      · have := aligned.depth_le found
        omega
  case globalDepth_lt =>
    have := structured.globalDepth_lt
    have := aligned.depth_le found
    rw [depth, bucketCount_grown]
    omega
  case fits =>
    intro other present presentFound
    rw [bucketSize_grown]
    rcases buckets_grown_cases found presentFound with ⟨bit, _, rfl⟩ | ⟨_, _, formerFound⟩
    · exact (length_entries_half_le bucket hash bit).trans (structured.fits found)
    · exact structured.fits formerFound
  case distinct =>
    intro other present presentFound
    rcases buckets_grown_cases found presentFound with ⟨bit, _, rfl⟩ | ⟨_, _, formerFound⟩
    · exact nodup_keys_half (structured.distinct found) hash bit
    · exact structured.distinct formerFound
  case len_eq =>
    rw [len_grown, structured.len_eq]
    exact (entries_grown_perm found).length_eq.symm

theorem Structured.exists_route (structured : table.Structured) (hash : HashFunction κ) (key : κ) :
    ∃ id bucket, table.route hash key = .ok (id, bucket) ∧ table.buckets[id]? = some bucket := by
  have narrow := structured.globalDepth_le
  obtain ⟨id, bucket, routed⟩ := structured.aligned.exists_route narrow hash key
  exact ⟨id, bucket, routed, ((route_eq_ok_iff narrow).mp routed).2⟩

theorem Structured.found_of_route (structured : table.Structured) {key : κ}
    (routed : table.route hash key = .ok (id, bucket)) : table.buckets[id]? = some bucket :=
  ((route_eq_ok_iff structured.globalDepth_le).mp routed).2

theorem Structured.len_pos (structured : table.Structured)
    (found : table.buckets[id]? = some bucket) {entry : κ × ν} (stored : entry ∈ bucket.entries) :
    1 ≤ table.len := by
  rw [structured.len_eq]
  exact List.length_pos_of_mem (mem_entries_iff.mpr ⟨id, bucket, found, stored⟩)

section Operations

variable [DecidableEq κ] {key : κ} {value : ν}

theorem Structured.overwritten (structured : table.Structured)
    (found : table.buckets[id]? = some bucket)
    (put : bucket.put table.bucketSize key value = .overwritten held) :
    (table.setBucket id held).Structured := by
  have keys := (Bucket.keys_of_put_eq_overwritten put).1
  have lengths := congrArg List.length keys
  rw [Bucket.length_keys, Bucket.length_keys] at lengths
  rcases Bucket.put_eq_overwritten put with ⟨before, after, former, _, heldIs⟩
  refine structured.setBucket found (by rw [heldIs]) ?_ ?_ (by omega)
  · rw [lengths]
    exact structured.fits found
  · rw [keys]
    exact structured.distinct found

theorem Structured.added (structured : table.Structured)
    (found : table.buckets[id]? = some bucket)
    (put : bucket.put table.bucketSize key value = .added held) :
    ({ table.setBucket id held with len := table.len + 1 } : Table κ ν).Structured := by
  have distinct := Bucket.nodup_keys_of_put_eq_added put (structured.distinct found)
  rcases Bucket.put_eq_added put with ⟨_, room, heldIs⟩
  have length : held.entries.length = bucket.entries.length + 1 := by simp [heldIs]
  exact structured.setBucket found (by rw [heldIs]) (by omega) distinct (by omega)

theorem Inserts.structured {final : Table κ ν} (inserts : Inserts hash key value table final)
    (structured : table.Structured) : final.Structured := by
  induction inserts with
  | overwrite routed put =>
      have found := structured.found_of_route routed
      exact structured.overwritten found put
  | add routed put =>
      have found := structured.found_of_route routed
      exact structured.added found put
  | grow routed put shallow later inductionHypothesis =>
      have found := structured.found_of_route routed
      exact inductionHypothesis (structured.grown found shallow hash)

/-- What a removal has done. -/
inductive Removes (hash : HashFunction κ) (key : κ) (table : Table κ ν) :
    Bool → Table κ ν → Prop where
  | absent {id : Nat} {bucket : Bucket κ ν} (routed : table.route hash key = .ok (id, bucket))
      (absent : bucket.erase? key = none) : Removes hash key table false table
  | erase {id : Nat} {bucket rest : Bucket κ ν} (routed : table.route hash key = .ok (id, bucket))
      (erased : bucket.erase? key = some rest) :
      Removes hash key table true { table.setBucket id rest with len := table.len - 1 }

theorem Structured.erased (structured : table.Structured)
    (found : table.buckets[id]? = some bucket) (erased : bucket.erase? key = some held) :
    1 ≤ table.len ∧
      ({ table.setBucket id held with len := table.len - 1 } : Table κ ν).Structured := by
  rcases Bucket.erase?_eq_some erased with ⟨former, depth, perm⟩
  have length := perm.length_eq
  rw [List.length_cons] at length
  have counted := structured.len_pos found (perm.mem_iff.mpr (List.mem_cons_self))
  have fits := structured.fits found
  have distinct : held.keys.Nodup :=
    (List.nodup_cons.mp ((Bucket.perm_keys_of_erase?_eq_some erased).nodup_iff.mp
      (structured.distinct found))).2
  exact ⟨counted, structured.setBucket found depth (by omega) distinct (by omega)⟩

/-- A removal always answers. -/
theorem Structured.exists_removes (structured : table.Structured) (hash : HashFunction κ)
    (key : κ) :
    ∃ present next, table.remove hash key = .ok (present, next) ∧
      Removes hash key table present next := by
  obtain ⟨id, bucket, routed, found⟩ := structured.exists_route hash key
  cases erased : bucket.erase? key with
  | none =>
      refine ⟨_, _, ?_, .absent routed erased⟩
      simp [remove, routed, erased, bind, Except.bind, pure, Except.pure]
  | some rest =>
      have counted := (structured.erased found erased).1
      refine ⟨_, _, ?_, .erase routed erased⟩
      simp [remove, routed, erased, counted, bind, Except.bind, pure, Except.pure]

theorem Removes.structured {present : Bool} {next : Table κ ν}
    (removes : Removes hash key table present next) (structured : table.Structured) :
    next.Structured := by
  cases removes with
  | absent routed absent => exact structured
  | erase routed erased =>
      have found := structured.found_of_route routed
      exact (structured.erased found erased).2

theorem Inserts.bucketSize_eq {final : Table κ ν} (inserts : Inserts hash key value table final) :
    final.bucketSize = table.bucketSize := by
  induction inserts with
  | overwrite routed put => rfl
  | add routed put => rfl
  | grow routed put shallow later inductionHypothesis =>
      rw [inductionHypothesis, bucketSize_grown]

theorem Removes.bucketSize_eq {present : Bool} {next : Table κ ν}
    (removes : Removes hash key table present next) : next.bucketSize = table.bucketSize := by
  cases removes <;> rfl

theorem Removes.globalDepth_eq {present : Bool} {next : Table κ ν}
    (removes : Removes hash key table present next) : next.globalDepth = table.globalDepth := by
  cases removes <;> rfl

/-- What a call has done to a table: inserted, removed, or nothing. -/
theorem Structured.perform_cases (structured : table.Structured) (hash : HashFunction κ)
    (call : Call κ ν) :
    (∃ key value, call = .insert key value ∧
        Inserts hash key value table (perform hash call table).state) ∨
      (∃ key present, call = .remove key ∧
        Removes hash key table present (perform hash call table).state) ∨
      (perform hash call table).state = table := by
  cases call with
  | insert key value =>
      simp only [perform]
      split
      · exact .inr (.inr rfl)
      · rename_i final events inserted
        exact .inl ⟨key, value, rfl,
          structured.aligned.inserts_of_insert structured.globalDepth_le inserted⟩
  | remove key =>
      obtain ⟨present, next, removed, removes⟩ := structured.exists_removes hash key
      refine .inr (.inl ⟨key, present, rfl, ?_⟩)
      simpa [perform, removed] using removes
  | find | len | isEmpty | globalDepth | bucketCount | localDepth | localDepths | check =>
      exact .inr (.inr rfl)

/-- Every call keeps the structure and the bucket size, whatever hash function is current. -/
theorem Structured.perform (structured : table.Structured) (hash : HashFunction κ)
    (call : Call κ ν) :
    (Table.perform hash call table).state.Structured ∧
      (Table.perform hash call table).state.bucketSize = table.bucketSize := by
  rcases structured.perform_cases hash call with ⟨_, _, _, inserts⟩ | ⟨_, _, _, removes⟩ | same
  · exact ⟨inserts.structured structured, inserts.bucketSize_eq⟩
  · exact ⟨removes.structured structured, removes.bucketSize_eq⟩
  · rw [same]
    exact ⟨structured, rfl⟩

theorem Structured.finalState (structured : table.Structured)
    (steps : List (HashFunction κ × Call κ ν)) :
    (Run.finalState performHashed table steps).Structured ∧
      (Run.finalState performHashed table steps).bucketSize = table.bucketSize := by
  have kept : ∀ (step : HashFunction κ × Call κ ν) (reached : Table κ ν),
      (reached.Structured ∧ reached.bucketSize = table.bucketSize) →
        (performHashed step reached).state.Structured ∧
          (performHashed step reached).state.bucketSize = table.bucketSize := by
    rintro ⟨hash, call⟩ reached ⟨reachedStructured, sameSize⟩
    have step := reachedStructured.perform hash call
    exact ⟨step.1, step.2.trans sameSize⟩
  exact Run.finalState_induction performHashed kept ⟨structured, rfl⟩ steps

end Operations

end PageBuffer.Table
