import PageBuffer.Proofs.Table.Structure

/-!
What a table answers under one hash function, before and after an operation under that function.

Growing changes no answer, since a bucket's entries and its keys part by the same bit.  An insertion
changes the answer for its key only, and so does a removal.  None of this asks where entries that
other hash functions have placed may stand.
-/

namespace PageBuffer.Table

variable {κ ν : Type} [DecidableEq κ] {table : Table κ ν} {hash : HashFunction κ} {id : Nat}
  {bucket held : Bucket κ ν} {key : κ} {value : ν}

theorem find_of_route (routed : table.route hash key = .ok (id, bucket)) :
    table.find hash key = .ok (bucket.find? key) := by
  simp [find, routed, bind, Except.bind, pure, Except.pure]

theorem Structured.exists_find (structured : table.Structured) (hash : HashFunction κ) (key : κ) :
    ∃ answer, table.find hash key = .ok answer := by
  obtain ⟨id, bucket, routed, _⟩ := structured.exists_route hash key
  exact ⟨_, find_of_route routed⟩

/-- What is found is stored. -/
theorem Structured.mem_entries_of_find (structured : table.Structured)
    (answered : table.find hash key = .ok (some value)) : (key, value) ∈ table.entries := by
  obtain ⟨id, bucket, routed, found⟩ := structured.exists_route hash key
  rw [find_of_route routed] at answered
  have inBucket := (Bucket.find?_eq_some_iff (structured.distinct found)).mp
    (Except.ok.inj answered)
  exact mem_entries_iff.mpr ⟨id, bucket, found, inBucket⟩

theorem find_of_create {bucketSize : Nat} {fresh : Table κ ν}
    (created : create bucketSize = .ok fresh) (hash : HashFunction κ) (key : κ) :
    fresh.find hash key = .ok none := by
  have structured := structured_create created
  obtain ⟨answer, answered⟩ := structured.exists_find hash key
  cases answer with
  | none => exact answered
  | some value =>
      have stored := structured.mem_entries_of_find answered
      obtain ⟨positive, rfl⟩ := eq_of_create created
      cases stored

/-- A key is found in the half that its own bit selects. -/
theorem find?_half_self (bucket : Bucket κ ν) (hash : HashFunction κ) (key : κ) :
    (bucket.half hash ((hash key).toNat.testBit bucket.depth)).find? key = bucket.find? key := by
  simp only [Bucket.find?, Bucket.half, List.find?_filter]
  congr 2
  funext entry
  by_cases same : entry.1 = key <;> simp [same]

theorem Structured.find_grown (structured : table.Structured)
    (found : table.buckets[id]? = some bucket) (shallow : bucket.depth < 63) (key : κ) :
    (table.grown hash id bucket).find hash key = table.find hash key := by
  have aligned := structured.aligned
  have narrow := structured.globalDepth_le
  obtain ⟨other, former, routed, formerFound⟩ := structured.exists_route hash key
  rw [find_of_route routed]
  by_cases same : other = id
  · subst other
    cases Option.some.inj (found.symm.trans formerFound)
    rw [find_of_route (aligned.route_grown_self narrow shallow routed), find?_half_self]
  · rw [find_of_route (aligned.route_grown_of_ne narrow found shallow routed same)]

/-- A bucket that answers differently for one key only changes the table's answers likewise. -/
theorem Structured.find_setBucket (structured : table.Structured)
    (routed : table.route hash key = .ok (id, bucket)) {answer : Option ν}
    (changed : ∀ other, held.find? other = if other = key then answer else bucket.find? other)
    (len : Nat) (other : κ) :
    ({ table.setBucket id held with len } : Table κ ν).find hash other =
      if other = key then .ok answer else table.find hash other := by
  obtain ⟨otherId, former, otherRouted, _⟩ := structured.exists_route hash other
  by_cases same : otherId = id
  · subst otherId
    have sameBucket : former = bucket := by
      rw [route_eq_ok_iff structured.globalDepth_le] at routed otherRouted
      exact Option.some.inj (otherRouted.2.symm.trans routed.2)
    subst former
    rw [find_of_route (structured.route_setBucket_self otherRouted len), changed,
      find_of_route otherRouted]
    split <;> rfl
  · have different : other ≠ key := by
      rintro rfl
      rw [routed] at otherRouted
      cases otherRouted
      exact same rfl
    rw [if_neg different, find_of_route (structured.route_setBucket_of_ne otherRouted same len),
      find_of_route otherRouted]

section Insert

variable {final : Table κ ν}

/-- An insertion sets the answer for its key and leaves all others. -/
theorem Inserts.find (inserts : Inserts hash key value table final)
    (structured : table.Structured) (other : κ) :
    final.find hash other = if other = key then .ok (some value) else table.find hash other := by
  induction inserts with
  | @overwrite table id bucket held routed put =>
      have found := structured.found_of_route routed
      exact structured.find_setBucket routed
        (Bucket.find?_of_put_eq_overwritten put (structured.distinct found)) table.len other
  | @add table id bucket held routed put =>
      exact structured.find_setBucket routed (Bucket.find?_of_put_eq_added put) _ other
  | grow routed put shallow later inductionHypothesis =>
      have found := structured.found_of_route routed
      rw [inductionHypothesis (structured.grown found shallow hash),
        structured.find_grown found shallow]

/-- An insertion adds one to the count if its key was not found, and nothing otherwise. -/
theorem Inserts.len (inserts : Inserts hash key value table final)
    (structured : table.Structured) {answer : Option ν}
    (answered : table.find hash key = .ok answer) :
    final.len = if answer.isSome then table.len else table.len + 1 := by
  induction inserts with
  | @overwrite table id bucket held routed put =>
      rw [find_of_route routed] at answered
      cases answered
      have present := (Bucket.keys_of_put_eq_overwritten put).2
      rw [if_pos]
      · rfl
      · rw [Option.isSome_iff_ne_none]
        exact fun absent => Bucket.find?_eq_none_iff_not_mem_keys.mp absent present
  | @add table id bucket held routed put =>
      rw [find_of_route routed] at answered
      cases answered
      have absent := Bucket.find?_eq_none_iff_not_mem_keys.mpr (Bucket.put_eq_added put).1
      simp [absent]
  | grow routed put shallow later inductionHypothesis =>
      have found := structured.found_of_route routed
      rw [inductionHypothesis (structured.grown found shallow hash)
        ((structured.find_grown found shallow key).trans answered), len_grown]

end Insert

section Remove

variable {present : Bool} {next : Table κ ν}

/-- A removal tells whether its key was found. -/
theorem Removes.present_eq (removes : Removes hash key table present next) {answer : Option ν}
    (answered : table.find hash key = .ok answer) : present = answer.isSome := by
  cases removes with
  | absent routed absent =>
      rw [find_of_route routed] at answered
      cases answered
      have notFound := Bucket.find?_eq_none_iff.mpr (Bucket.erase?_eq_none_iff.mp absent)
      simp [notFound]
  | @erase id bucket rest routed erased =>
      rw [find_of_route routed] at answered
      cases answered
      have stored : key ∈ bucket.keys :=
        (Bucket.perm_keys_of_erase?_eq_some erased).mem_iff.mpr List.mem_cons_self
      symm
      rw [Option.isSome_iff_ne_none]
      exact fun absent => Bucket.find?_eq_none_iff_not_mem_keys.mp absent stored

/-- A removal clears the answer for its key and leaves all others. -/
theorem Removes.find (removes : Removes hash key table present next)
    (structured : table.Structured) (other : κ) :
    next.find hash other = if other = key then .ok none else table.find hash other := by
  cases removes with
  | absent routed absent =>
      have notFound := Bucket.find?_eq_none_iff.mpr (Bucket.erase?_eq_none_iff.mp absent)
      split
      · rename_i same
        rw [same, find_of_route routed, notFound]
      · rfl
  | erase routed erased =>
      have found := structured.found_of_route routed
      exact structured.find_setBucket routed
        (Bucket.find?_of_erase?_eq_some erased (structured.distinct found)) _ other

theorem Removes.len (removes : Removes hash key table present next)
    (structured : table.Structured) :
    table.len = if present then next.len + 1 else next.len := by
  cases removes with
  | absent routed absent => rfl
  | erase routed erased =>
      have found := structured.found_of_route routed
      have counted := (structured.erased found erased).1
      change table.len = table.len - 1 + 1
      omega

end Remove

end PageBuffer.Table
