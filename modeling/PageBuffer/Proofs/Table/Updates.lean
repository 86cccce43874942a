import PageBuffer.Proofs.Table.Lookup

/-!
Insertions and removals concern one key, whatever hash functions a table was built under.

Entries that the current hash function no longer routes to, among them stale ones of the same key,
are moved about by splits, but stay where no look-up comes.  So the stored entries change by the one
that a look-up finds, and by no other.
-/

namespace PageBuffer.Table

variable {κ ν : Type} {table final next : Table κ ν} {hash : HashFunction κ} {id : Nat}
  {bucket : Bucket κ ν} {key : κ} {value : ν} {answer : Option ν} {present : Bool}

/-- A bucket's entries stand beside those of the other buckets, which do not change with it. -/
theorem exists_entries_setBucket_perm (found : table.buckets[id]? = some bucket) :
    ∃ rest, table.entries.Perm (bucket.entries ++ rest) ∧
      ∀ held, (table.setBucket id held).entries.Perm (held.entries ++ rest) := by
  have emptied := entries_setBucket_perm found { entries := [] }
  rw [List.append_nil] at emptied
  refine ⟨(table.setBucket id { entries := [] }).entries,
    emptied.symm.trans List.perm_append_comm, ?_⟩
  intro held
  rw [← List.perm_append_right_iff bucket.entries, List.append_assoc]
  calc ((table.setBucket id held).entries ++ bucket.entries).Perm (table.entries ++ held.entries) :=
        entries_setBucket_perm found held
    List.Perm _ (held.entries ++ table.entries) := List.perm_append_comm
    List.Perm _ _ := emptied.symm.append_left held.entries

variable [DecidableEq κ]

/-- The entry that a look-up for the key has found, if any. -/
def foundEntry (key : κ) (answer : Option ν) : List (κ × ν) :=
  answer.toList.map (key, ·)

/-- The entry found under the key gives way to the new one, and all others stay. -/
theorem Inserts.entries_perm (inserts : Inserts hash key value table final)
    (structured : table.Structured) (answered : table.find hash key = .ok answer) :
    ∃ rest, table.entries.Perm (foundEntry key answer ++ rest) ∧
      final.entries.Perm ((key, value) :: rest) := by
  induction inserts with
  | @overwrite table id bucket held routed put =>
      have found := structured.found_of_route routed
      obtain ⟨others, before, after⟩ := exists_entries_setBucket_perm found
      rcases Bucket.put_eq_overwritten put with ⟨front, back, former, split, rfl⟩
      have stored : (key, former) ∈ bucket.entries := by simp [split]
      rw [find_of_route routed,
        (Bucket.find?_eq_some_iff (structured.distinct found)).mpr stored] at answered
      cases answered
      refine ⟨front ++ back ++ others, ?_, ?_⟩
      · rw [split] at before
        exact before.trans (List.perm_middle.append_right others)
      · exact (after _).trans (List.perm_middle.append_right others)
  | @add table id bucket held routed put =>
      have found := structured.found_of_route routed
      obtain ⟨others, before, after⟩ := exists_entries_setBucket_perm found
      rcases Bucket.put_eq_added put with ⟨absent, _, rfl⟩
      rw [find_of_route routed, Bucket.find?_eq_none_iff_not_mem_keys.mpr absent] at answered
      cases answered
      refine ⟨bucket.entries ++ others, before, ?_⟩
      exact (after _).trans ((List.perm_append_singleton _ _).append_right others)
  | grow routed put shallow later inductionHypothesis =>
      have found := structured.found_of_route routed
      obtain ⟨rest, before, after⟩ := inductionHypothesis (structured.grown found shallow hash)
        ((structured.find_grown found shallow key).trans answered)
      exact ⟨rest, (entries_grown_perm found).symm.trans before, after⟩

/-- The entry found under the key is taken away, and all others stay. -/
theorem Removes.entries_perm (removes : Removes hash key table present next)
    (structured : table.Structured) (answered : table.find hash key = .ok answer) :
    table.entries.Perm (foundEntry key answer ++ next.entries) := by
  cases removes with
  | absent routed absent =>
      rw [find_of_route routed,
        Bucket.find?_eq_none_iff.mpr (Bucket.erase?_eq_none_iff.mp absent)] at answered
      cases answered
      exact .refl _
  | @erase id bucket rest routed erased =>
      have found := structured.found_of_route routed
      obtain ⟨others, before, after⟩ := exists_entries_setBucket_perm found
      rcases Bucket.erase?_eq_some erased with ⟨former, _, perm⟩
      have stored : (key, former) ∈ bucket.entries := perm.mem_iff.mpr List.mem_cons_self
      rw [find_of_route routed,
        (Bucket.find?_eq_some_iff (structured.distinct found)).mpr stored] at answered
      cases answered
      exact before.trans ((perm.append_right others).trans ((after rest).symm.cons _))

theorem Removes.eq_of_not_present (removes : Removes hash key table false next) : next = table := by
  cases removes
  rfl

/-- The table after its key was given a value: nothing else has changed that a caller can see, nor
any other stored entry. -/
structure Assigned (hash : HashFunction κ) (key : κ) (value : ν) (answer : Option ν)
    (table final : Table κ ν) : Prop where
  find_self : final.find hash key = .ok (some value)
  find_other : ∀ other ≠ key, final.find hash other = table.find hash other
  len_eq : final.len = if answer = none then table.len + 1 else table.len
  entries_perm : ∃ rest, table.entries.Perm (foundEntry key answer ++ rest) ∧
    final.entries.Perm ((key, value) :: rest)

/-- The table after its key was dropped, with the answer that told whether it was there. -/
structure Dropped (hash : HashFunction κ) (key : κ) (answer : Option ν) (table : Table κ ν)
    (present : Bool) (next : Table κ ν) : Prop where
  present_iff : present = true ↔ answer ≠ none
  find_self : next.find hash key = .ok none
  find_other : ∀ other ≠ key, next.find hash other = table.find hash other
  len_eq : table.len = if present then next.len + 1 else next.len
  entries_perm : table.entries.Perm (foundEntry key answer ++ next.entries)
  unchanged : present = false → next = table

theorem Inserts.assigned (inserts : Inserts hash key value table final)
    (structured : table.Structured) (answered : table.find hash key = .ok answer) :
    Assigned hash key value answer table final where
  find_self := by rw [inserts.find structured, if_pos rfl]
  find_other other different := by rw [inserts.find structured, if_neg different]
  len_eq := by
    rw [inserts.len structured answered]
    cases answer <;> rfl
  entries_perm := inserts.entries_perm structured answered

theorem Removes.dropped (removes : Removes hash key table present next)
    (structured : table.Structured) (answered : table.find hash key = .ok answer) :
    Dropped hash key answer table present next where
  present_iff := by
    rw [removes.present_eq answered]
    exact Option.isSome_iff_ne_none
  find_self := by rw [removes.find structured, if_pos rfl]
  find_other other different := by rw [removes.find structured, if_neg different]
  len_eq := removes.len structured
  entries_perm := removes.entries_perm structured answered
  unchanged absent := by
    subst absent
    exact removes.eq_of_not_present

/-- Let any run have led to a table, hash functions changing between its calls, and let any hash
function be current now.  An insertion that returns assigns to its key and leaves all else alone; a
removal always returns, and drops its key if a look-up finds it. -/
theorem point_updates_after_any_history {bucketSize : Nat} {fresh : Table κ ν}
    (created : create bucketSize = .ok fresh) (steps : List (HashFunction κ × Call κ ν))
    (hash : HashFunction κ) (key : κ) (value : ν) :
    let table := Run.finalState performHashed fresh steps
    ∃ answer, table.find hash key = .ok answer ∧
      (∀ final events, table.insert hash key value = .ok (final, events) →
        Assigned hash key value answer table final) ∧
      ∃ present next, table.remove hash key = .ok (present, next) ∧
        Dropped hash key answer table present next := by
  intro table
  have structured : table.Structured := ((structured_create created).finalState steps).1
  obtain ⟨answer, answered⟩ := structured.exists_find hash key
  refine ⟨answer, answered, ?_, ?_⟩
  · intro final events inserted
    have inserts := structured.aligned.inserts_of_insert structured.globalDepth_le inserted
    exact inserts.assigned structured answered
  · obtain ⟨present, next, removed, removes⟩ := structured.exists_removes hash key
    exact ⟨present, next, removed, removes.dropped structured answered⟩

/-- Key `0` has been inserted under two hash functions and is stored twice, and key `2` is stored
where it is not found.  To insert key `2` once more splits the bucket of the key `0` that is found;
to remove key `0` leaves the other one. -/
theorem point_updates_after_any_history_stale :
    let fresh : Table Nat Nat := { bucketSize := 2 }
    let plain : HashFunction Nat := fun key => UInt64.ofNat key
    let swapped : HashFunction Nat := fun key => UInt64.ofNat key ^^^ 1
    let steps : List (HashFunction Nat × Call Nat Nat) :=
      [(plain, .insert 0 5), (plain, .insert 1 6), (plain, .insert 2 7), (swapped, .insert 0 8)]
    let table := Run.finalState performHashed fresh steps
    let final : Table Nat Nat :=
      { bucketSize := 2, globalDepth := 2, directory := #[0, 1, 0, 2], len := 5
        buckets := #[⟨1, [(0, 5), (2, 7)]⟩, ⟨2, [(1, 6), (0, 8)]⟩, ⟨2, [(2, 9)]⟩] }
    let next : Table Nat Nat :=
      { bucketSize := 2, globalDepth := 1, directory := #[0, 1], len := 3
        buckets := #[⟨1, [(0, 5), (2, 7)]⟩, ⟨1, [(1, 6)]⟩] }
    create 2 = .ok fresh ∧ table.entries = [(0, 5), (2, 7), (1, 6), (0, 8)] ∧
      table.insert swapped 2 9 = .ok (final, [.doubled 4 2, .split 1 2 0 2 1, .shape 3 2]) ∧
      Assigned swapped 2 9 none table final ∧
      table.remove swapped 0 = .ok (true, next) ∧ Dropped swapped 0 (some 8) table true next := by
  intro fresh plain swapped steps table final next
  have created : create 2 = .ok fresh := rfl
  have inserted : table.insert swapped 2 9 =
      .ok (final, [.doubled 4 2, .split 1 2 0 2 1, .shape 3 2]) := by decide +kernel
  have removed : table.remove swapped 0 = .ok (true, next) := by decide +kernel
  have notFound : table.find swapped 2 = .ok none := by decide +kernel
  have isFound : table.find swapped 0 = .ok (some 8) := by decide +kernel
  obtain ⟨_, answered, assigned, _⟩ := point_updates_after_any_history created steps swapped 2 9
  cases answered.symm.trans notFound
  obtain ⟨_, otherAnswered, _, _, _, dropped, drops⟩ :=
    point_updates_after_any_history created steps swapped 0 9
  cases otherAnswered.symm.trans isFound
  cases dropped.symm.trans removed
  exact ⟨created, by decide +kernel, inserted, assigned final _ inserted, removed, drops⟩

end PageBuffer.Table
