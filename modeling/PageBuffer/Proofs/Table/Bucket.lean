import PageBuffer.Proofs.Keyed
import PageBuffer.Table.Bucket

/-!
What putting an entry into a bucket and erasing one do to the bucket's keys and to its look-ups.

A bucket with distinct keys is a finite map: a look-up finds a value exactly if the entry is there,
wherever it stands.
-/

namespace PageBuffer.Bucket

variable {κ ν : Type}

def keys (bucket : Bucket κ ν) : List κ :=
  bucket.entries.map (·.1)

theorem mem_keys_of_mem_entries {bucket : Bucket κ ν} {entry : κ × ν}
    (stored : entry ∈ bucket.entries) : entry.1 ∈ bucket.keys :=
  List.mem_map_of_mem stored

@[simp]
theorem length_keys (bucket : Bucket κ ν) : bucket.keys.length = bucket.entries.length := by
  simp [keys]

variable [DecidableEq κ] {bucket held rest : Bucket κ ν} {capacity : Nat} {key : κ} {value : ν}

theorem find?_eq_some_iff (distinct : bucket.keys.Nodup) :
    bucket.find? key = some value ↔ (key, value) ∈ bucket.entries := by
  rw [find?, Option.map_eq_some_iff]
  constructor
  · rintro ⟨entry, found, rfl⟩
    rcases (Keyed.find?_eq_some_iff distinct).mp found with ⟨stored, rfl⟩
    exact stored
  · intro stored
    exact ⟨(key, value), (Keyed.find?_eq_some_iff distinct).mpr ⟨stored, rfl⟩, rfl⟩

theorem find?_eq_none_iff_not_mem_keys : bucket.find? key = none ↔ key ∉ bucket.keys := by
  rw [find?_eq_none_iff, keys, List.mem_map]
  constructor
  · rintro absent ⟨entry, stored, same⟩
    exact absent entry stored same
  · intro absent entry stored same
    exact absent ⟨entry, stored, same⟩

theorem append_of_findIdx?_eq_some {entries : List (κ × ν)} {position : Nat}
    (found : entries.findIdx? (·.1 = key) = some position) :
    ∃ before after former, entries = before ++ (key, former) :: after ∧
      before.length = position := by
  rw [List.findIdx?_eq_some_iff_getElem] at found
  rcases found with ⟨inside, sameKey, _⟩
  refine ⟨entries.take position, entries.drop (position + 1), entries[position].2, ?_, ?_⟩
  · have entry : (key, entries[position].2) = entries[position] := by
      rw [← of_decide_eq_true sameKey]
    rw [entry, ← List.drop_eq_getElem_cons inside, List.take_append_drop]
  · simp [Nat.min_eq_left (Nat.le_of_lt inside)]

/-- Overwriting changes one value in place. -/
theorem put_eq_overwritten (put : bucket.put capacity key value = .overwritten held) :
    ∃ before after former, bucket.entries = before ++ (key, former) :: after ∧
      held = { bucket with entries := before ++ (key, value) :: after } := by
  unfold Bucket.put at put
  split at put
  · rename_i position found
    rcases append_of_findIdx?_eq_some found with ⟨before, after, former, split, rfl⟩
    refine ⟨before, after, former, split, ?_⟩
    rw [← Put.overwritten.inj put, split]
    simp
  · split at put <;> simp at put

theorem depth_of_put_eq_overwritten (put : bucket.put capacity key value = .overwritten held) :
    held.depth = bucket.depth := by
  rcases put_eq_overwritten put with ⟨_, _, _, _, rfl⟩
  rfl

theorem put_eq_added (put : bucket.put capacity key value = .added held) :
    key ∉ bucket.keys ∧ bucket.entries.length < capacity ∧
      held = { bucket with entries := bucket.entries ++ [(key, value)] } := by
  unfold Bucket.put at put
  split at put
  · simp at put
  · rename_i absent
    split at put
    · rename_i room
      refine ⟨?_, room, (Put.added.inj put).symm⟩
      rw [← find?_eq_none_iff_not_mem_keys]
      simpa using absent
    · simp at put

theorem depth_of_put_eq_added (put : bucket.put capacity key value = .added held) :
    held.depth = bucket.depth := by
  rcases put_eq_added put with ⟨_, _, rfl⟩
  rfl

theorem put_eq_full_iff : bucket.put capacity key value = .full ↔
    key ∉ bucket.keys ∧ capacity ≤ bucket.entries.length := by
  rw [← find?_eq_none_iff_not_mem_keys, find?_eq_none_iff]
  unfold Bucket.put
  split
  · rename_i position found
    rcases List.findIdx?_eq_some_iff_getElem.mp found with ⟨inside, sameKey, _⟩
    simp only [reduceCtorEq, false_iff, not_and]
    intro absent
    exact absurd (of_decide_eq_true sameKey) (absent _ (List.getElem_mem inside))
  · rename_i absent
    simp only [List.findIdx?_eq_none_iff, decide_eq_false_iff_not] at absent
    split
    · rename_i room
      simp only [reduceCtorEq, false_iff, not_and, Nat.not_le]
      intro _
      exact room
    · rename_i crowded
      exact iff_of_true rfl ⟨absent, Nat.le_of_not_lt crowded⟩

/-- Erasing takes one entry away; the order of the others may change. -/
theorem erase?_eq_some (erased : bucket.erase? key = some rest) :
    ∃ former, rest.depth = bucket.depth ∧
      bucket.entries.Perm ((key, former) :: rest.entries) := by
  rcases Option.map_eq_some_iff.mp erased with ⟨position, found, rfl⟩
  rcases append_of_findIdx?_eq_some found with ⟨before, after, former, split, rfl⟩
  refine ⟨former, rfl, ?_⟩
  simp only [split]
  exact perm_dropAt before after (key, former)

section Keys

theorem keys_of_put_eq_overwritten (put : bucket.put capacity key value = .overwritten held) :
    held.keys = bucket.keys ∧ key ∈ bucket.keys := by
  rcases put_eq_overwritten put with ⟨before, after, former, split, rfl⟩
  simp [keys, split]

theorem keys_of_put_eq_added (put : bucket.put capacity key value = .added held) :
    held.keys = bucket.keys ++ [key] := by
  rcases put_eq_added put with ⟨_, _, rfl⟩
  simp [keys]

theorem nodup_keys_of_put_eq_added (put : bucket.put capacity key value = .added held)
    (distinct : bucket.keys.Nodup) : held.keys.Nodup := by
  rw [keys_of_put_eq_added put, ← List.concat_eq_append]
  exact List.Nodup.concat (put_eq_added put).1 distinct

theorem perm_keys_of_erase?_eq_some (erased : bucket.erase? key = some rest) :
    bucket.keys.Perm (key :: rest.keys) := by
  rcases erase?_eq_some erased with ⟨former, _, perm⟩
  exact perm.map (·.1)

theorem put_of_mem_keys (present : key ∈ bucket.keys) :
    ∃ before former after, bucket.entries = before ++ (key, former) :: after ∧
      bucket.put capacity key value =
        .overwritten { bucket with entries := before ++ (key, value) :: after } := by
  cases put : bucket.put capacity key value with
  | overwritten held =>
      rcases put_eq_overwritten put with ⟨before, after, former, split, rfl⟩
      exact ⟨before, former, after, split, rfl⟩
  | added held => exact absurd present (put_eq_added put).1
  | full => exact absurd present (put_eq_full_iff.mp put).1

theorem put_of_room (absent : key ∉ bucket.keys) (room : bucket.entries.length < capacity) :
    bucket.put capacity key value =
      .added { bucket with entries := bucket.entries ++ [(key, value)] } := by
  cases put : bucket.put capacity key value with
  | overwritten held => exact absurd (keys_of_put_eq_overwritten put).2 absent
  | added held => rw [(put_eq_added put).2.2]
  | full => exact absurd room (Nat.not_lt.mpr (put_eq_full_iff.mp put).2)

end Keys

section Find

/-- What is put into a bucket is found there, and nothing else changes. -/
theorem find?_of_put_eq_overwritten (put : bucket.put capacity key value = .overwritten held)
    (distinct : bucket.keys.Nodup) (other : κ) :
    held.find? other = if other = key then some value else bucket.find? other := by
  rcases put_eq_overwritten put with ⟨before, after, former, split, rfl⟩
  have absentBefore : ∀ entry ∈ before, entry.1 ≠ key := by
    rintro entry stored rfl
    rw [keys, split, List.map_append, List.nodup_append] at distinct
    exact distinct.2.2 entry.1 (List.mem_map_of_mem stored) entry.1 (by simp) rfl
  simp only [find?, split, List.find?_append, List.find?_cons]
  by_cases same : other = key
  · subst other
    have notBefore : before.find? (·.1 = key) = none := by simpa using absentBefore
    simp [notBefore]
  · simp [same, Ne.symm same]

theorem find?_of_put_eq_added (put : bucket.put capacity key value = .added held) (other : κ) :
    held.find? other = if other = key then some value else bucket.find? other := by
  rcases put_eq_added put with ⟨absent, _, rfl⟩
  rw [← find?_eq_none_iff_not_mem_keys] at absent
  by_cases same : other = key
  · subst other
    have notThere : bucket.entries.find? (·.1 = key) = none := by simpa [find?] using absent
    simp [find?, List.find?_append, notThere]
  · simp [find?, List.find?_append, same, Ne.symm same]

theorem find?_of_erase?_eq_some (erased : bucket.erase? key = some rest)
    (distinct : bucket.keys.Nodup) (other : κ) :
    rest.find? other = if other = key then none else bucket.find? other := by
  have keysPerm := perm_keys_of_erase?_eq_some erased
  have restDistinct := List.nodup_cons.mp (keysPerm.nodup_iff.mp distinct)
  split
  · rename_i same
    rw [same]
    exact find?_eq_none_iff_not_mem_keys.mpr restDistinct.1
  · rename_i different
    apply Option.ext
    intro found
    rcases erase?_eq_some erased with ⟨former, _, perm⟩
    rw [find?_eq_some_iff restDistinct.2, find?_eq_some_iff distinct, perm.mem_iff]
    simp [different]

end Find

end PageBuffer.Bucket
