/-!
Buckets: the entries that share a routing pattern, and how many hash bits that pattern has.
-/

namespace PageBuffer

/-- The entries at one local depth.  Their order has no meaning. -/
structure Bucket (κ ν : Type) where
  depth : Nat := 0
  entries : List (κ × ν) := []
  deriving DecidableEq, Repr

namespace Bucket

variable {κ ν : Type}

/-- Drops the entry at `position`; the last entry takes its place. -/
def dropAt (entries : List (κ × ν)) (position : Nat) : List (κ × ν) :=
  match entries.getLast? with
  | none => []
  | some last => (entries.set position last).dropLast

theorem dropAt_concat (before : List (κ × ν)) (last : κ × ν) :
    dropAt (before ++ [last]) before.length = before := by
  simp [dropAt]

theorem dropAt_append_concat (before after : List (κ × ν)) (entry last : κ × ν) :
    dropAt (before ++ entry :: (after ++ [last])) before.length = before ++ last :: after := by
  simp [dropAt, List.getLast?_append, List.getLast?_cons, List.dropLast_cons_of_ne_nil,
    List.dropLast_append_of_ne_nil]

/-- Only the entry at the position goes. -/
theorem perm_dropAt (before after : List (κ × ν)) (entry : κ × ν) :
    (before ++ entry :: after).Perm (entry :: dropAt (before ++ entry :: after) before.length) := by
  rcases List.eq_nil_or_concat after with rfl | ⟨front, last, rfl⟩
  · rw [dropAt_concat]
    exact List.perm_append_singleton entry before
  · rw [List.concat_eq_append, dropAt_append_concat]
    refine List.perm_middle.trans (.cons entry ?_)
    exact List.Perm.append_left before (List.perm_append_singleton last front)

variable [DecidableEq κ]

def find? (bucket : Bucket κ ν) (key : κ) : Option ν :=
  (bucket.entries.find? (·.1 = key)).map (·.2)

/-- The bucket without the key's entry, if it holds one. -/
def erase? (bucket : Bucket κ ν) (key : κ) : Option (Bucket κ ν) :=
  (bucket.entries.findIdx? (·.1 = key)).map fun position =>
    { bucket with entries := dropAt bucket.entries position }

@[simp]
theorem find?_eq_none_iff {bucket : Bucket κ ν} {key : κ} :
    bucket.find? key = none ↔ ∀ entry ∈ bucket.entries, entry.1 ≠ key := by
  simp [find?]

@[simp]
theorem erase?_eq_none_iff {bucket : Bucket κ ν} {key : κ} :
    bucket.erase? key = none ↔ ∀ entry ∈ bucket.entries, entry.1 ≠ key := by
  simp [erase?]

@[simp]
theorem depth_of_erase? {bucket rest : Bucket κ ν} {key : κ} (erased : bucket.erase? key = some rest) :
    rest.depth = bucket.depth := by
  obtain ⟨position, _, rfl⟩ := Option.map_eq_some_iff.mp erased
  rfl

/-- What putting an entry into a bucket comes to. -/
inductive Put (κ ν : Type) where
  | overwritten (bucket : Bucket κ ν)
  | added (bucket : Bucket κ ν)
  | full

/-- Overwrites the key's value, or else adds an entry if there is room for it. -/
def put (bucket : Bucket κ ν) (capacity : Nat) (key : κ) (value : ν) : Put κ ν :=
  match bucket.entries.findIdx? (·.1 = key) with
  | some position => .overwritten { bucket with entries := bucket.entries.set position (key, value) }
  | none =>
      if bucket.entries.length < capacity then
        .added { bucket with entries := bucket.entries ++ [(key, value)] }
      else
        .full

end Bucket

end PageBuffer
