import PageBuffer.Table.Run

/-!
A table's contents as a plain finite map: what its calls mean without directory, buckets and hashes.
-/

namespace PageBuffer.Table

/-- Keys with their values, each key at most once. -/
structure Contents (κ ν : Type) where
  entries : List (κ × ν) := []
  deriving DecidableEq, Repr

namespace Contents

/-- A call that concerns contents only. -/
inductive Call (κ ν : Type) where
  | insert (key : κ) (value : ν)
  | find (key : κ)
  | remove (key : κ)
  | len
  | isEmpty
  deriving DecidableEq, Repr

def Call.onTable {κ ν : Type} : Call κ ν → Table.Call κ ν
  | .insert key value => .insert key value
  | .find key => .find key
  | .remove key => .remove key
  | .len => .len
  | .isEmpty => .isEmpty

/-- The key that a call is about, where it is about one. -/
def Call.key? {κ ν : Type} : Call κ ν → Option κ
  | .insert key _ => some key
  | .find key => some key
  | .remove key => some key
  | .len => none
  | .isEmpty => none

variable {κ ν : Type} [DecidableEq κ]

def find? (contents : Contents κ ν) (key : κ) : Option ν :=
  (contents.entries.find? (·.1 = key)).map (·.2)

def remove (contents : Contents κ ν) (key : κ) : Contents κ ν :=
  ⟨contents.entries.filter (·.1 ≠ key)⟩

def insert (contents : Contents κ ν) (key : κ) (value : ν) : Contents κ ν :=
  ⟨(key, value) :: (contents.remove key).entries⟩

def perform (call : Call κ ν) (contents : Contents κ ν) :
    Outcome (Contents κ ν) Empty (Answer ν) :=
  match call with
  | .insert key value => ⟨.done, contents.insert key value, []⟩
  | .find key => ⟨.found (contents.find? key), contents, []⟩
  | .remove key => ⟨.removed (contents.find? key).isSome, contents.remove key, []⟩
  | .len => ⟨.number contents.entries.length, contents, []⟩
  | .isEmpty => ⟨.empty contents.entries.isEmpty, contents, []⟩

@[simp]
theorem find?_remove (contents : Contents κ ν) (key other : κ) :
    (contents.remove key).find? other = if other = key then none else contents.find? other := by
  simp only [find?, remove, List.find?_filter]
  split
  · rename_i same
    simp [same]
  · rename_i different
    congr 2
    funext entry
    by_cases sought : entry.1 = other <;> simp [sought, different]

@[simp]
theorem find?_insert (contents : Contents κ ν) (key other : κ) (value : ν) :
    (contents.insert key value).find? other =
      if other = key then some value else contents.find? other := by
  have rest := contents.find?_remove key other
  by_cases same : other = key
  · simp [find?, insert, same]
  · simpa [find?, insert, same, Ne.symm same] using rest

end Contents

end PageBuffer.Table
