import PageBuffer.Table.Basic

/-!
The structural check of a table: the first broken rule, in a fixed order.
-/

namespace PageBuffer

namespace Table

/-- A broken rule, with the numbers that show it. -/
inductive Violation where
  | directorySize (slots depth expected : Nat)
  | missingBucket (slot id : Nat)
  | tooDeep (id depth globalDepth : Nat)
  | misrouted (slot id : Nat)
  | unreachable (id : Nat)
  | slotCount (id depth slots expected : Nat)
  | overfull (id entries capacity : Nat)
  | miscounted (entries len : Nat)
  deriving DecidableEq, Repr

namespace Violation

def reason : Violation → String
  | .directorySize slots depth expected =>
      s!"directory has {slots} slots, global depth {depth} needs {expected}"
  | .missingBucket slot id => s!"slot {slot} names missing bucket {id}"
  | .tooDeep id depth globalDepth =>
      s!"bucket {id} has local depth {depth} above global depth {globalDepth}"
  | .misrouted slot id => s!"slot {slot} routes to bucket {id} holding a key outside its range"
  | .unreachable id => s!"bucket {id} is unreachable"
  | .slotCount id depth slots expected =>
      s!"bucket {id} at depth {depth} is named by {slots} slots, expected {expected}"
  | .overfull id entries capacity => s!"bucket {id} holds {entries} entries, capacity {capacity}"
  | .miscounted entries len => s!"buckets hold {entries} entries, table counts {len}"

def toError (violation : Violation) : BufferError :=
  .invariant violation.reason

end Violation

variable {κ ν : Type}

/-- The directory has a slot for every pattern of `globalDepth` bits. -/
def auditDirectory (table : Table κ ν) : Except Fault (Option Violation) := do
  let expected ← powerOfTwo table.globalDepth
  return if table.directory.size = expected then none
    else some (.directorySize table.directory.size table.globalDepth expected)

/-- A slot names a bucket that is not too deep, and every key there hashes to the slot's bits. -/
def auditSlot (table : Table κ ν) (hash : HashFunction κ) (slot id : Nat) :
    Except Fault (Option Violation) :=
  match table.buckets[id]? with
  | none => return some (.missingBucket slot id)
  | some bucket =>
      if table.globalDepth < bucket.depth then
        return some (.tooDeep id bucket.depth table.globalDepth)
      else do
        let patterns ← powerOfTwo bucket.depth
        return if bucket.entries.any fun entry =>
            (hash entry.1).toNat % patterns ≠ slot % patterns then
          some (.misrouted slot id)
        else
          none

/-- A bucket is named by as many slots as its depth asks for, and is not overfull. -/
def auditBucket (table : Table κ ν) (id : Nat) (bucket : Bucket κ ν) :
    Except Fault (Option Violation) := do
  let slots := table.directory.count id
  if slots = 0 then
    return some (.unreachable id)
  else
    let expected ← powerOfTwo (← minus table.globalDepth bucket.depth)
    return if slots ≠ expected then
      some (.slotCount id bucket.depth slots expected)
    else if table.bucketSize < bucket.entries.length then
      some (.overfull id bucket.entries.length table.bucketSize)
    else
      none

/-- The counted length is the number of stored entries. -/
def auditLength (table : Table κ ν) : Option Violation :=
  let total := table.entries.length
  if total = table.len then none else some (.miscounted total table.len)

/-- The first broken rule: the directory's size, then slot by slot, then bucket by bucket, then the
count of entries. -/
def audit (table : Table κ ν) (hash : HashFunction κ) : Except Fault (Option Violation) :=
  [ table.auditDirectory,
    table.directory.toList.zipIdx.findSomeM? fun (id, slot) => table.auditSlot hash slot id,
    table.buckets.toList.zipIdx.findSomeM? fun (bucket, id) => table.auditBucket id bucket,
    .ok table.auditLength ].findSomeM? id

end Table

end PageBuffer
