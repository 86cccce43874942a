import PageBuffer.Error
import PageBuffer.Hash
import PageBuffer.Table.Bucket
import PageBuffer.Table.Event
import PageBuffer.Table.Fault

/-!
Extendible hashing.

The directory has `2 ^ globalDepth` slots, each naming a bucket.  A bucket of local depth `d` is
named by every slot that agrees with it on the low `d` bits.  A full bucket is split at the next
bit, after the directory has been doubled if the bucket was as deep as the directory.  Buckets are
never merged.

The hash function is an argument of every operation, so that a history may change it.
-/

namespace PageBuffer

/-- A directory of slots over numbered buckets. -/
structure Table (κ ν : Type) where
  /-- Entries per bucket. -/
  bucketSize : Nat
  bucketSize_pos : 0 < bucketSize := by decide
  globalDepth : Nat := 0
  /-- For each slot the number of the bucket it names. -/
  directory : Array Nat := #[0]
  buckets : Array (Bucket κ ν) := #[{}]
  /-- How many entries are stored. -/
  len : Nat := 0
  deriving Repr

namespace Table

variable {κ ν : Type}

-- Two tables with the same data have the same proof of room.
instance [DecidableEq κ] [DecidableEq ν] : DecidableEq (Table κ ν) := fun one other =>
  decidable_of_iff
    (one.bucketSize = other.bucketSize ∧ one.globalDepth = other.globalDepth ∧
      one.directory = other.directory ∧ one.buckets = other.buckets ∧ one.len = other.len)
    (by cases one; cases other; simp)

/-- A table without entries: one bucket, one slot.  A bucket without room is refused, since it
would split for ever.

Every bucket is taken to have storage for as many entries.  From about `2 ^ 60` on it cannot have
it, and `build` says when. -/
def create (bucketSize : Nat) : Except BufferError (Table κ ν) :=
  if positive : 0 < bucketSize then
    .ok { bucketSize, bucketSize_pos := positive }
  else
    .error (.invalidConfig "hash table bucket_size must be positive")

def isEmpty (table : Table κ ν) : Bool :=
  table.len = 0

def bucketCount (table : Table κ ν) : Nat :=
  table.buckets.size

/-- All stored entries, bucket by bucket. -/
def entries (table : Table κ ν) : List (κ × ν) :=
  table.buckets.toList.flatMap (·.entries)

/-- The bucket that a slot names, with its number. -/
def bucketAt (table : Table κ ν) (slot : Nat) : Except Fault (Nat × Bucket κ ν) :=
  match table.directory[slot]? with
  | none => .error (.noSlot slot)
  | some id =>
      match table.buckets[id]? with
      | none => .error (.noBucket id)
      | some bucket => .ok (id, bucket)

def localDepth (table : Table κ ν) (slot : Nat) : Except Fault Nat :=
  (table.bucketAt slot).map (·.2.depth)

/-- The local depth of every slot, in order. -/
def localDepths (table : Table κ ν) : Except Fault (List Nat) :=
  (List.range (1 <<< table.globalDepth)).mapM table.localDepth

/-- The bucket that a key belongs to: the slot is the low bits of the key's hash. -/
def route (table : Table κ ν) (hash : HashFunction κ) (key : κ) :
    Except Fault (Nat × Bucket κ ν) := do
  let slot ← lowBits (hash key).toNat table.globalDepth
  table.bucketAt slot

def setBucket (table : Table κ ν) (id : Nat) (bucket : Bucket κ ν) : Table κ ν :=
  { table with buckets := table.buckets.setIfInBounds id bucket }

/-- Twice as many slots; the new half repeats the old one, and no entry moves. -/
def double (table : Table κ ν) : Table κ ν × Event :=
  let directory := table.directory ++ table.directory
  let depth := table.globalDepth + 1
  ({ table with directory, globalDepth := depth }, .doubled directory.size depth)

/-- Splits bucket `id` at its next bit.  The entries whose hash has that bit move to a new bucket,
and so do the slots of the old bucket that have it. -/
def split (table : Table κ ν) (hash : HashFunction κ) (id : Nat) (bucket : Bucket κ ν) :
    Except Fault (Table κ ν × List Event) := do
  let bit := bucket.depth
  let _ ← powerOfTwo bit
  let depth := bit + 1
  let sibling := table.buckets.size
  let (moved, kept) := bucket.entries.partition fun entry => (hash entry.1).toNat.testBit bit
  let repointed (slot target : Nat) : Bool := target = id && slot.testBit bit
  let buckets :=
    (table.buckets.setIfInBounds id { depth, entries := kept }).push { depth, entries := moved }
  let directory := table.directory.mapIdx fun slot target =>
    if repointed slot target then sibling else target
  let slots := table.directory.zipIdx.countP fun (target, slot) => repointed slot target
  return ({ table with directory, buckets },
    [.split id depth moved.length sibling slots, .shape buckets.size table.globalDepth])

/-- Splits a full bucket, doubling the directory first where it has no bit to spare. -/
def makeRoom (table : Table κ ν) (hash : HashFunction κ) (id : Nat) (bucket : Bucket κ ν) :
    Except Fault (Table κ ν × List Event) := do
  if bucket.depth = table.globalDepth then
    let (wider, doubling) := table.double
    let (parted, parting) ← wider.split hash id bucket
    return (parted, doubling :: parting)
  else
    table.split hash id bucket

variable [DecidableEq κ]

/-- The value stored under a key. -/
def find (table : Table κ ν) (hash : HashFunction κ) (key : κ) : Except Fault (Option ν) := do
  let (_, bucket) ← table.route hash key
  return bucket.find? key

/-- Removes the key's entry, and tells whether there was one. -/
def remove (table : Table κ ν) (hash : HashFunction κ) (key : κ) :
    Except Fault (Bool × Table κ ν) := do
  let (id, bucket) ← table.route hash key
  match bucket.erase? key with
  | none => return (false, table)
  | some rest =>
      let len ← minus table.len 1
      return (true, { table.setBucket id rest with len })

/-- Inserts or overwrites, with at most `levels` splits on the way. -/
def insertWithin (hash : HashFunction κ) (key : κ) (value : ν) (levels : Nat)
    (table : Table κ ν) : Except Fault (Table κ ν × List Event) := do
  let (id, bucket) ← table.route hash key
  match bucket.put table.bucketSize key value with
  | .overwritten bucket => return (table.setBucket id bucket, [])
  | .added bucket => return ({ table.setBucket id bucket with len := table.len + 1 }, [])
  | .full =>
      match levels with
      | 0 => throw .inseparable
      | levels + 1 =>
          let (roomier, growth) ← table.makeRoom hash id bucket
          let (final, later) ← insertWithin hash key value levels roomier
          return (final, growth ++ later)

/-- Inserts or overwrites.  Each split takes the key's bucket one level deeper, so the levels that
are left down to depth `63` bound their number. -/
def insert (table : Table κ ν) (hash : HashFunction κ) (key : κ) (value : ν) :
    Except Fault (Table κ ν × List Event) := do
  let (_, bucket) ← table.route hash key
  insertWithin hash key value (63 - bucket.depth) table

end Table

end PageBuffer
