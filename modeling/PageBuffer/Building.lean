import PageBuffer.Fallible
import PageBuffer.Replacer.Basic
import PageBuffer.Settings.Basic
import PageBuffer.Table.Basic

/-!
Building tables and replacers together with the storage that they reserve at once.

A table reserves storage for one bucket, a replacer for all frames that it may track.  No more bytes
can be reserved than can be addressed.  Memory is taken to suffice for any other reservation, and
for all that is stored later.
-/

namespace PageBuffer

/-- Why nothing is built. -/
inductive BuildFault where
  | refused (error : BufferError)
  | capacityOverflow
  deriving DecidableEq, Repr

/-- How many bytes the stored items take. -/
structure Layout where
  /-- A key with its value. -/
  entryBytes : Nat
  /-- A map that has room for so many frames. -/
  mapBytes : Nat → Nat

namespace Layout

/-- The slots of a map that has room for `count` frames.  They are a power of two, and at least one
in eight stays free. -/
def mapSlots (count : Nat) : Nat :=
  if count < 4 then 4
  else if count < 8 then 8
  else 1 <<< (2 * (count * 8 / 7) - 1).log2

/-- The layout in a pool: a page number and a frame number are one word each, and each slot of the
map has six words and one control byte. -/
def ofPool : Layout where
  entryBytes := 16
  mapBytes count := if count = 0 then 0 else mapSlots count * 49 + 16

end Layout

/-- Reserves storage.  Half of what a 64-bit word can address is out of reach. -/
def reserve (bytes : Nat) : Except BuildFault Unit :=
  if bytes < UInt64.size / 2 then .ok () else .error .capacityOverflow

/-- What is created, provided that its storage can be reserved. -/
def withStorage {α : Type} (bytes : Nat) (created : Except BufferError α) :
    Except BuildFault α := do
  let value ← created.mapError .refused
  reserve bytes
  return value

theorem created_of_withStorage {α : Type} {bytes : Nat} {created : Except BufferError α} {value : α}
    (built : withStorage bytes created = .ok value) : created = .ok value := by
  simp only [withStorage, Fallible.bind_eq_ok_iff, Fallible.mapError_eq_ok_iff,
    Fallible.pure_eq_ok_iff] at built
  obtain ⟨_, isCreated, _, _, rfl⟩ := built
  exact isCreated

namespace Table

variable {κ ν : Type}

def build (layout : Layout) (bucketSize : Nat) : Except BuildFault (Table κ ν) :=
  withStorage (bucketSize * layout.entryBytes) (create bucketSize)

/-- A table of the given bucket size. -/
def ofSettings (layout : Layout) (settings : Settings) : Except BuildFault (Table κ ν) :=
  build layout settings.bucketSize.toNat

end Table

namespace Replacer

def build (layout : Layout) (capacity k : Nat) : Except BuildFault Replacer :=
  withStorage (layout.mapBytes capacity) (create capacity k)

/-- A replacer for the frames of a pool, with the given window. -/
def ofSettings (layout : Layout) (settings : Settings) : Except BuildFault Replacer :=
  build layout settings.poolSize.toNat settings.replacerK.toNat

end Replacer

end PageBuffer
