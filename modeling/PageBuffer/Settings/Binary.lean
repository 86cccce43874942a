import PageBuffer.Bytes.LittleEndian
import PageBuffer.Settings.Basic

/-!
The binary form of settings: three words of eight bytes each, in the order of the fields.
-/

namespace PageBuffer.Settings.Binary

open Bytes (LittleEndian.encode LittleEndian.decode)

def encodeWord (word : UInt64) : List UInt8 :=
  LittleEndian.encode 8 word.toNat

def encode (settings : Settings) : List UInt8 :=
  encodeWord settings.bucketSize ++ encodeWord settings.poolSize ++ encodeWord settings.replacerK

@[simp]
theorem length_encode (settings : Settings) : (encode settings).length = 24 := by
  simp [encode, encodeWord]

/-- The word in the first eight bytes, and the bytes after it. -/
def decodeWord? (bytes : List UInt8) : Option (UInt64 × List UInt8) :=
  if 8 ≤ bytes.length then
    some (.ofNat (LittleEndian.decode (bytes.take 8)), bytes.drop 8)
  else
    none

/-- Reads three words.  Bytes after them are ignored. -/
def decode? (bytes : List UInt8) : Option Settings := do
  let (bucketSize, bytes) ← decodeWord? bytes
  let (poolSize, bytes) ← decodeWord? bytes
  let (replacerK, _) ← decodeWord? bytes
  return { bucketSize, poolSize, replacerK }

end PageBuffer.Settings.Binary
