/-!
Hash functions.  A table takes any function from keys to 64-bit words; this module holds a word
for integer and for text keys, families that transform such a word, and a mixer that spreads words
which differ little.
-/

namespace PageBuffer

abbrev HashFunction (κ : Type) := κ → UInt64

namespace Hash

/-- An integer key as a two's complement word. -/
def integerWord (key : Int) : UInt64 :=
  UInt64.ofInt key

def fnvOffset : UInt64 := 0xcbf29ce484222325

def fnvPrime : UInt64 := 0x100000001b3

def fnvStep (word : UInt64) (byte : UInt8) : UInt64 :=
  (word ^^^ byte.toUInt64) * fnvPrime

/-- FNV-1a over the UTF-8 bytes of the key and a closing byte `0xff`, which no such text holds. -/
def textWord (key : String) : UInt64 :=
  fnvStep (key.toUTF8.foldl fnvStep fnvOffset) 0xff

/-- Ways to derive a hash from a key's word. -/
inductive Family where
  | identity
  | multiply (factor : UInt64)
  | shiftLeft (amount : UInt64)
  | shiftRight (amount : UInt64)
  | mask (bits : UInt64)
  | constant (word : UInt64)
  deriving DecidableEq, Repr

def Family.apply (family : Family) (word : UInt64) : UInt64 :=
  match family with
  | .identity => word
  | .multiply factor => word * factor
  | .shiftLeft amount => if amount < 64 then word <<< amount else 0
  | .shiftRight amount => if amount < 64 then word >>> amount else 0
  | .mask bits => word &&& bits
  | .constant result => result

/-- Three rounds of shifting and multiplying, each of which can be undone, so that distinct words
stay distinct. -/
def mix (word : UInt64) : UInt64 :=
  let first := (word ^^^ (word >>> 30)) * 0xbf58476d1ce4e5b9
  let second := (first ^^^ (first >>> 27)) * 0x94d049bb133111eb
  second ^^^ (second >>> 31)

/-- A caller's hasher: a family over the keys' words, and a salt that every hash is combined with. -/
structure Salted where
  family : Family
  salt : UInt64 := 0
  deriving DecidableEq, Repr

def Salted.hash {κ : Type} (hasher : Salted) (word : κ → UInt64) : HashFunction κ :=
  fun key => hasher.family.apply (word key) ^^^ hasher.salt

end Hash

end PageBuffer
