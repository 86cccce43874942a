/-!
Numbers as bytes, least significant byte first.
-/

namespace PageBuffer.Bytes.LittleEndian

/-- The `count` low bytes of a number. -/
def encode : (count : Nat) → (number : Nat) → List UInt8
  | 0, _ => []
  | count + 1, number => UInt8.ofNat number :: encode count (number / 256)

def decode : List UInt8 → Nat
  | [] => 0
  | byte :: rest => byte.toNat + 256 * decode rest

@[simp]
theorem length_encode (count number : Nat) : (encode count number).length = count := by
  induction count generalizing number with
  | zero => rfl
  | succ count inductionHypothesis => simp [encode, inductionHypothesis]

end PageBuffer.Bytes.LittleEndian
