import Mathlib.Algebra.Group.Nat.Defs
import PageBuffer.Bytes.LittleEndian

/-!
Numbers as bytes: writing and reading undo each other.
-/

namespace PageBuffer.Bytes.LittleEndian

theorem decode_encode (count number : Nat) : decode (encode count number) = number % 256 ^ count := by
  induction count generalizing number with
  | zero => simp [encode, decode, Nat.mod_one]
  | succ count inductionHypothesis =>
      have parts : number % (256 * 256 ^ count) = number % 256 + 256 * (number / 256 % 256 ^ count) :=
        Nat.mod_mul
      simp only [encode, decode, inductionHypothesis, UInt8.toNat_ofNat', Nat.pow_succ', parts]

theorem encode_decode (bytes : List UInt8) : encode bytes.length (decode bytes) = bytes := by
  induction bytes with
  | nil => rfl
  | cons byte rest inductionHypothesis =>
      have small := byte.toNat_lt
      have quotient : (byte.toNat + 256 * decode rest) / 256 = decode rest := by omega
      have first : UInt8.ofNat (byte.toNat + 256 * decode rest) = byte := by
        apply UInt8.toNat_inj.mp
        simp only [UInt8.toNat_ofNat']
        omega
      simp [encode, decode, quotient, first, inductionHypothesis]

theorem decode_lt (bytes : List UInt8) : decode bytes < 256 ^ bytes.length := by
  induction bytes with
  | nil => simp [decode]
  | cons byte rest inductionHypothesis =>
      have small := byte.toNat_lt
      simp only [decode, List.length_cons, Nat.pow_succ']
      omega

end PageBuffer.Bytes.LittleEndian
