import Mathlib.Order.Basic
import PageBuffer.Proofs.Table.Directory

/-!
Which entries of a bucket go the way that a key goes, once the bucket is split at one hash bit after
the other.
-/

namespace PageBuffer

/-- Two numbers have the same bits from `low` on and before `high`. -/
def SameBits (low high one other : Nat) : Prop :=
  ∀ bit < high, low ≤ bit → one.testBit bit = other.testBit bit

instance (low high one other : Nat) : Decidable (SameBits low high one other) :=
  inferInstanceAs (Decidable (∀ bit < high, low ≤ bit → one.testBit bit = other.testBit bit))

theorem sameBits_iff_of_lt {low high one other : Nat} (lt : low < high) :
    SameBits low high one other ↔
      one.testBit low = other.testBit low ∧ SameBits (low + 1) high one other := by
  constructor
  · intro same
    exact ⟨same low lt (Nat.le_refl low),
      fun bit below above => same bit below (Nat.le_of_succ_le above)⟩
  · rintro ⟨lowest, rest⟩ bit below above
    rcases Nat.eq_or_lt_of_le above with rfl | beyond
    · exact lowest
    · exact rest bit below beyond

theorem sameBits_self_succ {low one other : Nat} :
    SameBits low (low + 1) one other ↔ one.testBit low = other.testBit low := by
  rw [sameBits_iff_of_lt (Nat.lt_succ_self low), and_iff_left_iff_imp]
  intro _ bit below above
  omega

namespace Bucket

variable {κ ν : Type} {bucket : Bucket κ ν} {hash : HashFunction κ} {key : κ} {deep : Nat}
  {entry : κ × ν}

/-- The entry's hash has the bits of the key's from the bucket's depth on and before `deep`. -/
def Along (bucket : Bucket κ ν) (hash : HashFunction κ) (key : κ) (deep : Nat)
    (entry : κ × ν) : Prop :=
  SameBits bucket.depth deep (hash entry.1).toNat (hash key).toNat

instance (bucket : Bucket κ ν) (hash : HashFunction κ) (key : κ) (deep : Nat) (entry : κ × ν) :
    Decidable (bucket.Along hash key deep entry) :=
  inferInstanceAs (Decidable (SameBits _ _ _ _))

/-- Some entry and the key have gone different ways by the depth `deep`. -/
def PartsBy (bucket : Bucket κ ν) (hash : HashFunction κ) (key : κ) (deep : Nat) : Prop :=
  bucket.depth < deep ∧ deep ≤ 63 ∧ ∃ entry ∈ bucket.entries, ¬ bucket.Along hash key deep entry

instance (bucket : Bucket κ ν) (hash : HashFunction κ) (key : κ) (deep : Nat) :
    Decidable (bucket.PartsBy hash key deep) :=
  inferInstanceAs (Decidable (_ ∧ _ ∧ _))

/-- The bucket that the key comes to at depth `deep`, with the entries that came along. -/
def settled (bucket : Bucket κ ν) (hash : HashFunction κ) (key : κ) (value : ν) (deep : Nat) :
    Bucket κ ν :=
  { depth := deep
    entries := bucket.entries.filter (bucket.Along hash key deep) ++ [(key, value)] }

/-- The half that is left behind at a level on the way to depth `deep`.  Only the last one holds
entries. -/
def leftBehind (bucket : Bucket κ ν) (hash : HashFunction κ) (key : κ) (deep level : Nat) :
    Bucket κ ν :=
  { depth := level + 1
    entries := if level + 1 = deep then
      bucket.entries.filter (¬ bucket.Along hash key deep ·) else [] }

/-- The bucket one level deeper, with all its entries. -/
def deepened (bucket : Bucket κ ν) : Bucket κ ν :=
  { bucket with depth := bucket.depth + 1 }

@[simp]
theorem depth_deepened (bucket : Bucket κ ν) : bucket.deepened.depth = bucket.depth + 1 := rfl

@[simp]
theorem entries_deepened (bucket : Bucket κ ν) : bucket.deepened.entries = bucket.entries := rfl

/-- All entries have the key's bit at the bucket's depth. -/
def Unparted (bucket : Bucket κ ν) (hash : HashFunction κ) (key : κ) : Prop :=
  ∀ entry ∈ bucket.entries,
    (hash entry.1).toNat.testBit bucket.depth = (hash key).toNat.testBit bucket.depth

theorem unparted_of_not_partsBy (shallow : bucket.depth < 63)
    (notParted : ¬ bucket.PartsBy hash key (bucket.depth + 1)) : bucket.Unparted hash key := by
  intro entry stored
  by_contra different
  refine notParted ⟨Nat.lt_succ_self _, shallow, entry, stored, ?_⟩
  rwa [Along, sameBits_self_succ]

theorem settled_succ (bucket : Bucket κ ν) (hash : HashFunction κ) (key : κ) (value : ν) :
    bucket.settled hash key value (bucket.depth + 1) =
      { bucket.half hash ((hash key).toNat.testBit bucket.depth) with
        entries := (bucket.half hash ((hash key).toNat.testBit bucket.depth)).entries ++
          [(key, value)] } := by
  simp only [settled, Along, sameBits_self_succ, half]

theorem leftBehind_succ {bit : Bool} (other : bit ≠ (hash key).toNat.testBit bucket.depth) :
    bucket.leftBehind hash key (bucket.depth + 1) bucket.depth = bucket.half hash bit := by
  simp only [leftBehind, Along, sameBits_self_succ, half, if_pos]
  congr 1
  apply List.filter_congr
  intro entry _
  rw [Bool.eq_not.mpr other, decide_eq_decide]
  exact Bool.eq_not.symm

section Unparted

variable (unparted : bucket.Unparted hash key)

include unparted

/-- The half on the key's side is the whole bucket. -/
theorem Unparted.half_self :
    bucket.half hash ((hash key).toNat.testBit bucket.depth) = bucket.deepened := by
  rw [half, deepened, List.filter_eq_self.mpr]
  intro entry stored
  exact decide_eq_true (unparted entry stored)

theorem Unparted.half_of_ne {bit : Bool} (other : bit ≠ (hash key).toNat.testBit bucket.depth)
    (beyond : bucket.depth + 1 < deep) :
    bucket.half hash bit = bucket.leftBehind hash key deep bucket.depth := by
  rw [half, leftBehind, if_neg (Nat.ne_of_lt beyond), List.filter_eq_nil_iff.mpr]
  intro entry stored
  rw [unparted entry stored, decide_eq_true_eq]
  exact other.symm

theorem Unparted.along_deepened_iff (deeper : bucket.depth < deep) (stored : entry ∈ bucket.entries) :
    bucket.deepened.Along hash key deep entry ↔ bucket.Along hash key deep entry := by
  simp only [Along, deepened]
  rw [sameBits_iff_of_lt deeper, and_iff_right (unparted entry stored)]

theorem Unparted.settled_deepened (deeper : bucket.depth < deep) (value : ν) :
    bucket.deepened.settled hash key value deep = bucket.settled hash key value deep := by
  simp only [settled, entries_deepened]
  congr 2
  exact List.filter_congr fun entry stored =>
    decide_eq_decide.mpr (unparted.along_deepened_iff deeper stored)

theorem Unparted.leftBehind_deepened (deeper : bucket.depth < deep) (level : Nat) :
    bucket.deepened.leftBehind hash key deep level = bucket.leftBehind hash key deep level := by
  simp only [leftBehind, entries_deepened]
  congr 2
  exact List.filter_congr fun entry stored =>
    decide_eq_decide.mpr (unparted.along_deepened_iff deeper stored).not

theorem Unparted.partsBy_deepened_iff :
    bucket.deepened.PartsBy hash key deep ↔ bucket.PartsBy hash key deep := by
  constructor
  · rintro ⟨beyond, within, entry, stored, parted⟩
    have deeper : bucket.depth < deep := Nat.lt_of_succ_lt beyond
    exact ⟨deeper, within, entry, stored, (unparted.along_deepened_iff deeper stored).not.mp parted⟩
  · rintro ⟨deeper, within, entry, stored, parted⟩
    refine ⟨Nat.lt_of_le_of_ne deeper ?_, within, entry, stored,
      (unparted.along_deepened_iff deeper stored).not.mpr parted⟩
    rintro rfl
    exact parted (sameBits_self_succ.mpr (unparted entry stored))

end Unparted

end Bucket

end PageBuffer
