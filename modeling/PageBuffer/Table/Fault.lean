/-!
Faults: what a table operation meets when the table's own structure does not hold together, or
when it is asked for a slot that the directory does not have.
-/

namespace PageBuffer.Table

/-- A step that cannot be carried out. -/
inductive Fault where
  | noSlot (slot : Nat)
  | noBucket (id : Nat)
  /-- More bits than a 64-bit word has. -/
  | tooManyBits (bits : Nat)
  /-- A count or a depth difference below zero. -/
  | belowZero
  /-- A full bucket that no split up to depth `63` makes room in. -/
  | inseparable
  deriving DecidableEq, Repr

/-- `2 ^ bits`, as a 64-bit word can hold it. -/
def powerOfTwo (bits : Nat) : Except Fault Nat :=
  if bits < 64 then .ok (1 <<< bits) else .error (.tooManyBits bits)

/-- The low `bits` bits of a number. -/
def lowBits (number bits : Nat) : Except Fault Nat :=
  if bits < 64 then .ok (number % (1 <<< bits)) else .error (.tooManyBits bits)

/-- A difference that must not fall below zero. -/
def minus (larger smaller : Nat) : Except Fault Nat :=
  if smaller ≤ larger then .ok (larger - smaller) else .error .belowZero

@[simp]
theorem minus_of_le {larger smaller : Nat} (le : smaller ≤ larger) :
    minus larger smaller = .ok (larger - smaller) := by
  simp [minus, le]

end PageBuffer.Table
