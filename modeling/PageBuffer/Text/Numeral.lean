/-!
Decimal numerals for 64-bit words: one optional plus sign, then one or more ASCII digits.

`Denotes` says which texts are numerals and of which number; `read` decides it, and of a text that
is none it reports the first problem from the left.
-/

namespace PageBuffer.Text.Numeral

/-- Why a text is not the numeral of a word. -/
inductive Fault where
  | empty
  | invalidDigit
  | tooLarge
  deriving DecidableEq, Repr

def Fault.message : Fault → String
  | .empty => "cannot parse integer from empty string"
  | .invalidDigit => "invalid digit found in string"
  | .tooLarge => "number too large to fit in target type"

theorem Fault.message_injective {first second : Fault} (same : first.message = second.message) :
    first = second := by
  cases first <;> cases second <;> simp_all [message]

/-- The number that a row of digits stands for. -/
def value (digits : List Char) : Nat :=
  Nat.ofDigitChars 10 digits 0

/-- `text` is a numeral of `number`. -/
def Denotes (text : List Char) (number : Nat) : Prop :=
  ∃ digits : List Char, digits ≠ [] ∧ (∀ character ∈ digits, character.isDigit = true) ∧
    (text = digits ∨ text = '+' :: digits) ∧ number = value digits

/-- Reads digits after those that came to `number`. -/
def readDigits (number : Nat) : List Char → Except Fault Nat
  | [] => .ok number
  | character :: rest =>
      if character.isDigit then
        let next := 10 * number + (character.toNat - '0'.toNat)
        if next < UInt64.size then readDigits next rest else .error .tooLarge
      else
        .error .invalidDigit

def read : List Char → Except Fault Nat
  | [] => .error .empty
  | ['+'] => .error .invalidDigit
  | '+' :: rest => readDigits 0 rest
  | text => readDigits 0 text

/-- The shortest numeral of a number. -/
def print (number : Nat) : List Char :=
  Nat.toDigits 10 number

@[simp]
theorem value_print (number : Nat) : value (print number) = number := by
  simp [value, print]

theorem isDigit_of_mem_print {number : Nat} {character : Char} (shown : character ∈ print number) :
    character.isDigit = true :=
  Nat.isDigit_of_mem_toDigits (by decide) (by decide) shown

end PageBuffer.Text.Numeral
