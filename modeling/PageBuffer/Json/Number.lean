import PageBuffer.Fallible
import PageBuffer.Json.Fault
import PageBuffer.Json.Magnitude
import PageBuffer.Text.Numeral

/-!
Numbers in JSON text: an optional minus sign, digits without a needless zero in front, and an
optional fraction and exponent.
-/

namespace PageBuffer.Json

/-- A number as it is written. -/
structure Number where
  negative : Bool
  whole : List Char
  fraction : Option (List Char) := none
  exponent : Option Int := none
  deriving DecidableEq, Repr

/-- A place where a number cannot go on: the end of the text, or some other character. -/
inductive Stuck where
  | atEnd
  | atCharacter
  deriving DecidableEq, Repr

namespace Number

/-- One or more digits. -/
def scanDigits (text : List Char) : Except Stuck (List Char × List Char) :=
  match text.takeWhile Char.isDigit, text.dropWhile Char.isDigit with
  | [], [] => .error .atEnd
  | [], _ => .error .atCharacter
  | digits, rest => .ok (digits, rest)

/-- The digits before a fraction.  After a leading zero there must be none. -/
def scanWhole (text : List Char) : Except Stuck (List Char × List Char) := do
  let (digits, rest) ← scanDigits text
  match digits with
  | '0' :: _ :: _ => throw .atCharacter
  | _ => return (digits, rest)

def scanFraction (text : List Char) : Except Stuck (Option (List Char) × List Char) :=
  match text with
  | '.' :: rest => do
      let (digits, rest) ← scanDigits rest
      return (some digits, rest)
  | _ => return (none, text)

/-- An exponent's sign, and whether it is a minus. -/
def scanSign (text : List Char) : Bool × List Char :=
  match text with
  | '+' :: rest => (false, rest)
  | '-' :: rest => (true, rest)
  | _ => (false, text)

def scanPower (text : List Char) : Except Stuck (Int × List Char) := do
  let (negative, rest) := scanSign text
  let (digits, rest) ← scanDigits rest
  let power : Int := Text.Numeral.value digits
  return (if negative then -power else power, rest)

def scanExponent (text : List Char) : Except Stuck (Option Int × List Char) :=
  match text with
  | 'e' :: rest | 'E' :: rest => do
      let (power, rest) ← scanPower rest
      return (some power, rest)
  | _ => return (none, text)

/-- A number without its minus sign, and the text after it. -/
def scanUnsigned (negative : Bool) (text : List Char) : Except Stuck (Number × List Char) := do
  let (whole, text) ← scanWhole text
  let (fraction, text) ← scanFraction text
  let (exponent, text) ← scanExponent text
  return ({ negative, whole, fraction, exponent }, text)

/-- A number and the text after it. -/
def scan (text : List Char) : Except Stuck (Number × List Char) :=
  match text with
  | '-' :: rest => scanUnsigned true rest
  | _ => scanUnsigned false text

theorem length_scanDigits_lt {text digits rest : List Char}
    (scanned : scanDigits text = .ok (digits, rest)) : rest.length < text.length := by
  have parts : (text.takeWhile Char.isDigit).length + (text.dropWhile Char.isDigit).length =
      text.length := by
    rw [← List.length_append, List.takeWhile_append_dropWhile]
  unfold scanDigits at scanned
  split at scanned
  · simp at scanned
  · simp at scanned
  · have nonempty : text.takeWhile Char.isDigit ≠ [] := by
      intro empty
      simp_all
    have positive := List.length_pos_iff.mpr nonempty
    simp only [Except.ok.injEq, Prod.mk.injEq] at scanned
    obtain ⟨-, rfl⟩ := scanned
    omega

theorem length_scanWhole_lt {text digits rest : List Char}
    (scanned : scanWhole text = .ok (digits, rest)) : rest.length < text.length := by
  simp only [scanWhole, Fallible.bind_eq_ok_iff, Prod.exists] at scanned
  obtain ⟨_, after, found, accepted⟩ := scanned
  split at accepted
  · simp at accepted
  · cases accepted
    exact length_scanDigits_lt found

theorem length_scanFraction_le {text rest : List Char} {fraction : Option (List Char)}
    (scanned : scanFraction text = .ok (fraction, rest)) : rest.length ≤ text.length := by
  unfold scanFraction at scanned
  split at scanned
  · simp only [Fallible.bind_eq_ok_iff, Prod.exists] at scanned
    obtain ⟨_, after, found, accepted⟩ := scanned
    cases accepted
    exact Nat.le_succ_of_le (Nat.le_of_lt (length_scanDigits_lt found))
  · cases scanned
    exact Nat.le_refl _

theorem length_scanSign_le (text : List Char) : (scanSign text).2.length ≤ text.length := by
  unfold scanSign
  split <;> simp

theorem length_scanPower_lt {text rest : List Char} {power : Int}
    (scanned : scanPower text = .ok (power, rest)) : rest.length < text.length := by
  simp only [scanPower, Fallible.bind_eq_ok_iff, Prod.exists] at scanned
  obtain ⟨_, after, found, accepted⟩ := scanned
  cases accepted
  exact Nat.lt_of_lt_of_le (length_scanDigits_lt found) (length_scanSign_le text)

theorem length_scanExponent_le {text rest : List Char} {exponent : Option Int}
    (scanned : scanExponent text = .ok (exponent, rest)) : rest.length ≤ text.length := by
  unfold scanExponent at scanned
  split at scanned
  iterate 2
    · simp only [Fallible.bind_eq_ok_iff, Prod.exists] at scanned
      obtain ⟨_, after, found, accepted⟩ := scanned
      cases accepted
      exact Nat.le_succ_of_le (Nat.le_of_lt (length_scanPower_lt found))
  · cases scanned
    exact Nat.le_refl _

theorem length_scanUnsigned_lt {negative : Bool} {text rest : List Char} {number : Number}
    (scanned : scanUnsigned negative text = .ok (number, rest)) : rest.length < text.length := by
  simp only [scanUnsigned, Fallible.bind_eq_ok_iff, Prod.exists] at scanned
  obtain ⟨_, afterWhole, whole, _, afterFraction, fraction, _, afterExponent, exponent, accepted⟩ :=
    scanned
  cases accepted
  have first := length_scanWhole_lt whole
  have second := length_scanFraction_le fraction
  have third := length_scanExponent_le exponent
  omega

theorem length_scan_lt {text rest : List Char} {number : Number}
    (scanned : scan text = .ok (number, rest)) : rest.length < text.length := by
  unfold scan at scanned
  split at scanned
  · have := length_scanUnsigned_lt scanned
    simp only [List.length_cons]
    omega
  · exact length_scanUnsigned_lt scanned

/-- Takes digits for as long as they make a 64-bit word, and answers those that are left over. -/
def accumulate (significand : Nat) : List Char → Nat × List Char
  | [] => (significand, [])
  | character :: rest =>
      let next := 10 * significand + (character.toNat - '0'.toNat)
      if next < UInt64.size then accumulate next rest else (significand, character :: rest)

/-- The number is out of the range of double precision.  Of its digits only those count that make
a 64-bit word; whole digits beyond them count as places. -/
def isOutOfRange (number : Number) : Bool :=
  let (leading, places) := accumulate 0 number.whole
  let fraction := number.fraction.getD []
  let (significand, dropped) := accumulate leading fraction
  let exponent : Int := places.length - (fraction.length - dropped.length)
  exceedsDouble significand (exponent + number.exponent.getD 0)

/-- The 64-bit word that a number stands for, if it is a plain one. -/
def word? (number : Number) : Option UInt64 :=
  if number.negative ∨ number.fraction.isSome ∨ number.exponent.isSome then
    none
  else
    let value := Text.Numeral.value number.whole
    if value < UInt64.size then some (.ofNat value) else none

end Number

end PageBuffer.Json
