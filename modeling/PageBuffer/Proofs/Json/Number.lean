import PageBuffer.Json.Grammar
import PageBuffer.Proofs.Text.Numeral

/-!
Scanning a number takes all of it, and no more.

Nothing marks the end of a number, so the text after it counts: it has to start with a character
that no number goes on with.
-/

namespace PageBuffer.Json.Number

open Fallible (bind_eq_ok_iff ok_bind)

variable {digits whole fraction exponent rest : List Char}

/-- The text is over or starts with a character of another kind. -/
def Beyond (kind : Char → Bool) (text : List Char) : Prop :=
  ∀ character, text.head? = some character → kind character = false

def isFractional (character : Char) : Bool :=
  character.isDigit || character = '.'

def isNumeric (character : Char) : Bool :=
  isFractional character || character = 'e' || character = 'E'

/-- No number goes on with this text. -/
def Stops (text : List Char) : Prop :=
  Beyond isNumeric text

theorem beyond_cons {kind : Char → Bool} {character : Char} :
    Beyond kind (character :: rest) ↔ kind character = false := by
  simp [Beyond]

theorem stops_cons {character : Char} : Stops (character :: rest) ↔ isNumeric character = false :=
  beyond_cons

theorem stops_blanks_append {blanks : List Char} (blank : Blanks blanks) (stops : Stops rest) :
    Stops (blanks ++ rest) := by
  cases blanks with
  | nil => exact stops
  | cons character remaining =>
      apply stops_cons.mpr
      rcases isBlank_iff.mp (blank character List.mem_cons_self) with rfl | rfl | rfl | rfl <;> rfl

theorem Beyond.of_narrower {kind wider : Char → Bool} (beyond : Beyond wider rest)
    (narrower : ∀ character, wider character = false → kind character = false) :
    Beyond kind rest :=
  fun character first => narrower character (beyond character first)

theorem Beyond.isDigit (beyond : Beyond isFractional rest) : Beyond Char.isDigit rest :=
  beyond.of_narrower fun _ apart => (Bool.or_eq_false_iff.mp apart).1

theorem Stops.isFractional (stops : Stops rest) : Beyond isFractional rest :=
  Beyond.of_narrower stops fun _ apart =>
    (Bool.or_eq_false_iff.mp (Bool.or_eq_false_iff.mp apart).1).1

/-- A fraction ends where its exponent begins. -/
theorem beyond_exponent_append (written : ExponentText exponent) (stops : Stops rest) :
    Beyond isFractional (exponent ++ rest) := by
  cases written with
  | absent => exact stops.isFractional
  | @digits mark _ _ marked _ _ =>
      apply beyond_cons.mpr
      obtain rfl | rfl : mark = 'e' ∨ mark = 'E' := by simpa using marked
      · rfl
      · rfl

/-- Whole digits end where their fraction begins. -/
theorem beyond_fraction_append (written : FractionText fraction)
    (beyond : Beyond isFractional rest) : Beyond Char.isDigit (fraction ++ rest) := by
  cases written with
  | absent => exact beyond.isDigit
  | digits _ => exact beyond_cons.mpr rfl

theorem scanDigits_append (written : Digits digits) (beyond : Beyond Char.isDigit rest) :
    scanDigits (digits ++ rest) = .ok (digits, rest) := by
  have taken : (digits ++ rest).takeWhile Char.isDigit = digits := by
    rw [List.takeWhile_append_of_pos written.2]
    cases rest with
    | nil => simp
    | cons character remaining => simp [beyond_cons.mp beyond]
  have dropped : (digits ++ rest).dropWhile Char.isDigit = rest := by
    rw [List.dropWhile_append_of_pos written.2]
    cases rest with
    | nil => simp
    | cons character remaining => simp [beyond_cons.mp beyond]
  obtain ⟨first, remaining, rfl⟩ := List.exists_cons_of_ne_nil written.1
  simp only [scanDigits, taken, dropped]

theorem scanWhole_append (written : WholeDigits whole) (beyond : Beyond Char.isDigit rest) :
    scanWhole (whole ++ rest) = .ok (whole, rest) := by
  rw [scanWhole]
  apply bind_eq_ok_iff.mpr
  refine ⟨(whole, rest), scanDigits_append written.1 beyond, ?_⟩
  simp only
  split
  · have leading := written.2
    simp at leading
  · rfl

theorem scanFraction_of_beyond (beyond : Beyond isFractional rest) :
    scanFraction rest = .ok (none, rest) := by
  unfold scanFraction
  split
  · cases beyond_cons.mp beyond
  · rfl

theorem scanFraction_append (written : FractionText fraction) (beyond : Beyond isFractional rest) :
    ∃ places, scanFraction (fraction ++ rest) = .ok (places, rest) := by
  cases written with
  | @digits text digits =>
      refine ⟨some text, ?_⟩
      simp only [List.cons_append, scanFraction, scanDigits_append digits beyond.isDigit, ok_bind]
      rfl
  | absent => exact ⟨none, scanFraction_of_beyond beyond⟩

theorem scanPower_append {sign : List Char} (signed : sign ∈ [[], ['+'], ['-']])
    (written : Digits digits) (stops : Stops rest) :
    ∃ power, scanPower (sign ++ digits ++ rest) = .ok (power, rest) := by
  have scanned := scanDigits_append written stops.isFractional.isDigit
  have separated : (scanSign (sign ++ digits ++ rest)).2 = digits ++ rest := by
    obtain rfl | rfl | rfl : sign = [] ∨ sign = ['+'] ∨ sign = ['-'] := by simpa using signed
    · obtain ⟨first, remaining, rfl⟩ := List.exists_cons_of_ne_nil written.1
      have digit := written.2 first List.mem_cons_self
      unfold scanSign
      split <;> simp_all
    · rfl
    · rfl
  simp only [scanPower, separated, scanned, ok_bind]
  exact ⟨_, rfl⟩

theorem scanExponent_of_stops (stops : Stops rest) : scanExponent rest = .ok (none, rest) := by
  unfold scanExponent
  split
  · cases stops_cons.mp stops
  · cases stops_cons.mp stops
  · rfl

theorem scanExponent_append (written : ExponentText exponent) (stops : Stops rest) :
    ∃ power, scanExponent (exponent ++ rest) = .ok (power, rest) := by
  cases written with
  | @digits mark sign text marked signed digits =>
      obtain ⟨power, scanned⟩ := scanPower_append signed digits stops
      refine ⟨some power, ?_⟩
      obtain rfl | rfl : mark = 'e' ∨ mark = 'E' := by simpa using marked
      · simp only [List.cons_append, scanExponent, scanned, ok_bind]
        rfl
      · simp only [List.cons_append, scanExponent, scanned, ok_bind]
        rfl
  | absent => exact ⟨none, scanExponent_of_stops stops⟩

theorem scanUnsigned_append (negative : Bool) (wholeWritten : WholeDigits whole)
    (fractionWritten : FractionText fraction) (exponentWritten : ExponentText exponent)
    (stops : Stops rest) :
    ∃ number,
      scanUnsigned negative (whole ++ fraction ++ exponent ++ rest) = .ok (number, rest) := by
  have afterFraction := beyond_exponent_append exponentWritten stops
  have afterWhole := beyond_fraction_append fractionWritten afterFraction
  have wholeScanned := scanWhole_append wholeWritten afterWhole
  obtain ⟨places, fractionScanned⟩ := scanFraction_append fractionWritten afterFraction
  obtain ⟨power, exponentScanned⟩ := scanExponent_append exponentWritten stops
  refine ⟨⟨negative, whole, places, power⟩, ?_⟩
  simp only [List.append_assoc, scanUnsigned, wholeScanned, fractionScanned, exponentScanned,
    ok_bind]
  rfl

theorem scan_of_unsigned (written : WholeDigits whole) :
    scan (whole ++ rest) = scanUnsigned false (whole ++ rest) := by
  obtain ⟨first, remaining, rfl⟩ := List.exists_cons_of_ne_nil written.1.1
  have digit := written.1.2 first List.mem_cons_self
  unfold scan
  split <;> simp_all

theorem scan_append {text : List Char} (written : NumberText text) (stops : Stops rest) :
    ∃ number, scan (text ++ rest) = .ok (number, rest) := by
  cases written with
  | @parts sign whole fraction exponent signed wholeWritten fractionWritten exponentWritten =>
      obtain rfl | rfl : sign = [] ∨ sign = ['-'] := by simpa using signed
      · have scanned := scanUnsigned_append false wholeWritten fractionWritten exponentWritten stops
        simp only [List.nil_append, List.append_assoc, scan_of_unsigned wholeWritten] at scanned ⊢
        exact scanned
      · have scanned := scanUnsigned_append true wholeWritten fractionWritten exponentWritten stops
        exact scanned

theorem scan_whole (written : WholeDigits whole) (stops : Stops rest) :
    scan (whole ++ rest) = .ok ({ negative := false, whole }, rest) := by
  have wholeScanned := scanWhole_append written stops.isFractional.isDigit
  have fractionScanned := scanFraction_of_beyond stops.isFractional
  have exponentScanned := scanExponent_of_stops stops
  simp only [scan_of_unsigned written, scanUnsigned, wholeScanned, fractionScanned, exponentScanned,
    ok_bind]
  rfl

/-- Of the digits of a word none are left over. -/
theorem accumulate_of_fits {number : Nat} (fits : Nat.ofDigitChars 10 digits number < UInt64.size) :
    accumulate number digits = (Nat.ofDigitChars 10 digits number, []) := by
  induction digits generalizing number with
  | nil => rfl
  | cons character remaining inductionHypothesis =>
      rw [Nat.ofDigitChars_cons] at fits ⊢
      have small := Nat.lt_of_le_of_lt (Text.Numeral.le_ofDigitChars _ remaining) fits
      rw [accumulate, if_pos small, inductionHypothesis fits]

theorem isOutOfRange_of_fits (fits : Text.Numeral.value digits < UInt64.size) :
    isOutOfRange { negative := false, whole := digits } = false := by
  simp [isOutOfRange, accumulate_of_fits fits, accumulate]

theorem word?_of_fits (fits : Text.Numeral.value digits < UInt64.size) :
    word? { negative := false, whole := digits } = some (.ofNat (Text.Numeral.value digits)) := by
  simp [word?, fits]

theorem wholeDigits_print (number : Nat) : WholeDigits (Text.Numeral.print number) := by
  refine ⟨⟨Nat.toDigits_ne_nil, fun _ => Text.Numeral.isDigit_of_mem_print⟩, ?_⟩
  rcases Nat.eq_zero_or_pos number with rfl | positive
  · exact .inl rfl
  · exact .inr (Text.Numeral.head?_print_ne positive)

end PageBuffer.Json.Number
