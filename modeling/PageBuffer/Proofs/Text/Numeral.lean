import Mathlib.Data.List.Basic
import PageBuffer.Text.Numeral

/-!
Reading numerals decides what is one, and of a text that is none it tells what the trouble is.

A row of digits only grows in value as it goes on.  So it overflows as soon as some of its first
digits do, and what stands after those is not looked at.
-/

namespace PageBuffer.Text.Numeral

variable {number result : Nat} {text digits : List Char} {fault : Fault}

/-- Nothing but digits, possibly none. -/
def AllDigits (text : List Char) : Prop :=
  ∀ character ∈ text, character.isDigit = true

/-- What stands after the plus sign, or the whole text if there is none. -/
def unsigned : List Char → List Char
  | '+' :: rest => rest
  | text => text

/-- Some digits at the beginning are already too many for a word. -/
def Overflows (text : List Char) : Prop :=
  ∃ digits rest, unsigned text = digits ++ rest ∧ AllDigits digits ∧ UInt64.size ≤ value digits

theorem allDigits_cons {character : Char} :
    AllDigits (character :: text) ↔ character.isDigit = true ∧ AllDigits text :=
  List.forall_mem_cons

/-- More digits make a greater number. -/
theorem le_ofDigitChars (number : Nat) (digits : List Char) :
    number ≤ Nat.ofDigitChars 10 digits number := by
  induction digits generalizing number with
  | nil => exact Nat.le_refl number
  | cons character rest inductionHypothesis =>
      rw [Nat.ofDigitChars_cons]
      exact Nat.le_trans (by omega) (inductionHypothesis _)

theorem readDigits_eq_ok_iff (fits : number < UInt64.size) :
    readDigits number text = .ok result ↔
      AllDigits text ∧ Nat.ofDigitChars 10 text number = result ∧ result < UInt64.size := by
  induction text generalizing number with
  | nil =>
      simp only [readDigits, Except.ok.injEq, Nat.ofDigitChars_nil]
      constructor
      · rintro rfl
        exact ⟨by simp [AllDigits], rfl, fits⟩
      · exact fun read => read.2.1
  | cons character rest inductionHypothesis =>
      rw [readDigits, allDigits_cons, Nat.ofDigitChars_cons]
      by_cases digit : character.isDigit = true
      case neg => simp [digit]
      rw [if_pos digit]
      simp only
      split
      case isTrue next =>
        rw [inductionHypothesis next]
        simp [digit]
      case isFalse overflow =>
        have grown := le_ofDigitChars (10 * number + (character.toNat - '0'.toNat)) rest
        constructor
        · intro impossible
          cases impossible
        · rintro ⟨_, rfl, small⟩
          omega

theorem readDigits_eq_tooLarge_iff (fits : number < UInt64.size) :
    readDigits number text = .error .tooLarge ↔
      ∃ digits rest, text = digits ++ rest ∧ AllDigits digits ∧
        UInt64.size ≤ Nat.ofDigitChars 10 digits number := by
  induction text generalizing number with
  | nil =>
      constructor
      · intro impossible
        cases impossible
      · rintro ⟨digits, rest, empty, _, large⟩
        rw [(List.nil_eq_append_iff.mp empty).1, Nat.ofDigitChars_nil] at large
        omega
  | cons character rest inductionHypothesis =>
      rw [readDigits]
      by_cases digit : character.isDigit = true
      case neg =>
        rw [if_neg digit]
        constructor
        · intro impossible
          cases impossible
        · rintro ⟨digits, after, parts, allDigits, large⟩
          cases digits with
          | nil =>
              rw [Nat.ofDigitChars_nil] at large
              omega
          | cons head tail =>
              obtain ⟨rfl, _⟩ := List.cons.inj parts
              exact absurd (allDigits_cons.mp allDigits).1 digit
      rw [if_pos digit]
      simp only
      split
      case isTrue next =>
        rw [inductionHypothesis next]
        constructor
        · rintro ⟨digits, after, rfl, allDigits, large⟩
          refine ⟨character :: digits, after, rfl, allDigits_cons.mpr ⟨digit, allDigits⟩, ?_⟩
          rwa [Nat.ofDigitChars_cons]
        · rintro ⟨digits, after, parts, allDigits, large⟩
          cases digits with
          | nil =>
              rw [Nat.ofDigitChars_nil] at large
              omega
          | cons head tail =>
              obtain ⟨rfl, rfl⟩ := List.cons.inj parts
              rw [Nat.ofDigitChars_cons] at large
              exact ⟨tail, after, rfl, (allDigits_cons.mp allDigits).2, large⟩
      case isFalse overflow =>
        refine iff_of_true rfl ⟨[character], rest, rfl, ?_, ?_⟩
        · exact allDigits_cons.mpr ⟨digit, by simp [AllDigits]⟩
        · rw [Nat.ofDigitChars_cons, Nat.ofDigitChars_nil]
          omega

theorem readDigits_ne_empty : readDigits number text ≠ .error .empty := by
  induction text generalizing number with
  | nil => simp [readDigits]
  | cons character rest inductionHypothesis =>
      rw [readDigits]
      split
      · simp only
        split
        · exact inductionHypothesis
        · simp
      · simp

theorem unsigned_of_isDigit {character : Char} (digit : character.isDigit = true)
    (rest : List Char) : unsigned (character :: rest) = character :: rest := by
  unfold unsigned
  split
  · rename_i plus
    obtain ⟨rfl, _⟩ := List.cons.inj plus
    cases digit
  · rfl

/-- A text is read without its sign, unless there is nothing else. -/
theorem read_eq_readDigits (written : unsigned text ≠ []) :
    read text = readDigits 0 (unsigned text) := by
  unfold unsigned at written ⊢
  unfold read
  split at written
  · split <;> simp_all
  · split <;> simp_all

theorem read_of_bare (bare : unsigned text = []) :
    read text = .error (if text = [] then .empty else .invalidDigit) := by
  unfold unsigned at bare
  split at bare
  · subst bare
    rfl
  · subst bare
    rfl

theorem denotes_iff : Denotes text number ↔
    unsigned text ≠ [] ∧ AllDigits (unsigned text) ∧ value (unsigned text) = number := by
  constructor
  · rintro ⟨digits, nonempty, allDigits, rfl | rfl, rfl⟩
    · obtain ⟨head, rest, rfl⟩ := List.exists_cons_of_ne_nil nonempty
      rw [unsigned_of_isDigit (allDigits head List.mem_cons_self)]
      exact ⟨nonempty, allDigits, rfl⟩
    · exact ⟨nonempty, allDigits, rfl⟩
  · rintro ⟨nonempty, allDigits, rfl⟩
    refine ⟨unsigned text, nonempty, allDigits, ?_, rfl⟩
    unfold unsigned
    split
    · exact .inr rfl
    · exact .inl rfl

theorem read_eq_ok_iff : read text = .ok number ↔ Denotes text number ∧ number < UInt64.size := by
  rw [denotes_iff]
  by_cases bare : unsigned text = []
  · rw [read_of_bare bare]
    simp [bare]
  · rw [read_eq_readDigits bare, readDigits_eq_ok_iff (by decide)]
    simp [bare, value, and_assoc]

theorem read_eq_empty_iff : read text = .error .empty ↔ text = [] := by
  by_cases bare : unsigned text = []
  · rw [read_of_bare bare]
    split <;> simp [*]
  · rw [read_eq_readDigits bare]
    refine iff_of_false readDigits_ne_empty ?_
    rintro rfl
    exact bare rfl

theorem read_eq_tooLarge_iff : read text = .error .tooLarge ↔ Overflows text := by
  by_cases bare : unsigned text = []
  · rw [read_of_bare bare]
    refine iff_of_false (by split <;> simp) ?_
    rintro ⟨digits, rest, parts, _, large⟩
    rw [bare] at parts
    rw [(List.nil_eq_append_iff.mp parts).1] at large
    cases large
  · rw [read_eq_readDigits bare, readDigits_eq_tooLarge_iff (by decide)]
    rfl

/-- Any other text has a character that is no digit, before too many digits. -/
theorem read_eq_invalidDigit_iff : read text = .error .invalidDigit ↔
    (∀ number, ¬(Denotes text number ∧ number < UInt64.size)) ∧ text ≠ [] ∧ ¬Overflows text := by
  simp only [← read_eq_ok_iff, ne_eq, ← @read_eq_empty_iff text, ← read_eq_tooLarge_iff]
  cases read text with
  | ok number => simp
  | error fault => cases fault <;> simp

/-- No needless zero is printed. -/
theorem head?_print_ne (positive : 0 < number) : (print number).head? ≠ some '0' := by
  induction number using Nat.strongRecOn with
  | ind number inductionHypothesis =>
      by_cases small : number < 10
      · have nonzero : ∀ digit < 10, 0 < digit → digit.digitChar ≠ '0' := by decide
        rw [print, Nat.toDigits_of_lt_base small, List.head?_singleton]
        exact fun zero => nonzero number small positive (Option.some.inj zero)
      · rw [print, Nat.toDigits_of_base_le (by decide) (by omega),
          List.head?_append_of_ne_nil _ Nat.toDigits_ne_nil]
        exact inductionHypothesis (number / 10) (by omega) (by omega)

end PageBuffer.Text.Numeral
