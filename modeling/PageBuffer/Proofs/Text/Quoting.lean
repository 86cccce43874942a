import PageBuffer.Text.Quoted

/-!
What a text in quotes looks like, said without writing it.

Each character has exactly one form, so a text has exactly one too.
-/

namespace PageBuffer.Text.Quoted

variable {character letter : Char} {text shown : List Char}

/-- The characters that have a short escape, each with the letter of it. -/
def shortEscapes : List (Char × Char) :=
  [('\x00', '0'), ('\t', 't'), ('\n', 'n'), ('\r', 'r'), ('"', '"'), ('\\', '\\')]

/-- An ASCII character prints if it is the space or visible.  Any other is looked up. -/
def Printable (character : Char) : Prop :=
  if character.toNat < 0x80 then
    0x20 ≤ character.toNat ∧ character.toNat ≤ 0x7e
  else
    isPlain character = true

instance (character : Char) : Decidable (Printable character) :=
  inferInstanceAs (Decidable (ite _ _ _))

/-- The form of a character between the quotes. -/
inductive Shows : Char → List Char → Prop where
  | short {character letter : Char} :
      (character, letter) ∈ shortEscapes → Shows character ['\\', letter]
  | itself {character : Char} :
      character ∉ shortEscapes.map Prod.fst → Printable character → Shows character [character]
  | codePoint {character : Char} :
      character ∉ shortEscapes.map Prod.fst → ¬Printable character →
      Shows character (['\\', 'u', '\x7b'] ++ Nat.toDigits 16 character.toNat ++ ['\x7d'])

inductive ShowsAll : List Char → List Char → Prop where
  | nil : ShowsAll [] []
  | cons {character : Char} {shown text rest : List Char} :
      Shows character shown → ShowsAll text rest → ShowsAll (character :: text) (shown ++ rest)

/-- The text in double quotes. -/
inductive Quotes : String → String → Prop where
  | around {text : String} {inside : List Char} :
      ShowsAll text.toList inside → Quotes text (String.ofList ('"' :: inside ++ ['"']))

theorem escapeLetter?_eq_some_iff :
    escapeLetter? character = some letter ↔ (character, letter) ∈ shortEscapes := by
  unfold escapeLetter?
  split <;> simp_all [shortEscapes, eq_comm]

theorem escapeLetter?_eq_none_iff :
    escapeLetter? character = none ↔ character ∉ shortEscapes.map Prod.fst := by
  unfold escapeLetter?
  split <;> simp_all [shortEscapes]

theorem contains_append_of_ascii (low high : Ranges) (beyond : ∀ range ∈ high, 0x80 ≤ range.1)
    (ascii : character.toNat < 0x80) :
    Ranges.contains (low ++ high) character = low.contains character := by
  have absent : high.contains character = false := by
    rw [Ranges.contains, List.any_eq_false]
    intro range member
    have above := beyond range member
    simp only [Bool.and_eq_true, decide_eq_true_eq]
    omega
  unfold Ranges.contains at absent ⊢
  rw [List.any_append, absent, Bool.or_false]

/-- Only the first two ranges of one table reach below `0x80`. -/
theorem isPlain_iff_of_ascii (ascii : character.toNat < 0x80) :
    isPlain character = true ↔ 0x20 ≤ character.toNat ∧ character.toNat ≤ 0x7e := by
  have extending : isExtending character = false :=
    contains_append_of_ascii [] extendingRanges (by decide +kernel) ascii
  have ignorable : isIgnorable character = false :=
    contains_append_of_ascii [] ignorableRanges (by decide +kernel) ascii
  have unprintable : isUnprintable character =
      Ranges.contains [(0x0, 0x1f), (0x7f, 0xa0)] character :=
    contains_append_of_ascii [(0x0, 0x1f), (0x7f, 0xa0)] (unprintableRanges.drop 2)
      (by decide +kernel) ascii
  simp only [isPlain, extending, ignorable, unprintable, Ranges.contains, List.any_cons,
    List.any_nil, Bool.or_false, Bool.not_false, Bool.true_and, Bool.not_eq_true',
    Bool.or_eq_false_iff, Bool.and_eq_false_iff, decide_eq_false_iff_not]
  omega

theorem isPlain_iff : isPlain character = true ↔ Printable character := by
  unfold Printable
  split
  case isTrue ascii => exact isPlain_iff_of_ascii ascii
  case isFalse => exact Iff.rfl

theorem shows_encodeCharacter (character : Char) : Shows character (encodeCharacter character) := by
  unfold encodeCharacter
  split
  case h_1 letter found => exact .short (escapeLetter?_eq_some_iff.mp found)
  case h_2 noLetter =>
    have long := escapeLetter?_eq_none_iff.mp noLetter
    split
    case isTrue plain => exact .itself long (isPlain_iff.mp plain)
    case isFalse notPlain => exact .codePoint long fun prints => notPlain (isPlain_iff.mpr prints)

theorem Shows.encodeCharacter_eq (form : Shows character shown) :
    encodeCharacter character = shown := by
  cases form with
  | short member => simp only [encodeCharacter, escapeLetter?_eq_some_iff.mpr member]
  | itself long prints =>
      simp only [encodeCharacter, escapeLetter?_eq_none_iff.mpr long, isPlain_iff.mpr prints,
        if_true]
  | codePoint long printsNot =>
      have notPlain : ¬isPlain character = true := fun plain => printsNot (isPlain_iff.mp plain)
      simp only [encodeCharacter, escapeLetter?_eq_none_iff.mpr long, if_neg notPlain]

theorem showsAll_iff : ShowsAll text shown ↔ text.flatMap encodeCharacter = shown := by
  constructor
  · intro all
    induction all with
    | nil => rfl
    | cons first _ inductionHypothesis =>
        rw [List.flatMap_cons, first.encodeCharacter_eq, inductionHypothesis]
  · rintro rfl
    induction text with
    | nil => exact .nil
    | cons head rest inductionHypothesis =>
        rw [List.flatMap_cons]
        exact .cons (shows_encodeCharacter head) inductionHypothesis

theorem quote_eq_iff {raw quoted : String} : quote raw = quoted ↔ Quotes raw quoted := by
  constructor
  · rintro rfl
    exact .around (showsAll_iff.mpr rfl)
  · rintro ⟨all⟩
    rw [quote, encode, showsAll_iff.mp all]

end PageBuffer.Text.Quoted
