/-!
White space between the tokens of JSON text.
-/

namespace PageBuffer.Json

def isBlank (character : Char) : Bool :=
  character = ' ' || character = '\n' || character = '\t' || character = '\r'

theorem isBlank_iff {character : Char} : isBlank character = true ↔
    character = ' ' ∨ character = '\n' ∨ character = '\t' ∨ character = '\r' := by
  simp [isBlank, or_assoc]

def skipBlanks (text : List Char) : List Char :=
  text.dropWhile isBlank

@[simp]
theorem skipBlanks_nil : skipBlanks [] = [] := rfl

theorem length_skipBlanks_le (text : List Char) : (skipBlanks text).length ≤ text.length :=
  (List.dropWhile_suffix isBlank).length_le

theorem skipBlanks_blank_append {blanks text : List Char}
    (blank : ∀ character ∈ blanks, isBlank character = true) :
    skipBlanks (blanks ++ text) = skipBlanks text := by
  simp [skipBlanks, List.dropWhile_append_of_pos blank]

theorem skipBlanks_cons_of_not_blank {character : Char} {text : List Char}
    (solid : isBlank character = false) :
    skipBlanks (character :: text) = character :: text := by
  simp [skipBlanks, solid]

theorem skipBlanks_append_cons {blanks text : List Char} {character : Char}
    (blank : ∀ character ∈ blanks, isBlank character = true) (solid : isBlank character = false) :
    skipBlanks (blanks ++ character :: text) = character :: text := by
  rw [skipBlanks_blank_append blank, skipBlanks_cons_of_not_blank solid]

@[simp]
theorem skipBlanks_skipBlanks (text : List Char) :
    skipBlanks (skipBlanks text) = skipBlanks text := by
  induction text with
  | nil => rfl
  | cons character rest inductionHypothesis =>
      by_cases blank : isBlank character = true
      · simpa [skipBlanks, blank] using inductionHypothesis
      · simp [skipBlanks, blank]

end PageBuffer.Json
