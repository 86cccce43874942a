import PageBuffer.Text.Blank

/-!
What is left of a text between the white space at both of its ends.
-/

namespace PageBuffer.Text

variable {text body : List Char} {character : Char}

/-- The code points with the Unicode property White_Space. -/
def whiteSpace : List Nat :=
  [ 0x09, 0x0a, 0x0b, 0x0c, 0x0d, 0x20, 0x85, 0xa0, 0x1680, 0x2000, 0x2001, 0x2002, 0x2003, 0x2004,
    0x2005, 0x2006, 0x2007, 0x2008, 0x2009, 0x200a, 0x2028, 0x2029, 0x202f, 0x205f, 0x3000 ]

def IsWhite (character : Char) : Prop :=
  character.toNat ∈ whiteSpace

def AllWhite (text : List Char) : Prop :=
  ∀ character ∈ text, IsWhite character

/-- The text is the body between white space, and the body has none at its ends. -/
structure Trims (text body : List Char) : Prop where
  exists_white : ∃ before after, text = before ++ body ++ after ∧ AllWhite before ∧ AllWhite after
  head_solid : ∀ character, body.head? = some character → ¬IsWhite character
  last_solid : ∀ character, body.getLast? = some character → ¬IsWhite character

theorem isBlank_iff : isBlank character = true ↔ IsWhite character := by
  simp only [isBlank, Ranges.contains_iff, blankRanges, IsWhite, whiteSpace, List.mem_cons,
    List.not_mem_nil, or_false, exists_eq_or_imp, exists_eq_left]
  omega

theorem dropWhile_append_of_solid {before rest : List Char} (white : AllWhite before)
    (solid : ∀ character, rest.head? = some character → ¬IsWhite character) :
    (before ++ rest).dropWhile isBlank = rest := by
  rw [List.dropWhile_append_of_pos fun character member => isBlank_iff.mpr (white character member)]
  cases rest with
  | nil => rfl
  | cons head tail =>
      have notBlank : ¬isBlank head = true := fun blank => solid head rfl (isBlank_iff.mp blank)
      rw [List.dropWhile_cons_of_neg notBlank]

theorem head?_dropWhile_solid (text : List Char)
    (first : (text.dropWhile isBlank).head? = some character) : ¬IsWhite character := by
  have notBlank := List.head?_dropWhile_not isBlank text
  rw [first] at notBlank
  intro white
  simp [isBlank_iff.mpr white] at notBlank

theorem trims_trim (text : List Char) : Trims text (trim text) := by
  constructor
  case exists_white =>
    obtain ⟨before, after, parts, blankBefore, blankAfter⟩ := exists_blank_append_trim text
    simp only [isBlank_iff] at blankBefore blankAfter
    exact ⟨before, after, parts, blankBefore, blankAfter⟩
  case last_solid =>
    intro character last
    rw [trim, List.getLast?_reverse] at last
    exact head?_dropWhile_solid _ last
  case head_solid =>
    intro character first
    -- What is cut off at the end of the text leaves its first character in place.
    obtain ⟨cut, parts⟩ := List.dropWhile_suffix isBlank (l := (text.dropWhile isBlank).reverse)
    have whole : text.dropWhile isBlank = trim text ++ cut.reverse := by
      rw [trim, ← List.reverse_append, parts, List.reverse_reverse]
    apply head?_dropWhile_solid text
    rw [whole, List.head?_append, first]
    rfl

theorem Trims.eq_trim (trims : Trims text body) : trim text = body := by
  obtain ⟨before, after, rfl, whiteBefore, whiteAfter⟩ := trims.exists_white
  have whiteReversed : AllWhite after.reverse := by
    intro character member
    exact whiteAfter character (List.mem_reverse.mp member)
  cases body with
  | nil =>
      have white : AllWhite (before ++ after) := by
        intro character member
        exact (List.mem_append.mp member).elim (whiteBefore character) (whiteAfter character)
      have nothing : (before ++ after ++ []).dropWhile isBlank = [] :=
        dropWhile_append_of_solid white (by simp)
      rw [List.append_nil] at nothing
      rw [List.append_nil, trim, nothing]
      rfl
  | cons head rest =>
      have start : ∀ character, (head :: rest ++ after).head? = some character →
          ¬IsWhite character := trims.head_solid
      rw [trim, List.append_assoc, dropWhile_append_of_solid whiteBefore start,
        List.reverse_append, dropWhile_append_of_solid whiteReversed, List.reverse_reverse]
      intro character first
      rw [List.head?_reverse] at first
      exact trims.last_solid character first

theorem trims_iff : Trims text body ↔ trim text = body := by
  constructor
  · exact Trims.eq_trim
  · rintro rfl
    exact trims_trim text

end PageBuffer.Text
