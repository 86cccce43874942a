import PageBuffer.Text.Ranges

/-!
Blank characters, those with the Unicode property White_Space, and cutting them off both ends.
-/

namespace PageBuffer.Text

def blankRanges : Ranges :=
  [ (0x09, 0x0d), (0x20, 0x20), (0x85, 0x85), (0xa0, 0xa0), (0x1680, 0x1680), (0x2000, 0x200a),
    (0x2028, 0x2029), (0x202f, 0x202f), (0x205f, 0x205f), (0x3000, 0x3000) ]

def isBlank (character : Char) : Bool :=
  blankRanges.contains character

/-- The text without the blanks at its start and at its end. -/
def trim (text : List Char) : List Char :=
  ((text.dropWhile isBlank).reverse.dropWhile isBlank).reverse

/-- Only blanks are cut off. -/
theorem exists_blank_append_trim (text : List Char) :
    ∃ before after, text = before ++ trim text ++ after ∧
      (∀ character ∈ before, isBlank character = true) ∧
      ∀ character ∈ after, isBlank character = true := by
  refine ⟨text.takeWhile isBlank, ((text.dropWhile isBlank).reverse.takeWhile isBlank).reverse,
    ?_, ?_, ?_⟩
  · have inner : trim text ++ ((text.dropWhile isBlank).reverse.takeWhile isBlank).reverse =
        text.dropWhile isBlank := by
      rw [trim, ← List.reverse_append, List.takeWhile_append_dropWhile, List.reverse_reverse]
    rw [List.append_assoc, inner, List.takeWhile_append_dropWhile]
  · exact fun character membership => List.all_eq_true.mp (List.all_takeWhile) character membership
  · intro character membership
    exact List.all_eq_true.mp List.all_takeWhile character (List.mem_reverse.mp membership)

end PageBuffer.Text
