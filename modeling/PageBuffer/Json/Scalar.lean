import PageBuffer.Json.Number
import PageBuffer.Json.Quoted

/-!
Values other than lists and objects: reading one, and skipping one.

The two differ in what they refuse.  A number that is read has to be in range, and a string that is
read has to decode; of a number that is skipped any defect makes the text malformed, the end of
the text included.
-/

namespace PageBuffer.Json

/-- A value without parts. -/
inductive Scalar where
  | null
  | flag (value : Bool)
  | number (number : Number)
  | text (characters : List Char)
  deriving DecidableEq, Repr

namespace Scalar

/-- The rest of the text after a given word. -/
def expect (word text : List Char) : Except Fault (List Char) :=
  match word, text with
  | [], rest => .ok rest
  | _ :: _, [] => .error .ended
  | wanted :: word, character :: rest =>
      if character = wanted then expect word rest else .error .malformed

/-- The 64-bit word that a value stands for, if it is a plain number. -/
def word? : Scalar → Option UInt64
  | .number written => written.word?
  | _ => none

def startsNumber (character : Char) : Bool :=
  character = '-' || character.isDigit

/-- The value that starts with the first character of the text. -/
def read (text : List Char) : Except Fault (Scalar × List Char) :=
  match text with
  | [] => .error .ended
  | 'n' :: rest => (expect ['u', 'l', 'l'] rest).map (.null, ·)
  | 't' :: rest => (expect ['r', 'u', 'e'] rest).map (.flag true, ·)
  | 'f' :: rest => (expect ['a', 'l', 's', 'e'] rest).map (.flag false, ·)
  | '"' :: rest => (Quoted.read rest).map fun (characters, rest) => (.text characters, rest)
  | first :: _ =>
      if startsNumber first then
        match Number.scan text with
        | .ok (scanned, rest) =>
            if scanned.isOutOfRange then .error .malformed else .ok (.number scanned, rest)
        | .error .atEnd => .error .ended
        | .error .atCharacter => .error .malformed
      else
        .error .malformed

/-- The text after the value that starts with its first character. -/
def skip (text : List Char) : Except Fault (List Char) :=
  match text with
  | [] => .error .ended
  | 'n' :: rest => expect ['u', 'l', 'l'] rest
  | 't' :: rest => expect ['r', 'u', 'e'] rest
  | 'f' :: rest => expect ['a', 'l', 's', 'e'] rest
  | '"' :: rest => Quoted.skip rest
  | first :: _ =>
      if startsNumber first then
        match Number.scan text with
        | .ok (_, rest) => .ok rest
        | .error _ => .error .malformed
      else
        .error .malformed

theorem eq_append_of_expect {word text rest : List Char}
    (expected : expect word text = .ok rest) : text = word ++ rest := by
  fun_induction expect word text with
  | case1 => simp_all
  | case2 => simp at expected
  | case3 wanted word after inductionHypothesis => simp [inductionHypothesis expected]
  | case4 => simp at expected

@[simp]
theorem expect_append (word rest : List Char) : expect word (word ++ rest) = .ok rest := by
  induction word with
  | nil => simp [expect]
  | cons wanted word inductionHypothesis => simp [expect, inductionHypothesis]

theorem length_expect_le {word text rest : List Char} (expected : expect word text = .ok rest) :
    rest.length ≤ text.length := by
  simp [eq_append_of_expect expected]

theorem length_read_lt {text rest : List Char} {scalar : Scalar}
    (result : read text = .ok (scalar, rest)) : rest.length < text.length := by
  have afterWord : ∀ {word after : List Char} {value : Scalar},
      (expect word after).map (value, ·) = .ok (scalar, rest) → rest.length ≤ after.length := by
    intro word after value mapped
    obtain ⟨_, found, same⟩ := Fallible.map_eq_ok_iff.mp mapped
    cases same
    exact length_expect_le found
  unfold read at result
  split at result
  · simp at result
  · exact Nat.lt_succ_of_le (afterWord result)
  · exact Nat.lt_succ_of_le (afterWord result)
  · exact Nat.lt_succ_of_le (afterWord result)
  · obtain ⟨⟨_, _⟩, found, same⟩ := Fallible.map_eq_ok_iff.mp result
    cases same
    exact Nat.lt_succ_of_lt (Quoted.length_read_lt found)
  · split at result
    · split at result
      · rename_i found
        split at result
        · simp at result
        · cases result
          exact Number.length_scan_lt found
      · simp at result
      · simp at result
    · simp at result

theorem length_skip_lt {text rest : List Char} (result : skip text = .ok rest) :
    rest.length < text.length := by
  unfold skip at result
  split at result
  · simp at result
  · exact Nat.lt_succ_of_le (length_expect_le result)
  · exact Nat.lt_succ_of_le (length_expect_le result)
  · exact Nat.lt_succ_of_le (length_expect_le result)
  · exact Nat.lt_succ_of_lt (Quoted.length_skip_lt result)
  · split at result
    · split at result
      · rename_i number after found
        cases result
        exact Number.length_scan_lt found
      · simp at result
    · simp at result

end Scalar

end PageBuffer.Json
