import PageBuffer.Json.Blank
import PageBuffer.Json.Scalar

/-!
Skipping a whole JSON value, however deeply nested.

The lists and objects that are still open form a stack.  A member of an object has a key; the keys
of a value that is skipped are skipped like its strings.
-/

namespace PageBuffer.Json

inductive Container where
  | list
  | object
  deriving DecidableEq, Repr

def Container.closer : Container → Char
  | .list => ']'
  | .object => '\x7d'

def skipColon (text : List Char) : Except Fault (List Char) :=
  match skipBlanks text with
  | [] => .error .ended
  | ':' :: rest => .ok rest
  | _ => .error .malformed

/-- Skips a member's key and the colon after it. -/
def skipKey (text : List Char) : Except Fault (List Char) :=
  match skipBlanks text with
  | [] => .error .ended
  | '"' :: rest =>
      match Quoted.skip rest with
      | .error fault => .error fault
      | .ok rest => skipColon rest
  | _ => .error .malformed

/-- Skips what stands before the value of a list's element or of an object's member. -/
def Container.skipLabel (container : Container) (text : List Char) : Except Fault (List Char) :=
  match container with
  | .list => .ok text
  | .object => skipKey text

/-- What is expected next. -/
inductive Expecting where
  | value
  /-- The first element of a container just opened, or its end. -/
  | first (container : Container)
  /-- A comma, or the end of the innermost container. -/
  | next
  deriving DecidableEq, Repr

theorem length_skipColon_lt {text rest : List Char} (result : skipColon text = .ok rest) :
    rest.length < text.length := by
  have blanks := length_skipBlanks_le text
  unfold skipColon at result
  split at result
  · simp at result
  · rename_i after colon
    cases result
    rw [colon] at blanks
    exact blanks
  · simp at result

theorem length_skipKey_lt {text rest : List Char} (result : skipKey text = .ok rest) :
    rest.length < text.length := by
  have blanks := length_skipBlanks_le text
  unfold skipKey at result
  split at result
  · simp at result
  · rename_i after opened
    rw [opened] at blanks
    split at result
    · simp at result
    · rename_i remaining found
      have key := Quoted.length_skip_lt found
      have colon := length_skipColon_lt result
      simp only [List.length_cons] at blanks
      omega
  · simp at result

theorem Container.length_skipLabel_le {container : Container} {text rest : List Char}
    (result : container.skipLabel text = .ok rest) : rest.length ≤ text.length := by
  cases container with
  | list =>
      cases result
      exact Nat.le_refl _
  | object => exact Nat.le_of_lt (length_skipKey_lt result)

/-- The text after the value, given the containers that enclose what is expected next. -/
def skipFrom (expecting : Expecting) (enclosing : List Container) (text : List Char) :
    Except Fault (List Char) :=
  match expecting with
  | .value =>
      match _remaining : skipBlanks text with
      | [] => .error .ended
      | '[' :: rest => skipFrom (.first .list) enclosing rest
      | '\x7b' :: rest => skipFrom (.first .object) enclosing rest
      | scalar =>
          match _skipped : Scalar.skip scalar with
          | .error fault => .error fault
          | .ok rest => skipFrom .next enclosing rest
  | .first container =>
      match _remaining : skipBlanks text with
      | [] => .error .ended
      | character :: rest =>
          if character = container.closer then
            skipFrom .next enclosing rest
          else
            match _skipped : container.skipLabel (character :: rest) with
            | .error fault => .error fault
            | .ok rest => skipFrom .value (container :: enclosing) rest
  | .next =>
      match enclosing with
      | [] => .ok text
      | container :: outer =>
          match _remaining : skipBlanks text with
          | [] => .error .ended
          | ',' :: rest =>
              match _skipped : container.skipLabel rest with
              | .error fault => .error fault
              | .ok rest => skipFrom .value (container :: outer) rest
          | character :: rest =>
              if character = container.closer then
                skipFrom .next outer rest
              else
                .error .malformed
termination_by 2 * text.length + if expecting matches .first _ then 1 else 0
decreasing_by
  all_goals
    have blanks := length_skipBlanks_le text
    rw [_remaining] at blanks
    grind [→ Scalar.length_skip_lt, → Container.length_skipLabel_le]

/-- The text after a value. -/
def skipValue (text : List Char) : Except Fault (List Char) :=
  skipFrom .value [] text

theorem length_skipFrom_le {expecting : Expecting} {enclosing : List Container}
    {text rest : List Char} (result : skipFrom expecting enclosing text = .ok rest) :
    rest.length ≤ text.length := by
  fun_induction skipFrom expecting enclosing text <;>
    grind [→ Scalar.length_skip_lt, → Container.length_skipLabel_le, length_skipBlanks_le]

theorem length_skipValue_le {text rest : List Char} (result : skipValue text = .ok rest) :
    rest.length ≤ text.length :=
  length_skipFrom_le result

end PageBuffer.Json
