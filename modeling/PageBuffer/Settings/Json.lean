import PageBuffer.Json.Value
import PageBuffer.Settings.Field

/-!
Settings as JSON text: an object with a member for each field.

Reading is more lenient than writing.  An object may give its fields in any order, leave some of
them at their defaults and have members of other names; a list gives the first fields in order.
A field given twice is refused.
-/

namespace PageBuffer.Settings

open Json

/-- A field's member of the object. -/
def member (settings : Settings) (field : Field) : List Char :=
  '"' :: field.key.toList ++ ['"', ':'] ++ Text.Numeral.print (settings.get field).toNat

/-- The object, without blanks and with its fields in order. -/
def toJson (settings : Settings) : List Char :=
  '\x7b' :: [','].intercalate (Field.all.map settings.member) ++ ['\x7d']

/-- A size and the text after it. -/
def readSize (text : List Char) : Except Fault (UInt64 × List Char) :=
  match skipBlanks text with
  | '[' :: _ | '\x7b' :: _ => .error .mismatched
  | text =>
      match Scalar.read text with
      | .error fault => .error fault
      | .ok (scalar, rest) =>
          match scalar.word? with
          | some size => .ok (size, rest)
          | none => .error .mismatched

/-- A member's key, and the text after its closing quote. -/
def readKey (text : List Char) : Except Fault (List Char × List Char) :=
  match skipBlanks text with
  | [] => .error .ended
  | '"' :: rest => Quoted.read rest
  | _ => .error .malformed

theorem length_readSize_lt {text rest : List Char} {size : UInt64}
    (result : readSize text = .ok (size, rest)) : rest.length < text.length := by
  have blanks := length_skipBlanks_le text
  unfold readSize at result
  split at result
  · simp at result
  · simp at result
  · split at result
    · simp at result
    · rename_i scalar after found
      have shorter := Scalar.length_read_lt found
      split at result
      · simp only [Except.ok.injEq, Prod.mk.injEq] at result
        obtain ⟨-, rfl⟩ := result
        omega
      · simp at result

theorem length_readKey_lt {text name rest : List Char}
    (result : readKey text = .ok (name, rest)) : rest.length < text.length := by
  have blanks := length_skipBlanks_le text
  unfold readKey at result
  split at result
  · simp at result
  · rename_i after opened
    have shorter := Quoted.length_read_lt result
    rw [opened] at blanks
    simp only [List.length_cons] at blanks
    omega
  · simp at result

/-- What the members of an object have given so far. -/
structure Draft where
  settings : Settings := {}
  given : List Field := []
  deriving DecidableEq, Repr

namespace Draft

def give (draft : Draft) (field : Field) (size : UInt64) : Draft :=
  { settings := draft.settings.set field size, given := field :: draft.given }

/-- Reads the rest of a member after its key. -/
def readNamed (draft : Draft) (name text : List Char) : Except Fault (Draft × List Char) :=
  match Field.ofKey? (String.ofList name) with
  | none => do
      let text ← skipColon text
      let text ← skipValue text
      return (draft, text)
  | some field =>
      if field ∈ draft.given then
        throw .mismatched
      else do
        let text ← skipColon text
        let (size, text) ← readSize text
        return (draft.give field size, text)

def readMember (draft : Draft) (text : List Char) : Except Fault (Draft × List Char) := do
  let (name, text) ← readKey text
  draft.readNamed name text

theorem length_readNamed_le {draft next : Draft} {name text rest : List Char}
    (result : draft.readNamed name text = .ok (next, rest)) : rest.length ≤ text.length := by
  unfold readNamed at result
  split at result
  · simp only [Fallible.bind_eq_ok_iff] at result
    obtain ⟨_, colon, _, value, accepted⟩ := result
    cases accepted
    exact Nat.le_of_lt (Nat.lt_of_le_of_lt (length_skipValue_le value) (length_skipColon_lt colon))
  · split at result
    · simp at result
    · simp only [Fallible.bind_eq_ok_iff, Prod.exists] at result
      obtain ⟨_, colon, _, _, size, accepted⟩ := result
      cases accepted
      exact Nat.le_of_lt (Nat.lt_trans (length_readSize_lt size) (length_skipColon_lt colon))

theorem length_readMember_lt {draft next : Draft} {text rest : List Char}
    (result : draft.readMember text = .ok (next, rest)) : rest.length < text.length := by
  simp only [readMember, Fallible.bind_eq_ok_iff, Prod.exists] at result
  obtain ⟨_, _, key, named⟩ := result
  exact Nat.lt_of_le_of_lt (length_readNamed_le named) (length_readKey_lt key)

/-- Reads what follows a member: the end of the object, or a comma and the next member. -/
def readNext (draft : Draft) (text : List Char) : Except Fault (Settings × List Char) :=
  match _remaining : skipBlanks text with
  | [] => .error .ended
  | '\x7d' :: rest => .ok (draft.settings, rest)
  | ',' :: rest =>
      match _member : draft.readMember rest with
      | .error fault => .error fault
      | .ok (draft, rest) => draft.readNext rest
  | _ => .error .malformed
termination_by text.length
decreasing_by
  have blanks := length_skipBlanks_le text
  have := length_readMember_lt _member
  rw [_remaining] at blanks
  simp only [List.length_cons] at blanks
  omega

end Draft

/-- Settings from an object, after its opening brace. -/
def readObject (text : List Char) : Except Fault (Settings × List Char) :=
  match skipBlanks text with
  | [] => .error .ended
  | '\x7d' :: rest => .ok ({}, rest)
  | text =>
      match ({} : Draft).readMember text with
      | .error fault => .error fault
      | .ok (draft, rest) => draft.readNext rest

/-- Reads what follows an element: the end of the list, or a comma and the next field's size. -/
def readElements (settings : Settings) (fields : List Field) (text : List Char) :
    Except Fault (Settings × List Char) :=
  match fields, skipBlanks text with
  | _, [] => .error .ended
  | _, ']' :: rest => .ok (settings, rest)
  | field :: fields, ',' :: rest =>
      match readSize rest with
      | .error fault => .error fault
      | .ok (size, rest) => readElements (settings.set field size) fields rest
  | _, _ => .error .malformed

/-- Settings from a list, after its opening bracket. -/
def readList (text : List Char) : Except Fault (Settings × List Char) :=
  match skipBlanks text with
  | [] => .error .ended
  | ']' :: rest => .ok ({}, rest)
  | text =>
      match readSize text with
      | .error fault => .error fault
      | .ok (size, rest) =>
          readElements (({} : Settings).set .bucketSize size) [.poolSize, .replacerK] rest

/-- Settings at the beginning of a text, and the text after them. -/
def readForm (text : List Char) : Except Fault (Settings × List Char) :=
  match skipBlanks text with
  | '\x7b' :: rest => readObject rest
  | '[' :: rest => readList rest
  | text =>
      match Scalar.read text with
      | .error fault => .error fault
      | .ok _ => .error .mismatched

/-- The settings that a whole text stands for. -/
def ofJson (text : List Char) : Except Fault Settings :=
  match readForm text with
  | .error fault => .error fault
  | .ok (settings, rest) => if skipBlanks rest = [] then .ok settings else .error .malformed

end PageBuffer.Settings
