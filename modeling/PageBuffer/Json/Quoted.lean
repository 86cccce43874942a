import PageBuffer.Fallible
import PageBuffer.Json.Fault

/-!
Strings in JSON text, read from the character after the opening quote.

A string that is wanted is decoded, and its surrogate escapes have to pair.  In a string that is
only skipped an escape needs its four digits and no more.
-/

namespace PageBuffer.Json.Quoted

def hexDigit? (character : Char) : Option Nat :=
  if character.isDigit then
    some (character.toNat - '0'.toNat)
  else if 'a' ≤ character ∧ character ≤ 'f' then
    some (character.toNat - 'a'.toNat + 10)
  else if 'A' ≤ character ∧ character ≤ 'F' then
    some (character.toNat - 'A'.toNat + 10)
  else
    none

def quad? (text : List Char) : Option (Nat × List Char) :=
  match text with
  | first :: second :: third :: fourth :: rest => do
      let first ← hexDigit? first
      let second ← hexDigit? second
      let third ← hexDigit? third
      let fourth ← hexDigit? fourth
      return (((first * 16 + second) * 16 + third) * 16 + fourth, rest)
  | _ => none

/-- A number of four hexadecimal digits.  A text too short to hold four bytes has ended. -/
def scanQuad (text : List Char) : Except Fault (Nat × List Char) :=
  match quad? text with
  | some result => .ok result
  | none => .error (if (String.ofList text).utf8ByteSize < 4 then .ended else .malformed)

def isLeading (unit : Nat) : Bool :=
  0xd800 ≤ unit && unit ≤ 0xdbff

def isTrailing (unit : Nat) : Bool :=
  0xdc00 ≤ unit && unit ≤ 0xdfff

/-- The character of a pair of surrogates. -/
def ofSurrogates (leading trailing : Nat) : Char :=
  Char.ofNat (0x10000 + (leading - 0xd800) * 0x400 + (trailing - 0xdc00))

/-- The escapes of one letter. -/
def simpleEscape? : Char → Option Char
  | '"' => some '"'
  | '\\' => some '\\'
  | '/' => some '/'
  | 'b' => some '\x08'
  | 'f' => some '\x0c'
  | 'n' => some '\n'
  | 'r' => some '\r'
  | 't' => some '\t'
  | _ => none

/-- The second half of a surrogate pair. -/
def readTrailing (leading : Nat) (text : List Char) : Except Fault (Char × List Char) :=
  match text with
  | [] | ['\\'] => .error .ended
  | '\\' :: 'u' :: rest => do
      let (unit, rest) ← scanQuad rest
      if isTrailing unit then return (ofSurrogates leading unit, rest) else throw .malformed
  | _ => .error .malformed

/-- The character that an escape stands for, from the character after the backslash. -/
def readEscape (text : List Char) : Except Fault (Char × List Char) :=
  match text with
  | [] => .error .ended
  | 'u' :: rest => do
      let (unit, rest) ← scanQuad rest
      if isTrailing unit then
        throw .malformed
      else if isLeading unit then
        readTrailing unit rest
      else
        return (Char.ofNat unit, rest)
  | letter :: rest =>
      match simpleEscape? letter with
      | some character => .ok (character, rest)
      | none => .error .malformed

/-- The text after an escape. -/
def skipEscape (text : List Char) : Except Fault (List Char) :=
  match text with
  | [] => .error .ended
  | 'u' :: rest => (scanQuad rest).map (·.2)
  | letter :: rest => if (simpleEscape? letter).isSome then .ok rest else .error .malformed

theorem length_scanQuad_lt {text rest : List Char} {unit : Nat}
    (scanned : scanQuad text = .ok (unit, rest)) : rest.length < text.length := by
  unfold scanQuad at scanned
  split at scanned
  · rename_i result found
    cases scanned
    unfold quad? at found
    split at found
    · simp only [Option.bind_eq_bind, Option.bind_eq_some_iff, Option.pure_def, Option.some.injEq,
        Prod.mk.injEq] at found
      obtain ⟨_, _, _, _, _, _, _, _, _, rfl⟩ := found
      simp only [List.length_cons]
      omega
    · simp at found
  · simp at scanned

theorem length_readTrailing_lt {leading : Nat} {text rest : List Char} {character : Char}
    (result : readTrailing leading text = .ok (character, rest)) : rest.length < text.length := by
  unfold readTrailing at result
  split at result
  · simp at result
  · simp at result
  · simp only [Fallible.bind_eq_ok_iff, Prod.exists] at result
    obtain ⟨_, after, scanned, accepted⟩ := result
    have shorter := length_scanQuad_lt scanned
    split at accepted
    · simp only [Fallible.pure_eq_ok_iff, Prod.mk.injEq] at accepted
      obtain ⟨-, rfl⟩ := accepted
      simp only [List.length_cons]
      omega
    · simp at accepted
  · simp at result

theorem length_readEscape_lt {text rest : List Char} {character : Char}
    (result : readEscape text = .ok (character, rest)) : rest.length < text.length := by
  unfold readEscape at result
  split at result
  · simp at result
  · simp only [Fallible.bind_eq_ok_iff, Prod.exists] at result
    obtain ⟨_, after, scanned, accepted⟩ := result
    have shorter := length_scanQuad_lt scanned
    simp only [List.length_cons]
    split at accepted
    · simp at accepted
    · split at accepted
      · have := length_readTrailing_lt accepted
        omega
      · simp only [Fallible.pure_eq_ok_iff, Prod.mk.injEq] at accepted
        obtain ⟨-, rfl⟩ := accepted
        omega
  · split at result
    · cases result
      simp
    · simp at result

theorem length_skipEscape_lt {text rest : List Char}
    (result : skipEscape text = .ok rest) : rest.length < text.length := by
  unfold skipEscape at result
  split at result
  · simp at result
  · obtain ⟨⟨_, after⟩, scanned, rfl⟩ := Fallible.map_eq_ok_iff.mp result
    have := length_scanQuad_lt scanned
    simp only [List.length_cons]
    omega
  · split at result
    · cases result
      simp
    · simp at result

/-- Controls have to be written as escapes. -/
def isControl (character : Char) : Bool :=
  character.toNat < 0x20

/-- The characters of a string, and the text after its closing quote. -/
def read (text : List Char) : Except Fault (List Char × List Char) :=
  match text with
  | [] => .error .ended
  | '"' :: rest => .ok ([], rest)
  | '\\' :: rest =>
      match _escaped : readEscape rest with
      | .error fault => .error fault
      | .ok (character, after) =>
          match read after with
          | .error fault => .error fault
          | .ok (characters, final) => .ok (character :: characters, final)
  | character :: rest =>
      if isControl character then
        .error .malformed
      else
        match read rest with
        | .error fault => .error fault
        | .ok (characters, final) => .ok (character :: characters, final)
termination_by text.length
decreasing_by
  · have := length_readEscape_lt _escaped
    simp only [List.length_cons]
    omega
  · simp

/-- The text after a string's closing quote. -/
def skip (text : List Char) : Except Fault (List Char) :=
  match text with
  | [] => .error .ended
  | '"' :: rest => .ok rest
  | '\\' :: rest =>
      match _escaped : skipEscape rest with
      | .error fault => .error fault
      | .ok after => skip after
  | character :: rest => if isControl character then .error .malformed else skip rest
termination_by text.length
decreasing_by
  · have := length_skipEscape_lt _escaped
    simp only [List.length_cons]
    omega
  · simp

theorem length_read_lt {text characters rest : List Char}
    (result : read text = .ok (characters, rest)) : rest.length < text.length := by
  fun_induction read text generalizing characters rest with
  | case1 => simp at result
  | case2 after =>
      cases result
      simp
  | case3 => simp at result
  | case4 => simp at result
  | case5 after character remaining escaped inner final found inductionHypothesis =>
      cases result
      have first := length_readEscape_lt escaped
      have second := inductionHypothesis found
      simp only [List.length_cons]
      omega
  | case6 => simp at result
  | case7 => simp at result
  | case8 character after _ _ _ inner final found inductionHypothesis =>
      cases result
      have := inductionHypothesis found
      simp only [List.length_cons]
      omega

theorem length_skip_lt {text rest : List Char} (result : skip text = .ok rest) :
    rest.length < text.length := by
  fun_induction skip text with
  | case1 => simp at result
  | case2 after =>
      cases result
      simp
  | case3 => simp at result
  | case4 after remaining escaped inductionHypothesis =>
      have first := length_skipEscape_lt escaped
      have second := inductionHypothesis result
      simp only [List.length_cons]
      omega
  | case5 => simp at result
  | case6 character after _ _ _ inductionHypothesis =>
      have := inductionHypothesis result
      simp only [List.length_cons]
      omega

end PageBuffer.Json.Quoted
