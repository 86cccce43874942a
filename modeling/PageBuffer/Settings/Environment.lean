import PageBuffer.Fallible
import PageBuffer.Log
import PageBuffer.Settings.Field
import PageBuffer.Text.Blank
import PageBuffer.Text.Numeral
import PageBuffer.Text.Quoted

/-!
Settings from environment variables.

A variable that is unset, or whose bytes are no text, leaves its size as it is by default.  Any
other value has to be a numeral between blanks.  The variables are read in the order of the fields,
and the first that cannot be read is reported; the sizes are checked after that.
-/

namespace PageBuffer

/-- The bytes of each variable that is set. -/
abbrev Environment := String → Option ByteArray

namespace Environment

def ofList (bindings : List (String × ByteArray)) : Environment :=
  fun name => (bindings.find? (·.1 = name)).map (·.2)

/-- A variable's text, if it is set and its bytes are UTF-8. -/
def text? (environment : Environment) (name : String) : Option String :=
  (environment name).bind String.fromUTF8?

end Environment

namespace Settings

/-- The report on a variable that holds no numeral. -/
def unreadable (field : Field) (raw : String) (fault : Text.Numeral.Fault) : BufferError :=
  let name := field.variableName
  let shown := Text.Quoted.quote raw
  let why := fault.message
  .invalidConfig s!"{name}={shown}: {why}"

/-- The number that a variable's text stands for. -/
def readVariable (raw : String) : Except Text.Numeral.Fault Nat :=
  Text.Numeral.read (Text.trim raw.toList)

/-- The size that the environment gives a field, or else its default. -/
def sizeIn (environment : Environment) (field : Field) : Except BufferError UInt64 :=
  match environment.text? field.variableName with
  | none => .ok (({} : Settings).get field)
  | some raw =>
      match readVariable raw with
      | .ok number => .ok (.ofNat number)
      | .error fault => .error (unreadable field raw fault)

def ofEnvironment (environment : Environment) : Except BufferError Settings := do
  let bucketSize ← sizeIn environment .bucketSize
  let poolSize ← sizeIn environment .poolSize
  let replacerK ← sizeIn environment .replacerK
  let settings : Settings := { bucketSize, poolSize, replacerK }
  settings.validate
  return settings

theorem usable_of_ofEnvironment {environment : Environment} {settings : Settings}
    (result : ofEnvironment environment = .ok settings) : settings.Usable := by
  simp only [ofEnvironment, Fallible.bind_eq_ok_iff] at result
  obtain ⟨_, _, _, _, _, _, _, valid, accepted⟩ := result
  cases accepted
  exact (validate_eq_ok_iff _).mp valid

/-- The settings of a whole process, and what their first use logs.  An environment that cannot be
used is ignored with a warning. -/
def processWide (environment : Environment) : Settings × List Record :=
  match ofEnvironment environment with
  | .ok settings => (settings, [])
  | .error error =>
      let why := error.message
      ({}, [⟨.warn, s!"ignoring environment configuration: {why}"⟩])

theorem usable_processWide (environment : Environment) :
    (processWide environment).1.Usable := by
  unfold processWide
  split
  · rename_i settings result
    exact usable_of_ofEnvironment result
  · exact usable_default

end Settings

end PageBuffer
