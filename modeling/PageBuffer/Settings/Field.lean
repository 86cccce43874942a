import PageBuffer.Settings.Basic

/-!
The three sizes one by one: their names, and reading and replacing one of them.
-/

namespace PageBuffer.Settings

/-- One of the three sizes. -/
inductive Field where
  | bucketSize
  | poolSize
  | replacerK
  deriving DecidableEq, Repr

namespace Field

/-- All fields, in the order in which they are written. -/
def all : List Field :=
  [.bucketSize, .poolSize, .replacerK]

@[simp]
theorem mem_all (field : Field) : field ∈ all := by
  cases field <;> simp [all]

/-- The name of a field's member in JSON text. -/
def key : Field → String
  | .bucketSize => "bucket_size"
  | .poolSize => "pool_size"
  | .replacerK => "replacer_k"

/-- The name of a field's environment variable. -/
def variableName : Field → String
  | .bucketSize => "BUFCORE_BUCKET_SIZE"
  | .poolSize => "BUFCORE_POOL_SIZE"
  | .replacerK => "BUFCORE_REPLACER_K"

def ofKey? (name : String) : Option Field :=
  all.find? (·.key = name)

@[simp]
theorem ofKey?_key (field : Field) : ofKey? field.key = some field := by
  cases field <;> decide

end Field

def get (settings : Settings) : Field → UInt64
  | .bucketSize => settings.bucketSize
  | .poolSize => settings.poolSize
  | .replacerK => settings.replacerK

def set (settings : Settings) (field : Field) (size : UInt64) : Settings :=
  match field with
  | .bucketSize => { settings with bucketSize := size }
  | .poolSize => { settings with poolSize := size }
  | .replacerK => { settings with replacerK := size }

theorem ext_get {first second : Settings} (same : ∀ field, first.get field = second.get field) :
    first = second := by
  cases first
  cases second
  have bucketSize := same .bucketSize
  have poolSize := same .poolSize
  have replacerK := same .replacerK
  simp_all [get]

@[simp]
theorem get_set (settings : Settings) (field other : Field) (size : UInt64) :
    (settings.set field size).get other = if other = field then size else settings.get other := by
  cases field <;> cases other <;> simp [get, set]

end PageBuffer.Settings
