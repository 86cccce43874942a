import PageBuffer.Error

/-!
The three sizes that a table, a replacer and a pool are built from, their defaults, and the check
that they can be used.  A pool size of zero is allowed; a bucket or a window of size zero is not.
-/

namespace PageBuffer

/-- Sizing parameters.  Each is a 64-bit word, as in every form in which they are written. -/
structure Settings where
  /-- Entries per hash bucket before it has to split. -/
  bucketSize : UInt64 := 4
  /-- Frames of a pool, and the bound on a replacer's frame numbers. -/
  poolSize : UInt64 := 50
  /-- Accesses that a replacer remembers for each frame. -/
  replacerK : UInt64 := 2
  deriving DecidableEq, Repr

namespace Settings

instance : Inhabited Settings := ⟨{}⟩

def validate (settings : Settings) : Except BufferError Unit :=
  if settings.bucketSize = 0 then
    .error (.invalidConfig "bucket_size must be positive")
  else if settings.replacerK = 0 then
    .error (.invalidConfig "replacer_k must be positive")
  else
    .ok ()

/-- Both sizes that have to be positive are. -/
def Usable (settings : Settings) : Prop :=
  settings.bucketSize ≠ 0 ∧ settings.replacerK ≠ 0

instance (settings : Settings) : Decidable settings.Usable :=
  inferInstanceAs (Decidable (_ ∧ _))

theorem validate_eq_ok_iff (settings : Settings) :
    settings.validate = .ok () ↔ settings.Usable := by
  unfold validate Usable
  split <;> simp_all

theorem usable_default : ({} : Settings).Usable := by decide

end Settings

end PageBuffer
