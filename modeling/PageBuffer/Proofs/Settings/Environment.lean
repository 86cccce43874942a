import PageBuffer.Building
import PageBuffer.Proofs.Text.Numeral
import PageBuffer.Proofs.Text.Quoting
import PageBuffer.Proofs.Text.Trimming
import PageBuffer.Settings.Environment

/-!
What an environment stands for, said without reading it.

A variable gives a size or spoils the settings.  `Configures` puts the three variables and the two
checks together, `Yields` says what a whole process uses instead of spoilt settings, and `Buildable`
what can be built from settings that passed the checks.
-/

namespace PageBuffer

/-- A variable has a text if it is set to the UTF-8 bytes of one. -/
theorem Environment.text?_eq_some_iff {environment : Environment} {name raw : String} :
    environment.text? name = some raw ↔ environment name = some raw.toUTF8 := by
  rw [text?, Option.bind_eq_some_iff]
  constructor
  · rintro ⟨bytes, set, decoded⟩
    rw [String.fromUTF8?] at decoded
    split at decoded
    · cases decoded
      exact set
    · cases decoded
  · intro set
    refine ⟨raw.toUTF8, set, ?_⟩
    rw [String.fromUTF8?, String.toUTF8_eq_toByteArray, dif_pos raw.isValidUTF8]
    rfl

theorem Environment.text?_eq_none_iff {environment : Environment} {name : String} :
    environment.text? name = none ↔ ∀ raw : String, environment name ≠ some raw.toUTF8 := by
  simp only [Option.eq_none_iff_forall_ne_some, ne_eq, text?_eq_some_iff]

namespace Settings

open Text (Trims)
open Text.Numeral (Denotes Overflows)
open Text.Quoted (Quotes)

variable {environment : Environment} {field : Field} {raw : String} {number : Nat} {size : UInt64}
  {settings : Settings} {error : BufferError} {result : Except BufferError Settings}

/-- Between the white space at its ends the text is a numeral, of a number that fits a word. -/
def Accepts (raw : String) (number : Nat) : Prop :=
  ∃ body, Trims raw.toList body ∧ Denotes body number ∧ number < UInt64.size

/-- What is wrong with a text that is not accepted.  There may be nothing between the white space,
or too large a number to begin with; in any other case it is a character. -/
inductive Refuses (raw : String) : String → Prop where
  | empty : Trims raw.toList [] → Refuses raw "cannot parse integer from empty string"
  | tooLarge {body : List Char} : Trims raw.toList body → Overflows body →
      Refuses raw "number too large to fit in target type"
  | invalidDigit {body : List Char} : Trims raw.toList body → body ≠ [] → ¬Overflows body →
      (∀ number, ¬Accepts raw number) → Refuses raw "invalid digit found in string"

/-- The size that a variable gives.  A variable that is unset, or whose bytes are no text, leaves
the size as it is. -/
inductive Gives (environment : Environment) (name : String) (size : UInt64) : UInt64 → Prop where
  | untouched : (∀ raw : String, environment name ≠ some raw.toUTF8) →
      Gives environment name size size
  | written {raw : String} {given : UInt64} : environment name = some raw.toUTF8 →
      Accepts raw given.toNat → Gives environment name size given

/-- The report on a variable that gives no size. -/
inductive Spoils (environment : Environment) (name : String) : String → Prop where
  | refused {raw quoted why : String} : environment name = some raw.toUTF8 → Quotes raw quoted →
      Refuses raw why → Spoils environment name (name ++ "=" ++ quoted ++ ": " ++ why)

/-- Every variable gives a size, and these are the sizes. -/
structure HasSizes (environment : Environment) (settings : Settings) : Prop where
  bucketSize : Gives environment "BUFCORE_BUCKET_SIZE" 4 settings.bucketSize
  poolSize : Gives environment "BUFCORE_POOL_SIZE" 50 settings.poolSize
  replacerK : Gives environment "BUFCORE_REPLACER_K" 2 settings.replacerK

/-- The settings that an environment stands for, or what is reported instead: the first variable
that spoils them, or else the first check that they do not pass. -/
inductive Configures (environment : Environment) : Except BufferError Settings → Prop where
  | badBucketSize {reason : String} :
      Spoils environment "BUFCORE_BUCKET_SIZE" reason →
      Configures environment (.error (.invalidConfig reason))
  | badPoolSize {bucketSize : UInt64} {reason : String} :
      Gives environment "BUFCORE_BUCKET_SIZE" 4 bucketSize →
      Spoils environment "BUFCORE_POOL_SIZE" reason →
      Configures environment (.error (.invalidConfig reason))
  | badReplacerK {bucketSize poolSize : UInt64} {reason : String} :
      Gives environment "BUFCORE_BUCKET_SIZE" 4 bucketSize →
      Gives environment "BUFCORE_POOL_SIZE" 50 poolSize →
      Spoils environment "BUFCORE_REPLACER_K" reason →
      Configures environment (.error (.invalidConfig reason))
  | noBucketSize {settings : Settings} : HasSizes environment settings → settings.bucketSize = 0 →
      Configures environment (.error (.invalidConfig "bucket_size must be positive"))
  | noReplacerK {settings : Settings} : HasSizes environment settings → settings.bucketSize ≠ 0 →
      settings.replacerK = 0 →
      Configures environment (.error (.invalidConfig "replacer_k must be positive"))
  | usable {settings : Settings} : HasSizes environment settings → settings.bucketSize ≠ 0 →
      settings.replacerK ≠ 0 → Configures environment (.ok settings)

/-- The settings of a whole process, and what their first use logs. -/
inductive Yields (environment : Environment) : Settings × List Record → Prop where
  | configured {settings : Settings} : Configures environment (.ok settings) →
      Yields environment (settings, [])
  | ignored {reason : String} : Configures environment (.error (.invalidConfig reason)) →
      Yields environment ({ bucketSize := 4, poolSize := 50, replacerK := 2 },
        [⟨.warn, "ignoring environment configuration: Invalid configuration: " ++ reason⟩])

/-- The fresh value is built if its storage can be addressed.  Nothing but that may fail. -/
inductive BuiltOf {α : Type} (fresh : α) (bytes : Nat) : Except BuildFault α → Prop where
  | built : bytes < UInt64.size / 2 → BuiltOf fresh bytes (.ok fresh)
  | overflow : UInt64.size / 2 ≤ bytes → BuiltOf fresh bytes (.error .capacityOverflow)

/-- No table and no replacer of these sizes is refused.  One bucket of the table, and the map of the
replacer's frames, are what storage is reserved for. -/
structure Buildable (settings : Settings) : Prop where
  bucketSize_pos : 0 < settings.bucketSize.toNat
  replacerK_pos : 0 < settings.replacerK.toNat
  table : ∀ (layout : Layout) (κ ν : Type),
    BuiltOf { bucketSize := settings.bucketSize.toNat, bucketSize_pos : Table κ ν }
      (settings.bucketSize.toNat * layout.entryBytes) (Table.ofSettings layout settings)
  replacer : ∀ layout : Layout,
    BuiltOf { capacity := settings.poolSize.toNat, k := settings.replacerK.toNat,
              k_pos := replacerK_pos }
      (layout.mapBytes settings.poolSize.toNat) (Replacer.ofSettings layout settings)

theorem accepts_iff : Accepts raw number ↔
    Denotes (Text.trim raw.toList) number ∧ number < UInt64.size := by
  simp only [Accepts, Text.trims_iff, exists_eq_left']

theorem readVariable_eq_ok_iff : readVariable raw = .ok number ↔ Accepts raw number := by
  rw [readVariable, Text.Numeral.read_eq_ok_iff, accepts_iff]

theorem refuses_of_readVariable {fault : Text.Numeral.Fault}
    (read : readVariable raw = .error fault) : Refuses raw fault.message := by
  have trims := Text.trims_trim raw.toList
  cases fault with
  | empty =>
      rw [readVariable, Text.Numeral.read_eq_empty_iff] at read
      rw [read] at trims
      exact .empty trims
  | tooLarge =>
      rw [readVariable, Text.Numeral.read_eq_tooLarge_iff] at read
      exact .tooLarge trims read
  | invalidDigit =>
      rw [readVariable, Text.Numeral.read_eq_invalidDigit_iff] at read
      obtain ⟨noNumeral, nonempty, fits⟩ := read
      exact .invalidDigit trims nonempty fits fun number accepts =>
        noNumeral number (accepts_iff.mp accepts)

theorem exists_of_refuses {why : String} (refuses : Refuses raw why) :
    ∃ fault : Text.Numeral.Fault, readVariable raw = .error fault ∧ fault.message = why := by
  cases refuses with
  | empty trims =>
      exact ⟨.empty, Text.Numeral.read_eq_empty_iff.mpr trims.eq_trim, rfl⟩
  | tooLarge trims overflows =>
      obtain rfl := trims.eq_trim
      exact ⟨.tooLarge, Text.Numeral.read_eq_tooLarge_iff.mpr overflows, rfl⟩
  | invalidDigit trims nonempty fits notAccepted =>
      obtain rfl := trims.eq_trim
      refine ⟨.invalidDigit, Text.Numeral.read_eq_invalidDigit_iff.mpr ?_, rfl⟩
      exact ⟨fun number denotes => notAccepted number (accepts_iff.mpr denotes), nonempty, fits⟩

theorem readVariable_eq_error_iff {fault : Text.Numeral.Fault} :
    readVariable raw = .error fault ↔ Refuses raw fault.message := by
  constructor
  · exact refuses_of_readVariable
  · intro refuses
    obtain ⟨other, read, sameMessage⟩ := exists_of_refuses refuses
    rwa [Text.Numeral.Fault.message_injective sameMessage] at read

theorem sizeIn_eq_ok_iff : sizeIn environment field = .ok size ↔
    Gives environment field.variableName (({} : Settings).get field) size := by
  unfold sizeIn
  constructor
  · intro read
    split at read
    · rename_i noText
      cases read
      exact .untouched (Environment.text?_eq_none_iff.mp noText)
    · rename_i raw text
      split at read
      · rename_i number found
        cases read
        have accepted := readVariable_eq_ok_iff.mp found
        refine .written (Environment.text?_eq_some_iff.mp text) ?_
        rwa [UInt64.toNat_ofNat_of_lt' (accepts_iff.mp accepted).2]
      · cases read
  · intro gives
    cases gives with
    | untouched noText => rw [Environment.text?_eq_none_iff.mpr noText]
    | written text accepts =>
        rw [Environment.text?_eq_some_iff.mpr text]
        simp only [readVariable_eq_ok_iff.mpr accepts, UInt64.ofNat_toNat]

theorem sizeIn_eq_error_iff : sizeIn environment field = .error error ↔
    ∃ reason, error = .invalidConfig reason ∧ Spoils environment field.variableName reason := by
  unfold sizeIn
  constructor
  · intro read
    split at read
    · cases read
    · rename_i raw text
      split at read
      · cases read
      · rename_i fault found
        cases read
        exact ⟨_, rfl, .refused (Environment.text?_eq_some_iff.mp text)
          (Text.Quoted.quote_eq_iff.mp rfl) (readVariable_eq_error_iff.mp found)⟩
  · rintro ⟨_, rfl, text, quotes, refuses⟩
    obtain ⟨fault, read, rfl⟩ := exists_of_refuses refuses
    obtain rfl := Text.Quoted.quote_eq_iff.mpr quotes
    rw [Environment.text?_eq_some_iff.mpr text]
    simp only [read]
    rfl

theorem HasSizes.ofEnvironment_eq (sizes : HasSizes environment settings) :
    ofEnvironment environment = settings.validate.map fun _ => settings := by
  have bucketSize : sizeIn environment .bucketSize = _ := sizeIn_eq_ok_iff.mpr sizes.bucketSize
  have poolSize : sizeIn environment .poolSize = _ := sizeIn_eq_ok_iff.mpr sizes.poolSize
  have replacerK : sizeIn environment .replacerK = _ := sizeIn_eq_ok_iff.mpr sizes.replacerK
  simp only [ofEnvironment, bucketSize, poolSize, replacerK]
  rfl

theorem Configures.ofEnvironment_eq (configures : Configures environment result) :
    ofEnvironment environment = result := by
  cases configures with
  | badBucketSize spoils =>
      have bucketSize : sizeIn environment .bucketSize = _ :=
        sizeIn_eq_error_iff.mpr ⟨_, rfl, spoils⟩
      simp only [ofEnvironment, bucketSize]
      rfl
  | badPoolSize first spoils =>
      have bucketSize : sizeIn environment .bucketSize = _ := sizeIn_eq_ok_iff.mpr first
      have poolSize : sizeIn environment .poolSize = _ := sizeIn_eq_error_iff.mpr ⟨_, rfl, spoils⟩
      simp only [ofEnvironment, bucketSize, poolSize]
      rfl
  | badReplacerK first second spoils =>
      have bucketSize : sizeIn environment .bucketSize = _ := sizeIn_eq_ok_iff.mpr first
      have poolSize : sizeIn environment .poolSize = _ := sizeIn_eq_ok_iff.mpr second
      have replacerK : sizeIn environment .replacerK = _ :=
        sizeIn_eq_error_iff.mpr ⟨_, rfl, spoils⟩
      simp only [ofEnvironment, bucketSize, poolSize, replacerK]
      rfl
  | noBucketSize sizes zero =>
      rw [sizes.ofEnvironment_eq, validate, if_pos zero]
      rfl
  | noReplacerK sizes positive zero =>
      rw [sizes.ofEnvironment_eq, validate, if_neg positive, if_pos zero]
      rfl
  | usable sizes positive window =>
      rw [sizes.ofEnvironment_eq, (validate_eq_ok_iff _).mpr ⟨positive, window⟩]
      rfl

theorem gives_or_spoils (environment : Environment) (field : Field) :
    (∃ size, Gives environment field.variableName (({} : Settings).get field) size) ∨
      ∃ reason, Spoils environment field.variableName reason := by
  cases read : sizeIn environment field with
  | ok size => exact .inl ⟨size, sizeIn_eq_ok_iff.mp read⟩
  | error error =>
      obtain ⟨reason, _, spoils⟩ := sizeIn_eq_error_iff.mp read
      exact .inr ⟨reason, spoils⟩

/-- Every environment stands for something. -/
theorem exists_configures (environment : Environment) :
    ∃ result, Configures environment result := by
  rcases gives_or_spoils environment .bucketSize with ⟨bucketSize, first⟩ | ⟨_, spoils⟩
  case inr => exact ⟨_, .badBucketSize spoils⟩
  rcases gives_or_spoils environment .poolSize with ⟨poolSize, second⟩ | ⟨_, spoils⟩
  case inr => exact ⟨_, .badPoolSize first spoils⟩
  rcases gives_or_spoils environment .replacerK with ⟨replacerK, third⟩ | ⟨_, spoils⟩
  case inr => exact ⟨_, .badReplacerK first second spoils⟩
  have sizes : HasSizes environment { bucketSize, poolSize, replacerK } := ⟨first, second, third⟩
  by_cases noBucketSize : bucketSize = 0
  · exact ⟨_, .noBucketSize sizes noBucketSize⟩
  · by_cases noReplacerK : replacerK = 0
    · exact ⟨_, .noReplacerK sizes noBucketSize noReplacerK⟩
    · exact ⟨_, .usable sizes noBucketSize noReplacerK⟩

theorem ofEnvironment_eq_iff :
    ofEnvironment environment = result ↔ Configures environment result := by
  constructor
  · rintro rfl
    obtain ⟨result, configures⟩ := exists_configures environment
    rwa [configures.ofEnvironment_eq]
  · exact Configures.ofEnvironment_eq

theorem Configures.exists_reason (configures : Configures environment (.error error)) :
    ∃ reason, error = .invalidConfig reason := by
  cases configures <;> exact ⟨_, rfl⟩

theorem yields_processWide (environment : Environment) :
    Yields environment (processWide environment) := by
  unfold processWide
  split
  · rename_i settings read
    exact .configured (ofEnvironment_eq_iff.mp read)
  · rename_i error read
    have configures := ofEnvironment_eq_iff.mp read
    obtain ⟨reason, rfl⟩ := configures.exists_reason
    exact .ignored configures

theorem processWide_eq_iff {served : Settings × List Record} :
    processWide environment = served ↔ Yields environment served := by
  constructor
  · rintro rfl
    exact yields_processWide environment
  · intro yields
    cases yields with
    | configured configures =>
        rw [processWide, configures.ofEnvironment_eq]
    | ignored configures =>
        rw [processWide, configures.ofEnvironment_eq]
        rfl

theorem builtOf_withStorage {α : Type} (fresh : α) (bytes : Nat) :
    BuiltOf fresh bytes (withStorage bytes (.ok fresh)) := by
  by_cases fits : bytes < UInt64.size / 2
  · have reserved : reserve bytes = .ok () := if_pos fits
    simp only [withStorage, Except.mapError, Fallible.ok_bind, reserved]
    exact .built fits
  · have failed : reserve bytes = .error .capacityOverflow := if_neg fits
    simp only [withStorage, Except.mapError, Fallible.ok_bind, failed]
    exact .overflow (Nat.le_of_not_lt fits)

theorem Usable.buildable (usable : settings.Usable) : settings.Buildable := by
  have positive : ∀ {word : UInt64}, word ≠ 0 → 0 < word.toNat := by
    intro word nonzero
    exact Nat.pos_of_ne_zero fun zero => nonzero (UInt64.toNat_inj.mp zero)
  refine ⟨positive usable.1, positive usable.2, ?table, ?replacer⟩
  case table =>
    intro layout κ ν
    rw [Table.ofSettings, Table.build, Table.create, dif_pos (positive usable.1)]
    exact builtOf_withStorage _ _
  case replacer =>
    intro layout
    rw [Replacer.ofSettings, Replacer.build, Replacer.create, dif_pos (positive usable.2)]
    exact builtOf_withStorage _ _

/-- A text is accepted if between white space it is a numeral of a number that fits a word, which is
then its value; of any other text it is reported what is wrong.  What an environment stands for is
said in `Configures`, and what a process makes of it in `Yields`.  In every environment the settings
of a process pass the check, and tables and replacers of these sizes are built unless their storage
cannot be addressed. -/
theorem environment_read_exactly (environment : Environment) :
    (∀ raw number, readVariable raw = .ok number ↔ Accepts raw number) ∧
      (∀ raw fault, readVariable raw = .error fault ↔ Refuses raw fault.message) ∧
      (∀ result, ofEnvironment environment = result ↔ Configures environment result) ∧
      (∀ served, processWide environment = served ↔ Yields environment served) ∧
      (processWide environment).1.validate = .ok () ∧
      (processWide environment).1.Buildable := by
  have usable := usable_processWide environment
  refine ⟨?_, ?_, ?_, ?_, ?_, ?_⟩
  · exact fun raw number => readVariable_eq_ok_iff
  · exact fun raw fault => readVariable_eq_error_iff
  · exact fun result => ofEnvironment_eq_iff
  · exact fun served => processWide_eq_iff
  · exact (validate_eq_ok_iff _).mpr usable
  · exact usable.buildable

theorem environments_read_as_written :
    Accepts " 3 " 3 ∧
      Refuses "18446744073709551616" "number too large to fit in target type" ∧
      Configures
        (.ofList [("BUFCORE_BUCKET_SIZE", ⟨#[0xff]⟩), ("BUFCORE_REPLACER_K", " 3 ".toUTF8)])
        (.ok { bucketSize := 4, poolSize := 50, replacerK := 3 }) ∧
      ofEnvironment (.ofList [("BUFCORE_POOL_SIZE", "lots".toUTF8)]) =
        .error (.invalidConfig "BUFCORE_POOL_SIZE=\"lots\": invalid digit found in string") ∧
      Yields (.ofList [("BUFCORE_BUCKET_SIZE", "0".toUTF8)])
        ({ bucketSize := 4, poolSize := 50, replacerK := 2 },
          [⟨.warn, "ignoring environment configuration: Invalid configuration: " ++
            "bucket_size must be positive"⟩]) ∧
      ∃ replacer,
        Replacer.ofSettings .ofPool (processWide (.ofList [("BUFCORE_POOL_SIZE", "7".toUTF8)])).1 =
          .ok replacer := by
  let lots : Environment := .ofList [("BUFCORE_POOL_SIZE", "lots".toUTF8)]
  let seven : Environment := .ofList [("BUFCORE_POOL_SIZE", "7".toUTF8)]
  obtain ⟨accepts, refuses, configures, -⟩ := environment_read_exactly lots
  refine ⟨(accepts _ _).mp rfl, (refuses _ .tooLarge).mp rfl, ?bytes, ?lots, ?zero, ?seven⟩
  case bytes => exact ((environment_read_exactly _).2.2.1 _).mp rfl
  case lots =>
    have quotes : Quotes "lots" "\"lots\"" := Text.Quoted.quote_eq_iff.mp (by decide +kernel)
    have spoils : Spoils lots "BUFCORE_POOL_SIZE" _ :=
      .refused rfl quotes ((refuses _ .invalidDigit).mp rfl)
    exact (configures _).mpr (.badPoolSize (.untouched nofun) spoils)
  case zero => exact ((environment_read_exactly _).2.2.2.1 _).mp rfl
  case seven =>
    obtain ⟨-, -, -, -, -, buildable⟩ := environment_read_exactly seven
    have built := buildable.replacer .ofPool
    generalize Replacer.ofSettings .ofPool (processWide seven).1 = result at built ⊢
    cases built with
    | built => exact ⟨_, rfl⟩
    | overflow large => exact absurd large (by decide +kernel)

/-- A bucket size of `2 ^ 64 - 1` passes the check, but storage for such a bucket cannot be
addressed. -/
theorem default_table_overflows :
    let environment : Environment :=
      .ofList [("BUFCORE_BUCKET_SIZE", "18446744073709551615".toUTF8)]
    (processWide environment).1.validate = .ok () ∧
      (Table.ofSettings .ofPool (processWide environment).1 :
        Except BuildFault (Table PageId FrameId)) = .error .capacityOverflow :=
  ⟨rfl, rfl⟩

end Settings

end PageBuffer
