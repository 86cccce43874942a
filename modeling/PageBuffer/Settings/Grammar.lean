import PageBuffer.Json.Grammar
import PageBuffer.Settings.Field
import PageBuffer.Text.Numeral

/-!
The JSON texts that stand for settings, said without a reader, and what each of them gives.

An object gives sizes to fields by name, in any order, and may have members of other names; a list
gives sizes to the first fields.  Blanks and escapes give nothing.
-/

namespace PageBuffer.Settings

open Json (Blanks WholeDigits Spells WellFormed)

/-- A field and the size that a text gives it. -/
abbrev Gift := Field × UInt64

/-- The decimal digits of a word. -/
def SizeText (digits : List Char) (size : UInt64) : Prop :=
  WholeDigits digits ∧ Text.Numeral.value digits = size.toNat

instance (digits : List Char) (size : UInt64) : Decidable (SizeText digits size) :=
  inferInstanceAs (Decidable (_ ∧ _))

/-- What stands before a member's value, and the name that it spells. -/
inductive NameText : List Char → List Char → Prop where
  | parts {before key between after name : List Char} :
      Blanks before → Spells key name → Blanks between → Blanks after →
      NameText (before ++ '"' :: key ++ '"' :: between ++ ':' :: after) name

/-- A member, with the blanks around it.  Its value may be anything if its name is no field's. -/
inductive MemberText : List Char → List Gift → Prop where
  | known {label digits blanks : List Char} {field : Field} {size : UInt64} :
      NameText label field.key.toList → SizeText digits size → Blanks blanks →
      MemberText (label ++ digits ++ blanks) [(field, size)]
  | other {label name value blanks : List Char} :
      NameText label name → (∀ field : Field, name ≠ field.key.toList) →
      WellFormed .value value → Blanks blanks → MemberText (label ++ value ++ blanks) []

/-- A member without blanks and escapes. -/
theorem MemberText.plain {digits : List Char} {size : UInt64} (field : Field)
    (sized : SizeText digits size) :
    MemberText ('"' :: field.key.toList ++ ['"', ':'] ++ digits) [(field, size)] := by
  have spells : Spells field.key.toList field.key.toList := by
    apply Spells.of_plain
    cases field <;> decide
  have named := @NameText.parts [] _ [] [] _ (by decide) spells (by decide) (by decide)
  have member := @MemberText.known _ _ [] _ _ named sized (by decide)
  simpa using member

inductive MembersText : List Char → List Gift → Prop where
  | last {text : List Char} {gifts : List Gift} : MemberText text gifts → MembersText text gifts
  | more {text rest : List Char} {gifts others : List Gift} :
      MemberText text gifts → MembersText rest others →
      MembersText (text ++ ',' :: rest) (gifts ++ others)

/-- An object, and the sizes that it gives, in the order in which they are written. -/
inductive ObjectText : List Char → List Gift → Prop where
  | empty {before inside after : List Char} :
      Blanks before → Blanks inside → Blanks after →
      ObjectText (before ++ '\x7b' :: inside ++ '\x7d' :: after) []
  | members {before members after : List Char} {given : List Gift} :
      Blanks before → MembersText members given → Blanks after →
      ObjectText (before ++ '\x7b' :: members ++ '\x7d' :: after) given

inductive SizesText : List Char → List UInt64 → Prop where
  | last {before digits after : List Char} {size : UInt64} :
      Blanks before → SizeText digits size → Blanks after →
      SizesText (before ++ digits ++ after) [size]
  | more {before digits after rest : List Char} {size : UInt64} {sizes : List UInt64} :
      Blanks before → SizeText digits size → Blanks after → SizesText rest sizes →
      SizesText (before ++ digits ++ after ++ ',' :: rest) (size :: sizes)

/-- A list of sizes. -/
inductive ListText : List Char → List UInt64 → Prop where
  | empty {before inside after : List Char} :
      Blanks before → Blanks inside → Blanks after →
      ListText (before ++ '[' :: inside ++ ']' :: after) []
  | sizes {before items after : List Char} {sizes : List UInt64} :
      Blanks before → SizesText items sizes → Blanks after →
      ListText (before ++ '[' :: items ++ ']' :: after) sizes

/-- The settings have what is given, and are as by default in every field that is given nothing. -/
structure Overlays (given : List Gift) (settings : Settings) : Prop where
  get_given : ∀ gift ∈ given, settings.get gift.1 = gift.2
  get_absent : ∀ field, field ∉ given.map Prod.fst → settings.get field = ({} : Settings).get field

end PageBuffer.Settings
