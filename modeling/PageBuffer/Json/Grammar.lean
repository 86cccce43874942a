import PageBuffer.Json.Blank
import PageBuffer.Json.Quoted
import PageBuffer.Json.Value

/-!
The grammar of JSON text, said without a reader: which texts are numbers, strings and values, and
which characters a string spells.
-/

namespace PageBuffer.Json

def Blanks (text : List Char) : Prop :=
  ∀ character ∈ text, isBlank character = true

instance (text : List Char) : Decidable (Blanks text) :=
  List.decidableBAll _ text

def Digits (text : List Char) : Prop :=
  text ≠ [] ∧ ∀ character ∈ text, character.isDigit = true

instance (text : List Char) : Decidable (Digits text) :=
  @instDecidableAnd _ _ _ (List.decidableBAll _ text)

/-- A zero, or digits that do not start with one. -/
def WholeDigits (text : List Char) : Prop :=
  Digits text ∧ (text = ['0'] ∨ text.head? ≠ some '0')

instance (text : List Char) : Decidable (WholeDigits text) :=
  inferInstanceAs (Decidable (_ ∧ _))

inductive FractionText : List Char → Prop where
  | absent : FractionText []
  | digits {text : List Char} : Digits text → FractionText ('.' :: text)

inductive ExponentText : List Char → Prop where
  | absent : ExponentText []
  | digits {mark : Char} {sign text : List Char} :
      mark ∈ ['e', 'E'] → sign ∈ [[], ['+'], ['-']] → Digits text →
      ExponentText (mark :: sign ++ text)

inductive NumberText : List Char → Prop where
  | parts {sign whole fraction exponent : List Char} :
      sign ∈ [[], ['-']] → WholeDigits whole → FractionText fraction → ExponentText exponent →
      NumberText (sign ++ whole ++ fraction ++ exponent)

/-- A character that a string may hold as it is. -/
def Bare (character : Char) : Prop :=
  character ≠ '"' ∧ character ≠ '\\' ∧ Quoted.isControl character = false

instance (character : Char) : Decidable (Bare character) :=
  inferInstanceAs (Decidable (_ ∧ _))

/-- Nothing but such characters. -/
def Plain (text : List Char) : Prop :=
  ∀ character ∈ text, Bare character

instance (text : List Char) : Decidable (Plain text) :=
  List.decidableBAll _ text

/-- The text between the quotes of a string. -/
inductive StringText : List Char → Prop where
  | empty : StringText []
  | bare {character : Char} {rest : List Char} :
      Bare character → StringText rest → StringText (character :: rest)
  | escape {letter : Char} {rest : List Char} :
      letter ∈ ['"', '\\', '/', 'b', 'f', 'n', 'r', 't'] → StringText rest →
      StringText ('\\' :: letter :: rest)
  | unit {digits rest : List Char} {unit : Nat} :
      Quoted.quad? digits = some (unit, []) → StringText rest →
      StringText ('\\' :: 'u' :: digits ++ rest)

/-- The text between the quotes of a string and the characters that it stands for.  A surrogate
stands for nothing unless the two halves of a pair follow each other. -/
inductive Spells : List Char → List Char → Prop where
  | empty : Spells [] []
  | bare {character : Char} {rest characters : List Char} :
      Bare character → Spells rest characters → Spells (character :: rest) (character :: characters)
  | escape {letter character : Char} {rest characters : List Char} :
      Quoted.simpleEscape? letter = some character → Spells rest characters →
      Spells ('\\' :: letter :: rest) (character :: characters)
  | unit {digits rest characters : List Char} {unit : Nat} :
      Quoted.quad? digits = some (unit, []) → Quoted.isLeading unit = false →
      Quoted.isTrailing unit = false → Spells rest characters →
      Spells ('\\' :: 'u' :: digits ++ rest) (Char.ofNat unit :: characters)
  | pair {first second rest characters : List Char} {leading trailing : Nat} :
      Quoted.quad? first = some (leading, []) → Quoted.isLeading leading = true →
      Quoted.quad? second = some (trailing, []) → Quoted.isTrailing trailing = true →
      Spells rest characters →
      Spells ('\\' :: 'u' :: first ++ '\\' :: 'u' :: second ++ rest)
        (Quoted.ofSurrogates leading trailing :: characters)

/-- Plain text spells itself. -/
theorem Spells.of_plain {text : List Char} (plain : Plain text) : Spells text text := by
  induction text with
  | nil => exact .empty
  | cons character rest inductionHypothesis =>
      obtain ⟨first, others⟩ := List.forall_mem_cons.mp plain
      exact .bare first (inductionHypothesis others)

def Container.opener : Container → Char
  | .list => '['
  | .object => '\x7b'

/-- What stands before the value of an element or of a member. -/
inductive Label : Container → List Char → Prop where
  | element {blanks : List Char} : Blanks blanks → Label .list blanks
  | member {before key between after : List Char} :
      Blanks before → StringText key → Blanks between → Blanks after →
      Label .object (before ++ '"' :: key ++ '"' :: between ++ ':' :: after)

/-- A value, or what stands between the brackets of a container that is not empty. -/
inductive Part where
  | value
  | items (container : Container)
  deriving DecidableEq, Repr

inductive WellFormed : Part → List Char → Prop where
  | null : WellFormed .value ['n', 'u', 'l', 'l']
  | true : WellFormed .value ['t', 'r', 'u', 'e']
  | false : WellFormed .value ['f', 'a', 'l', 's', 'e']
  | number {text : List Char} : NumberText text → WellFormed .value text
  | string {text : List Char} : StringText text → WellFormed .value ('"' :: text ++ ['"'])
  | hollow {container : Container} {blanks : List Char} :
      Blanks blanks → WellFormed .value (container.opener :: blanks ++ [container.closer])
  | filled {container : Container} {items : List Char} :
      WellFormed (.items container) items →
      WellFormed .value (container.opener :: items ++ [container.closer])
  | last {container : Container} {label value blanks : List Char} :
      Label container label → WellFormed .value value → Blanks blanks →
      WellFormed (.items container) (label ++ value ++ blanks)
  | more {container : Container} {label value blanks items : List Char} :
      Label container label → WellFormed .value value → Blanks blanks →
      WellFormed (.items container) items →
      WellFormed (.items container) (label ++ value ++ blanks ++ ',' :: items)

/-- Every text that spells something is the text of a string. -/
theorem Spells.stringText {text characters : List Char} (spells : Spells text characters) :
    StringText text := by
  induction spells with
  | empty => exact .empty
  | bare plain _ inductionHypothesis => exact .bare plain inductionHypothesis
  | @escape letter _ _ _ known _ inductionHypothesis =>
      refine .escape ?_ inductionHypothesis
      unfold Quoted.simpleEscape? at known
      split at known <;> simp_all
  | unit digits _ _ _ inductionHypothesis => exact .unit digits inductionHypothesis
  | pair first _ second _ _ inductionHypothesis =>
      rw [List.cons_append, List.cons_append, List.append_assoc]
      exact .unit first (.unit second inductionHypothesis)

end PageBuffer.Json
