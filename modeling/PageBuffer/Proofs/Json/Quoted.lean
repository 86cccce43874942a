import PageBuffer.Json.Grammar

/-!
A string is read as the characters that it spells, and skipped whether it spells any or not.

Both end at the closing quote, because no quote that belongs to the string stands on its own.
-/

namespace PageBuffer.Json.Quoted

open Fallible (bind_eq_ok_iff map_eq_ok_iff)

variable {text digits rest characters : List Char} {unit : Nat} {letter character : Char}

theorem quad?_append (found : quad? digits = some (unit, [])) :
    quad? (digits ++ rest) = some (unit, rest) := by
  unfold quad? at found
  split at found
  · simp only [Option.bind_eq_bind, Option.bind_eq_some_iff, Option.pure_def, Option.some.injEq,
      Prod.mk.injEq] at found
    obtain ⟨first, isFirst, second, isSecond, third, isThird, fourth, isFourth, rfl, rfl⟩ := found
    simp [quad?, isFirst, isSecond, isThird, isFourth]
  · cases found

theorem scanQuad_append (found : quad? digits = some (unit, [])) :
    scanQuad (digits ++ rest) = .ok (unit, rest) := by
  rw [scanQuad, quad?_append found]

theorem readEscape_letter (known : simpleEscape? letter = some character) :
    readEscape (letter :: rest) = .ok (character, rest) := by
  unfold readEscape
  split
  · contradiction
  · rename_i start
    cases start
    cases known
  · rename_i start
    cases start
    rw [known]

theorem readEscape_unit (found : quad? digits = some (unit, []))
    (notLeading : isLeading unit = false) (notTrailing : isTrailing unit = false) :
    readEscape ('u' :: digits ++ rest) = .ok (Char.ofNat unit, rest) := by
  apply bind_eq_ok_iff.mpr
  refine ⟨(unit, rest), scanQuad_append found, ?_⟩
  simp [notLeading, notTrailing]

theorem readTrailing_append {leading : Nat} (found : quad? digits = some (unit, []))
    (trails : isTrailing unit = true) :
    readTrailing leading ('\\' :: 'u' :: digits ++ rest) =
      .ok (ofSurrogates leading unit, rest) := by
  apply bind_eq_ok_iff.mpr
  refine ⟨(unit, rest), scanQuad_append found, ?_⟩
  simp [trails]

theorem isTrailing_of_isLeading (leads : isLeading unit = true) : isTrailing unit = false := by
  simp only [isLeading, isTrailing, Bool.and_eq_true, decide_eq_true_eq, Bool.and_eq_false_iff,
    decide_eq_false_iff_not] at leads ⊢
  omega

theorem readEscape_pair {first second : List Char} {leading trailing : Nat}
    (firstFound : quad? first = some (leading, [])) (leads : isLeading leading = true)
    (secondFound : quad? second = some (trailing, [])) (trails : isTrailing trailing = true) :
    readEscape ('u' :: first ++ ('\\' :: 'u' :: second ++ rest)) =
      .ok (ofSurrogates leading trailing, rest) := by
  apply bind_eq_ok_iff.mpr
  refine ⟨(leading, '\\' :: 'u' :: second ++ rest), scanQuad_append firstFound, ?_⟩
  simp only [isTrailing_of_isLeading leads, leads, if_true, Bool.false_eq_true, if_false]
  exact readTrailing_append secondFound trails

theorem read_bare (plain : Bare character) (remaining : read text = .ok (characters, rest)) :
    read (character :: text) = .ok (character :: characters, rest) := by
  obtain ⟨notQuote, notBackslash, notControl⟩ := plain
  simp [read, notControl, remaining]

theorem read_escape {after : List Char} (escaped : readEscape text = .ok (character, after))
    (remaining : read after = .ok (characters, rest)) :
    read ('\\' :: text) = .ok (character :: characters, rest) := by
  rw [read]
  split
  · simp_all
  · simp_all

theorem read_spelled (spells : Spells text characters) (rest : List Char) :
    read (text ++ '"' :: rest) = .ok (characters, rest) := by
  induction spells with
  | empty => simp [read]
  | bare plain _ inductionHypothesis => exact read_bare plain inductionHypothesis
  | escape known _ inductionHypothesis =>
      exact read_escape (readEscape_letter known) inductionHypothesis
  | unit found notLeading notTrailing _ inductionHypothesis =>
      simp only [List.cons_append, List.append_assoc]
      exact read_escape (readEscape_unit found notLeading notTrailing) inductionHypothesis
  | pair firstFound leads secondFound trails _ inductionHypothesis =>
      simp only [List.cons_append, List.append_assoc]
      exact read_escape (readEscape_pair firstFound leads secondFound trails) inductionHypothesis

theorem skipEscape_letter (known : letter ∈ ['"', '\\', '/', 'b', 'f', 'n', 'r', 't']) :
    skipEscape (letter :: rest) = .ok rest := by
  simp only [List.mem_cons, List.not_mem_nil, or_false] at known
  obtain rfl | rfl | rfl | rfl | rfl | rfl | rfl | rfl := known <;> rfl

theorem skipEscape_unit (found : quad? digits = some (unit, [])) :
    skipEscape ('u' :: digits ++ rest) = .ok rest :=
  map_eq_ok_iff.mpr ⟨(unit, rest), scanQuad_append found, rfl⟩

theorem skip_bare (plain : Bare character) : skip (character :: text) = skip text := by
  obtain ⟨notQuote, notBackslash, notControl⟩ := plain
  simp [skip, notControl]

theorem skip_escape {after : List Char} (escaped : skipEscape text = .ok after) :
    skip ('\\' :: text) = skip after := by
  rw [skip]
  split
  · simp_all
  · simp_all

theorem skip_stringText (written : StringText text) (rest : List Char) :
    skip (text ++ '"' :: rest) = .ok rest := by
  induction written with
  | empty => simp [skip]
  | bare plain _ inductionHypothesis => exact (skip_bare plain).trans inductionHypothesis
  | escape known _ inductionHypothesis =>
      exact (skip_escape (skipEscape_letter known)).trans inductionHypothesis
  | unit found _ inductionHypothesis =>
      simp only [List.cons_append, List.append_assoc]
      exact (skip_escape (skipEscape_unit found)).trans inductionHypothesis

end PageBuffer.Json.Quoted
