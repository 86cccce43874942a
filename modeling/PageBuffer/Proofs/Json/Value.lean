import PageBuffer.Proofs.Json.Scalar

/-!
Skipping takes all of a well-formed value, however deeply nested, and no more.

What is skipped are parts: a value, after which the innermost open container goes on, and the items
of a container, after which the container around it goes on.  The induction is over the grammar.
-/

namespace PageBuffer.Json

open Number (Stops stops_cons stops_blanks_append)

variable {enclosing : List Container} {container : Container} {text other blanks rest : List Char}

theorem skipColon_append {between : List Char} (blank : Blanks between) :
    skipColon (between ++ ':' :: rest) = .ok rest := by
  simp only [skipColon, skipBlanks_append_cons blank (show isBlank ':' = false from rfl)]

theorem skipKey_append {before key between : List Char} (blankBefore : Blanks before)
    (written : StringText key) (blankBetween : Blanks between) :
    skipKey (before ++ '"' :: key ++ '"' :: between ++ ':' :: rest) = .ok rest := by
  simp only [List.append_assoc, List.cons_append]
  simp only [skipKey, skipBlanks_append_cons blankBefore (show isBlank '"' = false from rfl),
    Quoted.skip_stringText written, skipColon_append blankBetween]

/-- What is skipped before a value is its label, up to the blanks before the value. -/
theorem exists_skipLabel {label : List Char} (written : Label container label)
    (same : skipBlanks other = skipBlanks (label ++ rest)) :
    ∃ after, container.skipLabel other = .ok after ∧ skipBlanks after = skipBlanks rest := by
  cases written with
  | element blank => exact ⟨other, rfl, same.trans (skipBlanks_blank_append blank)⟩
  | @member before key between after blankBefore written blankBetween blankAfter =>
      refine ⟨after ++ rest, ?_, skipBlanks_blank_append blankAfter⟩
      have skipped : skipKey (before ++ '"' :: key ++ '"' :: between ++ ':' :: after ++ rest) =
          .ok (after ++ rest) := by
        rw [List.append_assoc, List.cons_append]
        exact skipKey_append blankBefore written blankBetween
      rw [Container.skipLabel, ← skipped, skipKey, same, skipKey]

theorem skipFrom_value_of_opener (opened : skipBlanks text = container.opener :: rest) :
    skipFrom .value enclosing text = skipFrom (.first container) enclosing rest := by
  rw [skipFrom]
  cases container with
  | list => split <;> simp_all [Container.opener]
  | object => split <;> simp_all [Container.opener]

theorem skipFrom_value_of_bracketed {inside : List Char}
    (same : skipBlanks other =
      skipBlanks (container.opener :: inside ++ [container.closer] ++ rest)) :
    skipFrom .value enclosing other =
      skipFrom (.first container) enclosing (inside ++ container.closer :: rest) := by
  apply skipFrom_value_of_opener
  rw [same]
  simp only [List.append_assoc, List.cons_append, List.nil_append]
  exact skipBlanks_cons_of_not_blank (by cases container <;> rfl)

theorem skipFrom_value_of_scalar (skipped : Scalar.skip (skipBlanks text) = .ok rest) :
    skipFrom .value enclosing text = skipFrom .next enclosing rest := by
  rw [skipFrom]
  split
  · simp_all [Scalar.skip]
  · simp_all [Scalar.skip, Scalar.startsNumber]
  · simp_all [Scalar.skip, Scalar.startsNumber]
  · split <;> simp_all

theorem skipFrom_first_of_closer (closed : skipBlanks text = container.closer :: rest) :
    skipFrom (.first container) enclosing text = skipFrom .next enclosing rest := by
  rw [skipFrom]
  split <;> simp_all

theorem skipFrom_first_of_label {first : Char} {remaining : List Char}
    (start : skipBlanks text = first :: remaining) (notClosed : first ≠ container.closer)
    (skipped : container.skipLabel (first :: remaining) = .ok rest) :
    skipFrom (.first container) enclosing text = skipFrom .value (container :: enclosing) rest := by
  conv => lhs; rw [skipFrom]
  split
  · simp_all
  · rename_i same
    cases start.symm.trans same
    rw [if_neg notClosed]
    split <;> simp_all

theorem skipFrom_next_of_comma {after : List Char} (comma : skipBlanks text = ',' :: rest)
    (skipped : container.skipLabel rest = .ok after) :
    skipFrom .next (container :: enclosing) text =
      skipFrom .value (container :: enclosing) after := by
  conv => lhs; rw [skipFrom]
  split
  · simp_all
  · rename_i same
    cases comma.symm.trans same
    split <;> simp_all
  · simp_all

theorem skipFrom_next_of_closer (closed : skipBlanks text = container.closer :: rest) :
    skipFrom .next (container :: enclosing) text = skipFrom .next enclosing rest := by
  rw [skipFrom]
  cases container with
  | list => split <;> simp_all [Container.closer]
  | object => split <;> simp_all [Container.closer]

/-- The text starts with something other than the end of a container. -/
def Starts (text : List Char) : Prop :=
  ∃ first remaining, skipBlanks text = first :: remaining ∧
    ∀ container : Container, first ≠ container.closer

theorem starts_of_cons {first : Char} (solid : isBlank first = false)
    (notClosed : ∀ container : Container, first ≠ container.closer) : Starts (first :: rest) :=
  ⟨first, rest, skipBlanks_cons_of_not_blank solid, notClosed⟩

theorem starts_of_label {label : List Char} (written : Label container label)
    (starts : Starts rest) : Starts (label ++ rest) := by
  cases written with
  | element blank =>
      obtain ⟨first, remaining, start, notClosed⟩ := starts
      exact ⟨first, remaining, (skipBlanks_blank_append blank).trans start, notClosed⟩
  | member blankBefore _ _ _ =>
      simp only [List.append_assoc, List.cons_append]
      refine ⟨_, _, skipBlanks_append_cons blankBefore rfl, ?_⟩
      intro container
      cases container <;> decide

theorem starts_of_wellFormed {part : Part} (written : WellFormed part text) (rest : List Char) :
    Starts (text ++ rest) := by
  induction written generalizing rest with
  | null | true | false | string =>
      refine starts_of_cons rfl ?_
      intro container
      cases container <;> decide
  | number written =>
      obtain ⟨first, remaining, rfl, starts⟩ := Scalar.exists_cons_of_numberText written
      refine starts_of_cons (Scalar.isBlank_of_startsNumber starts) ?_
      rintro container rfl
      cases container <;> cases starts
  | @hollow opened _ _ | @filled opened _ _ _ =>
      refine starts_of_cons (by cases opened <;> rfl) ?_
      intro container
      cases opened <;> cases container <;> decide
  | last written _ _ inductionHypothesis | more written _ _ _ inductionHypothesis _ =>
      simp only [List.append_assoc]
      exact starts_of_label written (inductionHypothesis _)

/-- What skipping comes to in a well-formed text.  Blanks in front do not matter. -/
def Skips : Part → List Char → Prop
  | .value, text => ∀ enclosing other rest, skipBlanks other = skipBlanks (text ++ rest) →
      Stops rest → skipFrom .value enclosing other = skipFrom .next enclosing rest
  | .items container, text => ∀ enclosing other rest,
      skipBlanks other = skipBlanks (text ++ container.closer :: rest) →
      ∃ after, container.skipLabel other = .ok after ∧
        skipFrom .value (container :: enclosing) after = skipFrom .next enclosing rest

theorem skips_of_scalar (skipped : ∀ rest, Stops rest → Scalar.skip (text ++ rest) = .ok rest) :
    Skips .value text := by
  intro enclosing other rest same stops
  apply skipFrom_value_of_scalar
  rw [same, Scalar.skipBlanks_of_skip (skipped rest stops)]
  exact skipped rest stops

theorem stops_closer : Stops (container.closer :: rest) := by
  apply stops_cons.mpr
  cases container <;> rfl

theorem isBlank_closer : isBlank container.closer = false := by
  cases container <;> rfl

theorem skips_of_wellFormed {part : Part} (written : WellFormed part text) : Skips part text := by
  induction written with
  | null | true | false => exact skips_of_scalar fun rest _ => Scalar.expect_append _ rest
  | number written => exact skips_of_scalar fun rest stops => Scalar.skip_numberText written stops
  | string written =>
      apply skips_of_scalar
      intro rest _
      simp only [List.append_assoc, List.cons_append]
      exact Quoted.skip_stringText written rest
  | hollow blank =>
      intro enclosing other rest same stops
      rw [skipFrom_value_of_bracketed same]
      exact skipFrom_first_of_closer (skipBlanks_append_cons blank isBlank_closer)
  | @filled container items written inductionHypothesis =>
      intro enclosing other rest same stops
      -- That the container is not empty is seen behind its blanks, and skipping goes on from there.
      obtain ⟨first, remaining, start, notClosed⟩ :=
        starts_of_wellFormed written (container.closer :: rest)
      have again : skipBlanks (first :: remaining) =
          skipBlanks (items ++ container.closer :: rest) := by
        rw [← start, skipBlanks_skipBlanks]
      obtain ⟨after, labelled, skipped⟩ := inductionHypothesis enclosing _ rest again
      rw [skipFrom_value_of_bracketed same,
        skipFrom_first_of_label start (notClosed container) labelled, skipped]
  | last labelWritten _ blank inductionHypothesis =>
      intro enclosing other rest same
      simp only [List.append_assoc] at same
      obtain ⟨after, labelled, next⟩ := exists_skipLabel labelWritten same
      refine ⟨after, labelled, ?_⟩
      rw [inductionHypothesis _ after _ next (stops_blanks_append blank stops_closer)]
      exact skipFrom_next_of_closer (skipBlanks_append_cons blank isBlank_closer)
  | @more container _ _ _ items labelWritten _ blank _ valueHypothesis itemsHypothesis =>
      intro enclosing other rest same
      simp only [List.append_assoc, List.cons_append] at same
      obtain ⟨after, labelled, next⟩ := exists_skipLabel labelWritten same
      refine ⟨after, labelled, ?_⟩
      have comma : Stops (',' :: (items ++ container.closer :: rest)) := stops_cons.mpr rfl
      rw [valueHypothesis _ after _ next (stops_blanks_append blank comma)]
      obtain ⟨final, relabelled, skipped⟩ := itemsHypothesis enclosing _ rest rfl
      rw [skipFrom_next_of_comma (skipBlanks_append_cons blank rfl) relabelled, skipped]

theorem skipValue_append (written : WellFormed .value text) (blank : Blanks blanks)
    (stops : Stops rest) : skipValue (blanks ++ text ++ rest) = .ok rest := by
  have same : skipBlanks (blanks ++ text ++ rest) = skipBlanks (text ++ rest) := by
    rw [List.append_assoc, skipBlanks_blank_append blank]
  rw [skipValue, skips_of_wellFormed written [] _ rest same stops, skipFrom]

end PageBuffer.Json
