import PageBuffer.Proofs.Json.Number
import PageBuffer.Proofs.Json.Quoted

/-!
Numbers among the values without parts.  A value's first character tells what it is, and is never
blank.
-/

namespace PageBuffer.Json.Scalar

open Number (Stops)

variable {first : Char} {number : Number} {text rest : List Char}

theorem isBlank_of_startsNumber (starts : startsNumber first = true) :
    isBlank first = false := by
  apply Bool.eq_false_iff.mpr
  intro blank
  rcases isBlank_iff.mp blank with rfl | rfl | rfl | rfl <;> cases starts

theorem read_of_scan (starts : startsNumber first = true)
    (scanned : Number.scan (first :: text) = .ok (number, rest))
    (inRange : number.isOutOfRange = false) :
    read (first :: text) = .ok (.number number, rest) := by
  unfold read
  split
  case h_6 start =>
    obtain ⟨rfl, rfl⟩ := List.cons.inj start
    simp [starts, scanned, inRange]
  all_goals simp_all [startsNumber]

theorem skip_of_scan (starts : startsNumber first = true)
    (scanned : Number.scan (first :: text) = .ok (number, rest)) :
    skip (first :: text) = .ok rest := by
  unfold skip
  split
  case h_6 start =>
    obtain ⟨rfl, rfl⟩ := List.cons.inj start
    simp [starts, scanned]
  all_goals simp_all [startsNumber]

theorem exists_cons_of_wholeDigits (written : WholeDigits text) :
    ∃ first remaining, text = first :: remaining ∧ startsNumber first = true := by
  obtain ⟨first, remaining, rfl⟩ := List.exists_cons_of_ne_nil written.1.1
  have digit := written.1.2 first List.mem_cons_self
  exact ⟨first, remaining, rfl, by simp [startsNumber, digit]⟩

theorem exists_cons_of_numberText (written : NumberText text) :
    ∃ first remaining, text = first :: remaining ∧ startsNumber first = true := by
  cases written with
  | @parts sign whole fraction exponent signed wholeWritten _ _ =>
      obtain rfl | rfl : sign = [] ∨ sign = ['-'] := by simpa using signed
      · obtain ⟨first, remaining, rfl, starts⟩ := exists_cons_of_wholeDigits wholeWritten
        exact ⟨first, remaining ++ fraction ++ exponent, by simp, starts⟩
      · exact ⟨'-', whole ++ fraction ++ exponent, by simp, rfl⟩

theorem skip_numberText (written : NumberText text) (stops : Stops rest) :
    skip (text ++ rest) = .ok rest := by
  obtain ⟨number, scanned⟩ := Number.scan_append written stops
  obtain ⟨first, remaining, rfl, starts⟩ := exists_cons_of_numberText written
  exact skip_of_scan starts scanned

theorem skipBlanks_of_skip (skipped : skip text = .ok rest) : skipBlanks text = text := by
  cases text with
  | nil => rfl
  | cons first remaining =>
      apply skipBlanks_cons_of_not_blank
      apply Bool.eq_false_iff.mpr
      intro blank
      rcases isBlank_iff.mp blank with rfl | rfl | rfl | rfl <;>
        simp [skip, startsNumber] at skipped

end PageBuffer.Json.Scalar
