/-!
Computations that may fail: what one that succeeded went through.
-/

namespace PageBuffer.Fallible

variable {ε α β : Type}

theorem ok_bind (value : α) (next : α → Except ε β) : .ok value >>= next = next value := rfl

theorem error_bind (fault : ε) (next : α → Except ε β) : .error fault >>= next = .error fault := rfl

@[simp]
theorem bind_eq_ok_iff {first : Except ε α} {next : α → Except ε β} {result : β} :
    first >>= next = .ok result ↔ ∃ value, first = .ok value ∧ next value = .ok result := by
  cases first <;> simp [bind, Except.bind]

@[simp]
theorem map_eq_ok_iff {computation : Except ε α} {change : α → β} {result : β} :
    computation.map change = .ok result ↔ ∃ value, computation = .ok value ∧ change value = result := by
  cases computation <;> simp [Except.map]

@[simp]
theorem mapError_eq_ok_iff {δ : Type} {computation : Except ε α} {change : ε → δ} {result : α} :
    computation.mapError change = .ok result ↔ computation = .ok result := by
  cases computation with
  | ok value =>
      constructor
      · rintro ⟨⟩
        rfl
      · rintro ⟨⟩
        rfl
  | error fault => exact iff_of_false nofun nofun

@[simp]
theorem pure_eq_ok_iff {value result : α} :
    (pure value : Except ε α) = .ok result ↔ value = result := by
  simp [pure, Except.pure]

@[simp]
theorem throw_ne_ok {fault : ε} {result : α} : (throw fault : Except ε α) ≠ .ok result := by
  simp [throw, throwThe, MonadExceptOf.throw]

end PageBuffer.Fallible
