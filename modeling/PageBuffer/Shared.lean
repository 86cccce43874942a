/-!
A value behind one exclusive latch.  Handles are cheap copies that all reach the same value, so
every operation is atomic and what one handle writes every handle reads.
-/

namespace PageBuffer

/-- The guarded value, and how many handles have been handed out.  Handles are numbered from `0`. -/
structure Shared (α : Type) where
  value : α
  handles : Nat := 1
  deriving DecidableEq, Repr

namespace Shared

variable {α β : Type}

/-- Hands out one more handle and answers its number. -/
def clone (shared : Shared α) : Nat × Shared α :=
  (shared.handles, { shared with handles := shared.handles + 1 })

/-- Runs an operation while the latch is held.  The latch is released whatever the operation
answers, a failure included. -/
def locked (shared : Shared α) (operation : α → β × α) : β × Shared α :=
  let result := operation shared.value
  (result.1, { shared with value := result.2 })

/-- Stores a value and answers the one it replaces. -/
def exchange (shared : Shared α) (value : α) : α × Shared α :=
  shared.locked fun former => (former, value)

/-- As many threads as `times` apply `change` once each.  Each holds the latch meanwhile, so their
order does not matter. -/
def updateEach (shared : Shared α) (change : α → α) : (times : Nat) → Shared α
  | 0 => shared
  | times + 1 => (shared.locked fun value => ((), change value)).2.updateEach change times

/-- The value seen through each handle. -/
def views (shared : Shared α) : List α :=
  List.replicate shared.handles shared.value

@[simp]
theorem length_views (shared : Shared α) : shared.views.length = shared.handles := by
  simp [views]

@[simp]
theorem views_exchange (shared : Shared α) (value : α) :
    (shared.exchange value).2.views = List.replicate shared.handles value := rfl

@[simp]
theorem handles_updateEach (shared : Shared α) (change : α → α) (times : Nat) :
    (shared.updateEach change times).handles = shared.handles := by
  induction times generalizing shared with
  | zero => rfl
  | succ times inductionHypothesis => rw [updateEach, inductionHypothesis]; rfl

theorem value_updateEach_add (shared : Shared Int) (amount : Int) (times : Nat) :
    (shared.updateEach (· + amount) times).value = shared.value + times * amount := by
  induction times generalizing shared with
  | zero => simp [updateEach]
  | succ times inductionHypothesis =>
      rw [updateEach, inductionHypothesis]
      simp only [locked, Int.natCast_add, Int.add_mul, Int.natCast_one, Int.one_mul]
      omega

end Shared

end PageBuffer
