/-!
Complete access histories, and the k-distance order on them: which of two histories makes its owner
the better one to give up.  A replacer keeps only the last accesses; this is what it stands for.
-/

namespace PageBuffer

/-- The times of all accesses, oldest first. -/
abbrev History := List Nat

namespace History

/-- Whether there have been fewer than `k` accesses. -/
def isShort (k : Nat) (history : History) : Bool :=
  history.length < k

def first? (history : History) : Option Nat :=
  history.head?

/-- The time of the `k`-th access counted from the latest. -/
def kthLatest? (k : Nat) (history : History) : Option Nat :=
  history[history.length - k]?

def isEarlier : Option Nat → Option Nat → Bool
  | some first, some second => first < second
  | _, _ => false

/-- The order of giving up.  A history of fewer than `k` accesses precedes one of `k` or more; two of
the first kind go by their first access, two of the second by their `k`-th latest. -/
def precedes (k : Nat) (one other : History) : Bool :=
  match one.isShort k, other.isShort k with
  | true, true => isEarlier one.first? other.first?
  | true, false => true
  | false, true => false
  | false, false => isEarlier (one.kthLatest? k) (other.kthLatest? k)

@[simp]
theorem not_precedes_self (k : Nat) (history : History) : precedes k history history = false := by
  have irrefl : ∀ time, isEarlier time time = false := by
    intro time
    cases time <;> simp [isEarlier]
  unfold precedes
  cases history.isShort k <;> simp [irrefl]

end History

end PageBuffer
