import PageBuffer.Log

/-!
What a table logs while it grows.
-/

namespace PageBuffer.Table

inductive Event where
  | doubled (slots depth : Nat)
  | split (id depth moved sibling slots : Nat)
  | shape (buckets depth : Nat)
  deriving DecidableEq, Repr

def Event.record : Event → Record
  | .doubled slots depth =>
      ⟨.debug, s!"directory doubled to {slots} slots (global depth {depth})"⟩
  | .split id depth moved sibling slots =>
      ⟨.debug, s!"split bucket {id} at depth {depth}: {moved} entries moved to bucket {sibling} " ++
        s!"({slots} slots)"⟩
  | .shape buckets depth => ⟨.trace, s!"{buckets} buckets, global depth {depth}"⟩

end PageBuffer.Table
