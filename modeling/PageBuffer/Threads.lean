import PageBuffer.Run
import PageBuffer.Shared

/-!
Threads that work on one value behind a latch.  Each makes its own calls one after the other, and
holds the latch as long as a call takes.  A schedule says which thread makes the next call.
-/

namespace PageBuffer.Threads

variable {Thread State Event Answer Call Item Other : Type}

/-- What each call of a schedule answers to its thread, and the value after the last one. -/
def run (perform : Call → State → Outcome State Event Answer) (shared : Shared State) :
    List (Thread × Call) → List (Thread × Answer) × Shared State
  | [] => ([], shared)
  | (thread, call) :: rest =>
      let (answer, next) := shared.locked fun state =>
        let outcome := perform call state
        (outcome.answer, outcome.state)
      let (later, final) := run perform next rest
      ((thread, answer) :: later, final)

/-- What the threads do to the value is a run of all their calls, and each gets the answers to its
own. -/
theorem run_eq (perform : Call → State → Outcome State Event Answer) (shared : Shared State)
    (schedule : List (Thread × Call)) :
    run perform shared schedule =
      ((schedule.map (·.1)).zip (Run.answers perform shared.value (schedule.map (·.2))),
        { shared with value := Run.finalState perform shared.value (schedule.map (·.2)) }) := by
  induction schedule generalizing shared with
  | nil => rfl
  | cons item rest inductionHypothesis => simp [run, Shared.locked, inductionHypothesis]

variable [DecidableEq Thread] {thread other : Thread} {item : Item} {items : List (Thread × Item)}

/-- A thread's own items, in order. -/
def own (thread : Thread) (items : List (Thread × Item)) : List Item :=
  (items.filter (·.1 = thread)).map (·.2)

/-- Each thread makes the calls of its program, in order. -/
def Interleaves (programs : Thread → List Call) (schedule : List (Thread × Call)) : Prop :=
  ∀ thread, own thread schedule = programs thread

@[simp]
theorem own_cons_self (thread : Thread) (item : Item) (items : List (Thread × Item)) :
    own thread ((thread, item) :: items) = item :: own thread items := by
  simp [own]

theorem own_cons_of_ne (different : other ≠ thread) :
    own thread ((other, item) :: items) = own thread items := by
  simp [own, different]

theorem mem_own : item ∈ own thread items ↔ (thread, item) ∈ items := by
  simp [own]

theorem own_zip_map (thread : Thread) (threads : List Thread) (items : List Item)
    (change : Item → Other) :
    own thread (threads.zip (items.map change)) = (own thread (threads.zip items)).map change := by
  simp [own, List.zip_map_right, List.filter_map, Function.comp_def]

end PageBuffer.Threads
