import PageBuffer.Log

/-!
Runs of calls on a state.  `outcomes` keeps what every call left, `states` the states between the
calls, `finalState` only the end.
-/

namespace PageBuffer

namespace Run

variable {State Event Answer Call : Type}

/-- The outcome of each call, performed on the state that the call before it left. -/
def outcomes (perform : Call → State → Outcome State Event Answer) :
    State → List Call → List (Outcome State Event Answer)
  | _, [] => []
  | state, call :: rest =>
      let first := perform call state
      first :: outcomes perform first.state rest

/-- The state after the last call. -/
def finalState (perform : Call → State → Outcome State Event Answer)
    (state : State) (calls : List Call) : State :=
  calls.foldl (fun current call => (perform call current).state) state

/-- The state before the first call and the one after each. -/
def states (perform : Call → State → Outcome State Event Answer)
    (state : State) (calls : List Call) : List State :=
  state :: (outcomes perform state calls).map (·.state)

/-- Each call with the state in which it is made. -/
def moments (perform : Call → State → Outcome State Event Answer) :
    State → List Call → List (State × Call)
  | _, [] => []
  | state, call :: rest => (state, call) :: moments perform (perform call state).state rest

def answers (perform : Call → State → Outcome State Event Answer)
    (state : State) (calls : List Call) : List Answer :=
  (outcomes perform state calls).map (·.answer)

def events (perform : Call → State → Outcome State Event Answer)
    (state : State) (calls : List Call) : List Event :=
  (outcomes perform state calls).flatMap (·.events)

variable (perform : Call → State → Outcome State Event Answer)

@[simp]
theorem outcomes_nil (state : State) : outcomes perform state [] = [] := rfl

@[simp]
theorem outcomes_cons (state : State) (call : Call) (rest : List Call) :
    outcomes perform state (call :: rest) =
      perform call state :: outcomes perform (perform call state).state rest := rfl

@[simp]
theorem finalState_nil (state : State) : finalState perform state [] = state := rfl

@[simp]
theorem finalState_cons (state : State) (call : Call) (rest : List Call) :
    finalState perform state (call :: rest) =
      finalState perform (perform call state).state rest := rfl

theorem finalState_append (state : State) (first second : List Call) :
    finalState perform state (first ++ second) =
      finalState perform (finalState perform state first) second := by
  simp [finalState]

theorem outcomes_append (state : State) (first second : List Call) :
    outcomes perform state (first ++ second) =
      outcomes perform state first ++ outcomes perform (finalState perform state first) second := by
  induction first generalizing state with
  | nil => rfl
  | cons call rest inductionHypothesis => simp [inductionHypothesis]

@[simp]
theorem length_outcomes (state : State) (calls : List Call) :
    (outcomes perform state calls).length = calls.length := by
  induction calls generalizing state with
  | nil => rfl
  | cons call rest inductionHypothesis => simp [inductionHypothesis]

@[simp]
theorem states_nil (state : State) : states perform state [] = [state] := rfl

@[simp]
theorem states_cons (state : State) (call : Call) (rest : List Call) :
    states perform state (call :: rest) =
      state :: states perform (perform call state).state rest := rfl

theorem finalState_mem_states (state : State) (calls : List Call) :
    finalState perform state calls ∈ states perform state calls := by
  induction calls generalizing state with
  | nil => simp
  | cons call rest inductionHypothesis =>
      rw [states_cons, finalState_cons]
      exact List.mem_cons_of_mem state (inductionHypothesis _)

theorem mem_states_append {moment state : State} {first second : List Call} :
    moment ∈ states perform state (first ++ second) ↔ moment ∈ states perform state first ∨
      moment ∈ states perform (finalState perform state first) second := by
  induction first generalizing state with
  | nil => simp [states]
  | cons call rest inductionHypothesis => simp [inductionHypothesis, or_assoc]

@[simp]
theorem moments_nil (state : State) : moments perform state [] = [] := rfl

@[simp]
theorem moments_cons (state : State) (call : Call) (rest : List Call) :
    moments perform state (call :: rest) =
      (state, call) :: moments perform (perform call state).state rest := rfl

theorem outcomes_eq_map_moments (state : State) (calls : List Call) :
    outcomes perform state calls =
      (moments perform state calls).map fun (reached, call) => perform call reached := by
  induction calls generalizing state with
  | nil => rfl
  | cons call rest inductionHypothesis => simp [inductionHypothesis]

/-- Calls may be made by way of others. -/
theorem finalState_map {Other : Type} (through : Other → Call) (state : State)
    (calls : List Other) :
    finalState perform state (calls.map through) =
      finalState (fun call => perform (through call)) state calls := by
  simp [finalState, List.foldl_map]

@[simp]
theorem answers_nil (state : State) : answers perform state [] = [] := rfl

@[simp]
theorem answers_cons (state : State) (call : Call) (rest : List Call) :
    answers perform state (call :: rest) =
      (perform call state).answer :: answers perform (perform call state).state rest := rfl

@[simp]
theorem events_nil (state : State) : events perform state [] = [] := rfl

@[simp]
theorem events_cons (state : State) (call : Call) (rest : List Call) :
    events perform state (call :: rest) =
      (perform call state).events ++ events perform (perform call state).state rest := rfl

/-- A property that every call keeps holds at the end of a run. -/
theorem finalState_induction {property : State → Prop}
    (kept : ∀ call state, property state → property (perform call state).state)
    {state : State} (start : property state) (calls : List Call) :
    property (finalState perform state calls) := by
  induction calls generalizing state with
  | nil => exact start
  | cons call rest inductionHypothesis => exact inductionHypothesis (kept call state start)

/-- A property that the calls of a run keep, as long as their outcomes are admissible, holds all
through the run. -/
theorem forall_states {property : State → Prop}
    {admissible : Outcome State Event Answer → Prop} {state : State} {calls : List Call}
    (kept : ∀ call ∈ calls, ∀ reached, property reached → admissible (perform call reached) →
      property (perform call reached).state)
    (start : property state)
    (all : ∀ outcome ∈ outcomes perform state calls, admissible outcome) :
    ∀ reached ∈ states perform state calls, property reached := by
  induction calls generalizing state with
  | nil => simpa using start
  | cons call rest inductionHypothesis =>
      rcases List.forall_mem_cons.mp kept with ⟨keptFirst, keptLater⟩
      rcases List.forall_mem_cons.mp all with ⟨first, later⟩
      intro reached member
      rcases List.mem_cons.mp member with rfl | inRest
      · exact start
      · exact inductionHypothesis keptLater (keptFirst state start first) later reached inRest

end Run

end PageBuffer
