import PageBuffer.Run

/-!
Two systems called in step.  If each call that the second allows keeps their states related and gets
matching answers, then so do whole runs of such calls.
-/

namespace PageBuffer.Run

variable {State Event Answer OtherState OtherEvent OtherAnswer Call : Type}
  {perform : Call → State → Outcome State Event Answer}
  {otherPerform : Call → OtherState → Outcome OtherState OtherEvent OtherAnswer}
  {related : State → OtherState → Prop} {wrap : OtherAnswer → Answer}
  {allows : OtherState → Call → Prop} {state : State} {other : OtherState} {calls : List Call}

/-- The first answer is the second one wrapped, and the states are related. -/
structure Matches (related : State → OtherState → Prop) (wrap : OtherAnswer → Answer)
    (outcome : Outcome State Event Answer)
    (otherOutcome : Outcome OtherState OtherEvent OtherAnswer) : Prop where
  answer_eq : outcome.answer = wrap otherOutcome.answer
  related : related outcome.state otherOutcome.state

/-- Each call of a run is allowed where it comes. -/
def Allowed (otherPerform : Call → OtherState → Outcome OtherState OtherEvent OtherAnswer)
    (allows : OtherState → Call → Prop) (other : OtherState) (calls : List Call) : Prop :=
  ∀ before call after, calls = before ++ call :: after →
    allows (finalState otherPerform other before) call

theorem allowed_cons {call : Call} {rest : List Call} :
    Allowed otherPerform allows other (call :: rest) ↔
      allows other call ∧ Allowed otherPerform allows (otherPerform call other).state rest := by
  constructor
  · intro allowed
    refine ⟨allowed [] call rest rfl, ?_⟩
    rintro before next after rfl
    exact allowed (call :: before) next after rfl
  · rintro ⟨first, later⟩ before next after split
    cases before with
    | nil =>
        cases split
        exact first
    | cons head before =>
        cases split
        exact later before next after rfl

section Run

variable (step : ∀ call state other, related state other → allows other call →
  Matches related wrap (perform call state) (otherPerform call other))

include step

theorem related_finalState (start : related state other)
    (allowed : Allowed otherPerform allows other calls) :
    related (finalState perform state calls) (finalState otherPerform other calls) := by
  induction calls generalizing state other with
  | nil => exact start
  | cons call rest inductionHypothesis =>
      rcases allowed_cons.mp allowed with ⟨first, later⟩
      exact inductionHypothesis (step _ _ _ start first).related later

/-- What is read off matching outcomes in the same way is the same after every call. -/
theorem map_outcomes_eq {Reading : Type} {read : Outcome State Event Answer → Reading}
    {otherRead : Outcome OtherState OtherEvent OtherAnswer → Reading}
    (agree : ∀ {outcome otherOutcome}, Matches related wrap outcome otherOutcome →
      read outcome = otherRead otherOutcome)
    (start : related state other) (allowed : Allowed otherPerform allows other calls) :
    (outcomes perform state calls).map read =
      (outcomes otherPerform other calls).map otherRead := by
  induction calls generalizing state other with
  | nil => rfl
  | cons call rest inductionHypothesis =>
      rcases allowed_cons.mp allowed with ⟨first, later⟩
      have matched := step _ _ _ start first
      rw [outcomes_cons, outcomes_cons, List.map_cons, List.map_cons, agree matched,
        inductionHypothesis matched.related later]

theorem answers_eq_map (start : related state other)
    (allowed : Allowed otherPerform allows other calls) :
    answers perform state calls = (answers otherPerform other calls).map wrap := by
  rw [answers, answers, List.map_map]
  exact map_outcomes_eq step (fun matched => matched.answer_eq) start allowed

theorem exists_related (start : related state other)
    (allowed : Allowed otherPerform allows other calls) :
    ∀ outcome ∈ outcomes perform state calls, ∃ reached, related outcome.state reached := by
  induction calls generalizing state other with
  | nil => simp
  | cons call rest inductionHypothesis =>
      rcases allowed_cons.mp allowed with ⟨first, later⟩
      have matched := step _ _ _ start first
      intro outcome member
      rcases List.mem_cons.mp member with rfl | inRest
      · exact ⟨_, matched.related⟩
      · exact inductionHypothesis matched.related later outcome inRest

end Run

end PageBuffer.Run
