import Mgnp.LabelledRuns

/-!
# Calls that run alone

A call takes steps of its own until one of them returns its answer.  When nobody
else takes a step, it has at most one outcome, and it never returns when every
step leads to a state of the same kind.
-/

namespace Mgnp

namespace SoloCalls

open LabelledRuns

variable {State Event Answer : Type*} {step : State → Option (State × List Event)}
  {answer : State → Option Answer} {state next final other : State}
  {events later history past : List Event} {result found : Answer}

/-- The steps of a call from `state` up to the one that returns `result`. -/
inductive Completes (step : State → Option (State × List Event))
    (answer : State → Option Answer) : State → List Event → Answer → State → Prop
  | last {state next : State} {events : List Event} {result : Answer} :
      step state = some (next, events) → answer state = some result →
      Completes step answer state events result next
  | silent {state next final : State} {events later : List Event} {result : Answer} :
      step state = some (next, events) → answer state = none →
      Completes step answer next later result final →
      Completes step answer state (events ++ later) result final

/-- The call returns. -/
def Finishes (step : State → Option (State × List Event)) (answer : State → Option Answer)
    (state : State) : Prop :=
  ∃ events result final, Completes step answer state events result final

/-- A step that answers is the whole call. -/
theorem completes_iff_of_answer (stepTo : step state = some (next, events))
    (answered : answer state = some result) :
    Completes step answer state history found final ↔
      history = events ∧ found = result ∧ final = next := by
  constructor
  · intro completes
    cases completes with
    | last stepEq answerEq =>
        cases stepTo.symm.trans stepEq
        cases answered.symm.trans answerEq
        exact ⟨rfl, rfl, rfl⟩
    | silent stepEq unanswered rest => cases answered.symm.trans unanswered
  · rintro ⟨rfl, rfl, rfl⟩
    exact .last stepTo answered

/-- A step that answers nothing leaves the rest of the call. -/
theorem completes_iff_of_silent (stepTo : step state = some (next, events))
    (unanswered : answer state = none) :
    Completes step answer state history result final ↔
      ∃ later, history = events ++ later ∧ Completes step answer next later result final := by
  constructor
  · intro completes
    cases completes with
    | last stepEq answerEq => cases unanswered.symm.trans answerEq
    | silent stepEq answerEq rest =>
        cases stepTo.symm.trans stepEq
        exact ⟨_, rfl, rest⟩
  · rintro ⟨later, rfl, rest⟩
    exact .silent stepTo unanswered rest

theorem Completes.unique (first : Completes step answer state events result final)
    (second : Completes step answer state history found other) :
    history = events ∧ found = result ∧ other = final := by
  induction first generalizing history with
  | last stepTo answered => exact (completes_iff_of_answer stepTo answered).mp second
  | silent stepTo unanswered _ ih =>
      obtain ⟨later, rfl, rest⟩ := (completes_iff_of_silent stepTo unanswered).mp second
      obtain ⟨rfl, rfl, rfl⟩ := ih rest
      exact ⟨rfl, rfl, rfl⟩

/-- What holds of the outcome of a call holds of every outcome of it. -/
theorem Completes.forall_iff (completes : Completes step answer state events result final)
    (post : List Event → Answer → State → Prop) :
    (∀ events result final, Completes step answer state events result final →
      post events result final) ↔ post events result final := by
  constructor
  · intro always
    exact always events result final completes
  · intro holds others found other returned
    obtain ⟨rfl, rfl, rfl⟩ := completes.unique returned
    exact holds

/-- A call whose every step leads from a state of one kind to another such state
without an answer never returns. -/
theorem not_finishes_of_loop (Loops : State → Prop)
    (unanswered : ∀ {state}, Loops state → answer state = none)
    (again : ∀ {state next events}, Loops state → step state = some (next, events) → Loops next)
    (loops : Loops state) : ¬ Finishes step answer state := by
  rintro ⟨events, result, final, completes⟩
  induction completes with
  | last _ answered => cases (unanswered loops).symm.trans answered
  | silent stepTo _ _ ih => exact ih (again loops stepTo)

/-- A call that runs alone is a run of the component. -/
theorem Completes.run {Action : Type*}
    {machine : State → Action → Option (State × List Event)} {action : Action}
    (completes : Completes (fun before => machine before action) answer state events result
      final) :
    Run machine anyStep state events final := by
  induction completes with
  | last stepTo _ => exact .single trivial stepTo
  | silent stepTo _ _ ih => exact (Run.single trivial stepTo).trans ih

end SoloCalls

end Mgnp
