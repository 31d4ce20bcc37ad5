import Mathlib.Data.List.Basic

/-!
# Runs of labelled step functions

A component is described by a partial step function.  Every step is chosen by
an action (which thread moves, what its environment answers) and reports the
events it makes visible.  This file develops finite runs of such a function:
their event histories, the induction rule for invariants that mention the
history, and the executable counterpart used to exhibit concrete runs.
-/

namespace Mgnp

namespace LabelledRuns

variable {State Action Event : Type*}

/-- A finite run from `start` whose steps all meet `admits`.  The list is the
history of events in the order in which the steps reported them. -/
inductive Run (step : State → Action → Option (State × List Event))
    (admits : State → Action → Prop) (start : State) :
    List Event → State → Prop
  | refl : Run step admits start [] start
  | tail {history events : List Event} {state next : State} {action : Action} :
      Run step admits start history state →
      admits state action →
      step state action = some (next, events) →
      Run step admits start (history ++ events) next

/-- The condition that admits every step. -/
def anyStep (_ : State) (_ : Action) : Prop := True

instance (state : State) (action : Action) :
    Decidable (anyStep state action) :=
  inferInstanceAs (Decidable True)

section Rules

variable {step : State → Action → Option (State × List Event)}
  {admits : State → Action → Prop} {start middle final : State}
  {history later : List Event}

/-- An assertion about history and state that holds initially and is preserved
by every admitted step holds at the end of every run. -/
theorem Run.invariant (Inv : List Event → State → Prop)
    (initially : Inv [] start)
    (preserved : ∀ {past events state next action},
      Inv past state → admits state action →
      step state action = some (next, events) → Inv (past ++ events) next)
    (run : Run step admits start history final) : Inv history final := by
  induction run with
  | refl => exact initially
  | tail _ admitted stepTo ih => exact preserved ih admitted stepTo

/-- The invariant rule for assertions about the state alone. -/
theorem Run.stateInvariant (Inv : State → Prop) (initially : Inv start)
    (preserved : ∀ {events state next action},
      Inv state → admits state action →
      step state action = some (next, events) → Inv next)
    (run : Run step admits start history final) : Inv final :=
  run.invariant (fun _ state => Inv state) initially
    fun holds admitted stepTo => preserved holds admitted stepTo

theorem Run.trans (first : Run step admits start history middle)
    (second : Run step admits middle later final) :
    Run step admits start (history ++ later) final := by
  induction second with
  | refl => simpa using first
  | tail _ admitted stepTo ih =>
      rw [← List.append_assoc]
      exact .tail ih admitted stepTo

/-- Weakening the condition on steps keeps every run. -/
theorem Run.mono {weaker : State → Action → Prop}
    (weakens : ∀ state action, admits state action → weaker state action)
    (run : Run step admits start history final) :
    Run step weaker start history final := by
  induction run with
  | refl => exact .refl
  | tail _ admitted stepTo ih => exact .tail ih (weakens _ _ admitted) stepTo

theorem Run.any (run : Run step admits start history final) :
    Run step anyStep start history final :=
  run.mono fun _ _ _ => trivial

theorem Run.single {events : List Event} {action : Action}
    (admitted : admits start action)
    (stepTo : step start action = some (final, events)) :
    Run step admits start events final := by
  simpa using Run.tail .refl admitted stepTo

/-- Every event of a history was reported by a step of the run, which splits
the run into the part before that step and the part after it. -/
theorem Run.split_event (run : Run step admits start history final)
    {past : List Event} {event : Event}
    (occurs : history = past ++ event :: later) :
    ∃ pre first rest last before action after,
      past = pre ++ first ∧ later = rest ++ last ∧
      Run step admits start pre before ∧ admits before action ∧
      step before action = some (after, first ++ event :: rest) ∧
      Run step admits after last final := by
  induction run generalizing later with
  | refl => simp at occurs
  | @tail earlier events state next action run admitted stepTo ih =>
      rcases List.append_eq_append_iff.mp occurs with
        ⟨first, rfl, rfl⟩ | ⟨rest, rfl, consEq⟩
      · exact ⟨earlier, first, later, [], state, action, next, rfl,
          (List.append_nil later).symm, run, admitted, stepTo, .refl⟩
      · cases rest with
        | nil =>
            simp only [List.nil_append] at consEq
            subst consEq
            exact ⟨past, [], later, [], state, action, next, by simp, by simp,
              by simpa using run, admitted, stepTo, .refl⟩
        | cons head rest =>
            simp only [List.cons_append, List.cons.injEq] at consEq
            obtain ⟨rfl, rfl⟩ := consEq
            obtain ⟨pre, first, tail, last, before, act, after, pastEq, laterEq,
              prefixRun, ok, stepEq, suffix⟩ := ih rfl
            refine ⟨pre, first, tail, last ++ events, before, act, after, pastEq,
              ?_, prefixRun, ok, stepEq, .tail suffix admitted stepTo⟩
            rw [laterEq, List.append_assoc]

end Rules

/-- A component that remembers what it reported, so that a condition on its steps may
speak about the past. -/
def recorded (step : State → Action → Option (State × List Event))
    (reached : State × List Event) (action : Action) :
    Option ((State × List Event) × List Event) :=
  (step reached.1 action).map fun outcome => ((outcome.1, reached.2 ++ outcome.2), outcome.2)

theorem recorded_eq_some_iff {step : State → Action → Option (State × List Event)}
    {reached next : State × List Event} {action : Action} {events : List Event} :
    recorded step reached action = some (next, events) ↔
      step reached.1 action = some (next.1, events) ∧ next.2 = reached.2 ++ events := by
  obtain ⟨state, past⟩ := reached
  obtain ⟨after, remembered⟩ := next
  simp only [recorded, Option.map_eq_some_iff, Prod.mk.injEq, Prod.exists]
  constructor
  · rintro ⟨found, reported, stepTo, ⟨rfl, rfl⟩, rfl⟩
    exact ⟨stepTo, rfl⟩
  · rintro ⟨stepTo, rfl⟩
    exact ⟨after, events, stepTo, ⟨rfl, rfl⟩, rfl⟩

/-! Where the parties of a component stand is a list; a step moves one of them. -/

/-- A property of all elements of a list survives replacing one of them by an
element with the property. -/
theorem forall_mem_set {Member : Type*} {P : Member → Prop} {pool : List Member} {i : Nat}
    {value : Member} (all : ∀ member ∈ pool, P member) (new : P value) :
    ∀ member ∈ pool.set i value, P member := by
  intro member isMember
  rcases List.mem_or_eq_of_mem_set isMember with old | rfl
  · exact all member old
  · exact new

/-- A step of one element leaves every element that is not like it in the list. -/
theorem mem_set_of_ne {Member : Type*} {pool : List Member} {i : Nat} {old new other : Member}
    (at_i : pool[i]? = some old) (member : other ∈ pool) (ne : old ≠ other) :
    other ∈ pool.set i new := by
  obtain ⟨j, at_j⟩ := List.mem_iff_getElem?.mp member
  have apart : i ≠ j := by
    rintro rfl
    exact ne (Option.some.inj (at_i.symm.trans at_j))
  exact List.mem_iff_getElem?.mpr ⟨j, by rw [List.getElem?_set_ne apart, at_j]⟩

section Execution

variable (step : State → Action → Option (State × List Event))
  (admits : State → Action → Prop)
  [∀ state action, Decidable (admits state action)]

/-- Execute a fixed schedule, collecting its events.  The result is `none`
when some action is not enabled or not admitted. -/
def exec : State → List Action → Option (State × List Event)
  | state, [] => some (state, [])
  | state, action :: actions =>
      if admits state action then
        match step state action with
        | none => none
        | some (next, events) =>
            match exec next actions with
            | none => none
            | some (final, later) => some (final, events ++ later)
      else none

variable {step admits}

theorem run_of_exec {start final : State} {actions : List Action}
    {events : List Event}
    (executed : exec step admits start actions = some (final, events)) :
    Run step admits start events final := by
  induction actions generalizing start events with
  | nil =>
      simp only [exec, Option.some.injEq, Prod.mk.injEq] at executed
      obtain ⟨rfl, rfl⟩ := executed
      exact .refl
  | cons action actions ih =>
      simp only [exec] at executed
      split at executed
      · rename_i admitted
        split at executed
        · contradiction
        · rename_i next first stepTo
          split at executed
          · contradiction
          · rename_i last later rest
            simp only [Option.some.injEq, Prod.mk.injEq] at executed
            obtain ⟨rfl, rfl⟩ := executed
            exact (Run.single admitted stepTo).trans (ih rest)
      · contradiction

variable (step admits) in
/-- A schedule whose observed outcome has been computed yields a run with that
outcome. -/
theorem exists_run_of_exec {Observation : Type*} (start : State)
    (actions : List Action) (observe : State × List Event → Observation)
    {outcome : Observation}
    (executed : (exec step admits start actions).map observe = some outcome) :
    ∃ history final, Run step admits start history final ∧
      observe (final, history) = outcome := by
  obtain ⟨⟨final, history⟩, ran, observed⟩ := Option.map_eq_some_iff.mp executed
  exact ⟨history, final, run_of_exec ran, observed⟩

end Execution

end LabelledRuns

end Mgnp
