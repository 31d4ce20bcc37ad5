import Mgnp.LabelledRuns

/-!
# Forward simulations

A component is simulated by another when each of its steps can be matched by steps of
the other that report the same events, as far as these are seen at all.  Then the
same holds of its runs, and what is seen of any run is the history of a run of the
other component.
-/

namespace Mgnp

namespace LabelledRuns

variable {State Action Event Abstract Move Seen : Type*}

/-- The relation holds at the start, and every admitted step leads to related states by
moves that report what is seen of its events. -/
structure Simulation (step : State → Action → Option (State × List Event))
    (admits : State → Action → Prop) (start : State)
    (move : Abstract → Move → Option (Abstract × List Seen))
    (allows : Abstract → Move → Prop) (initial : Abstract) where
  related : State → Abstract → Prop
  seen : Event → Option Seen
  initially : related start initial
  simulates : ∀ {state next action events abstract},
    related state abstract → admits state action → step state action = some (next, events) →
    ∃ after, Run move allows abstract (events.filterMap seen) after ∧ related next after

theorem Simulation.run {step : State → Action → Option (State × List Event)}
    {admits : State → Action → Prop} {start final : State}
    {move : Abstract → Move → Option (Abstract × List Seen)}
    {allows : Abstract → Move → Prop} {initial : Abstract} {history : List Event}
    (simulation : Simulation step admits start move allows initial)
    (run : Run step admits start history final) :
    ∃ reached, Run move allows initial (history.filterMap simulation.seen) reached ∧
      simulation.related final reached := by
  apply run.invariant fun past state => ∃ reached,
    Run move allows initial (past.filterMap simulation.seen) reached ∧
      simulation.related state reached
  · exact ⟨initial, .refl, simulation.initially⟩
  · rintro past events state next action ⟨reached, before, related⟩ admitted stepTo
    obtain ⟨after, moves, kept⟩ := simulation.simulates related admitted stepTo
    rw [List.filterMap_append]
    exact ⟨after, before.trans moves, kept⟩

end LabelledRuns

end Mgnp
