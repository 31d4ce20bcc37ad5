import Mgnp.ChannelErrors

/-!
# Asking why a channel was closed

A caller that believes a channel to be closed with an error may ask for a
reservation to learn the error.  Once some `close_with_error` has been elected
the answer is its error, unless the caller overtakes the elected call between
its steps: it must not look at `enqueue_pos` before `CLOSED` is set there, nor
look for the error before `ERRORED` is set.
-/

namespace Mgnp

namespace ChannelCore

open PositionWord

variable {T E : Type*} {width : PointerWidth}

/-- An elected `close_with_error` that has not set `ERRORED`. -/
def Pc.unpublished : Pc E → Bool
  | .writingError _ | .settingErrored => true
  | _ => false

/-- An elected `close_with_error` that has not set `CLOSED` in `enqueue_pos`. -/
def Pc.unclosed : Pc E → Bool
  | .writingError _ | .settingErrored | .closingRx true => true
  | _ => false

/-- A call of `try_reserve` that has not found the channel open. -/
def Pc.Refusing : Pc E → Prop
  | .reserving blocking => blocking = false
  | .reserveClosed => True
  | _ => False

/-- Whether the next step of a call of `try_reserve` overtakes the elected
`close_with_error`. -/
def Channel.overtakesError (channel : Channel T E) (call : Nat) : Bool :=
  match channel.tasks[call]? with
  | some ⟨_, .reserving _⟩ =>
      !HasClosed channel.core.enqueuePos && channel.tasks.any fun task => task.pc.unclosed
  | some ⟨_, .reserveClosed⟩ => channel.tasks.any fun task => task.pc.unpublished
  | _ => false

theorem Pc.Stage.errored_of_published {error : E} {core : Core E} {pc : Pc E}
    (stage : pc.Stage error core) (published : pc.unpublished = false) :
    core.state.errored = true := by
  cases pc with
  | writingError _ | settingErrored => cases published
  | closingRx thenTx =>
      cases thenTx with
      | true => exact stage.2
      | false => exact stage.elim
  | closingProdWait thenTx =>
      cases thenTx with
      | true => exact stage.2.1
      | false => exact stage.elim
  | closingTx byError | closingConsWait byError =>
      cases byError with
      | true => exact stage.2.1
      | false => exact stage.elim
  | finished => exact stage.2.1
  | _ => exact stage.elim

theorem Pc.Stage.hasClosed_of_closed {error : E} {core : Core E} {pc : Pc E}
    (stage : pc.Stage error core) (isClosed : pc.unclosed = false) :
    HasClosed core.enqueuePos := by
  cases pc with
  | writingError _ | settingErrored => cases isClosed
  | closingRx thenTx =>
      cases thenTx with
      | true => cases isClosed
      | false => exact stage.elim
  | closingProdWait thenTx =>
      cases thenTx with
      | true => exact stage.2.2
      | false => exact stage.elim
  | closingTx byError | closingConsWait byError =>
      cases byError with
      | true => exact stage.2.2
      | false => exact stage.elim
  | finished => exact stage.2.2
  | _ => exact stage.elim

section Refusals

variable {channel next : Channel T E} {past events : List (Event T E)}
  {action : Action T E} {winner call : Nat} {error : E}

/-- Whoever asks after the elected call has set `ERRORED` reads its error. -/
theorem Elected.closeReason_of_published (elected : Elected past channel winner error)
    (published : (channel.tasks.any fun task => task.pc.unpublished) = false) :
    channel.core.closeReason = some error := by
  obtain ⟨task, at_winner, stage⟩ := elected.stage
  have errored := stage.errored_of_published
    (Bool.eq_false_of_not_eq_true (List.any_eq_false.mp published task
      (List.mem_of_getElem? at_winner)))
  rw [Core.closeReason, if_pos errored]
  exact elected.published errored

theorem Elected.hasClosed_of_closed (elected : Elected past channel winner error)
    (isClosed : (channel.tasks.any fun task => task.pc.unclosed) = false) :
    HasClosed channel.core.enqueuePos := by
  obtain ⟨task, at_winner, stage⟩ := elected.stage
  exact stage.hasClosed_of_closed
    (Bool.eq_false_of_not_eq_true (List.any_eq_false.mp isClosed task
      (List.mem_of_getElem? at_winner)))

/-- A call of `try_reserve` that does not overtake the elected call goes on
being refused, or is given the error. -/
theorem Elected.refusal_run (elected : Elected past channel winner error)
    (refusing : TaskAt channel.tasks call Pc.Refusing)
    (patient : channel.overtakesError call = false)
    (stepTo : step width channel (.run call) = some (next, events)) :
    (TaskAt next.tasks call Pc.Refusing ∧ events = []) ∨
      events = [.sendClosed call (some error)] := by
  obtain ⟨⟨handle, pc⟩, at_call, refuses⟩ := refusing
  simp only [step, at_call] at stepTo
  simp only [Channel.overtakesError, at_call] at patient
  cases pc with
  | reserving blocking =>
      have isClosed : HasClosed channel.core.enqueuePos := by
        by_contra isOpen
        simp only [isOpen, decide_false, Bool.not_false, Bool.true_and] at patient
        exact isOpen (elected.hasClosed_of_closed patient)
      simp only [runTask] at stepTo
      rw [if_pos (show channel.core.enqueuePos &&& closed = closed from isClosed)] at stepTo
      cases stepTo
      exact .inl ⟨(taskAt_set_self at_call).mpr trivial, rfl⟩
  | reserveClosed =>
      simp only [runTask, elected.closeReason_of_published patient, Option.some.injEq,
        Prod.mk.injEq] at stepTo
      exact .inr stepTo.2.symm
  | _ => exact refuses.elim

/-- Only its own steps move a call of `try_reserve` that is being refused. -/
theorem step_refusing (stepTo : step width channel action = some (next, events))
    (refusing : TaskAt channel.tasks call Pc.Refusing) (other : action ≠ .run call) :
    TaskAt next.tasks call Pc.Refusing := by
  obtain ⟨⟨handle, pc⟩, at_call, refuses⟩ := refusing
  refine ⟨⟨handle, pc⟩, step_others stepTo ?_ at_call, refuses⟩
  intro moves
  cases action with
  | run i => exact other (congrArg Action.run (Option.some.inj moves))
  | allocate i idx | spurious i | woken i | write i value | commit i | release i =>
      obtain rfl : i = call := Option.some.inj moves
      simp only [step, at_call] at stepTo
      cases pc <;> first | exact refuses.elim | cases stepTo
  | _ => cases moves

/-- Nor do the steps of others answer it. -/
theorem step_unanswered (stepTo : step width channel action = some (next, events))
    (refusing : TaskAt channel.tasks call Pc.Refusing) (other : action ≠ .run call) :
    (∀ idx, .reserved call idx ∉ events) ∧ .full call ∉ events ∧
      ∀ reason, .sendClosed call reason ∉ events := by
  refine ⟨fun idx answered => ?_, fun answered => ?_, fun reason answered => ?_⟩
  · obtain ⟨task, at_call, refuses⟩ := refusing
    have allocating := ((step_transition stepTo).reservation call).1 idx answered
    rw [taskAt_iff_of_pc at_call] at allocating
    cases isPc : task.pc <;> rw [isPc] at refuses allocating <;>
      first | exact refuses.elim | exact allocating.elim
  · exact other (run_of_ranBy stepTo answered rfl)
  · exact other (run_of_ranBy stepTo answered rfl)

/-- An answer of `close_with_error` comes after the election. -/
theorem step_closeResult {history : List (Event T E)} {called : Nat → E → Prop}
    (election : Election history channel called)
    (stepTo : step width channel action = some (next, events)) {closed : Bool}
    (answered : .closeResult call closed ∈ events) :
    channel.core.state.erroring = true := by
  cases election with
  | decided erroring => exact erroring
  | pending waiting unelected =>
      rcases unelected.transition (step_transition stepTo) waiting with
        ⟨_, still⟩ | ⟨_, unanswered, _⟩
      · exact absurd (List.mem_append_right _ answered) (still.unanswered call closed)
      · exact absurd (List.mem_append_right _ answered) (unanswered call closed)

end Refusals

end ChannelCore

end Mgnp
