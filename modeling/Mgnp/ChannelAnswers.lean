import Mgnp.ChannelDisconnect
import Mgnp.ChannelErrors

/-!
# Calls and their answers

Whoever calls `reserve` or `try_dequeue` goes on when the call is answered.  A call of
`reserve` stays in `reserve` until then, and one that starts after the channel was closed is
never pending.  What `close_reason` reads changes only when an error is published, once.
-/

namespace Mgnp

namespace ChannelCore

open LabelledRuns PositionWord

variable {T E : Type*} {width : PointerWidth} {capacity : Nat} {channel next : Channel T E}
  {history events : List (Event T E)} {call : Nat}

section Reserve

/-- A call of `reserve` that has not been answered. -/
def Pc.InReserve : Pc E → Prop
  | .reserving true | .reserveClosed | .allocating true | .waiting => True
  | _ => False

/-- A reservation call that has found the channel open. -/
def Pc.Passed : Pc E → Prop
  | .allocating _ | .waiting => True
  | _ => False

theorem LocalMove.inReserve {core : Core E} {pc pc' : Pc E}
    (move : LocalMove width core call pc pc' events) (inReserve : pc.InReserve) :
    pc'.InReserve ∨ ∃ reason, .sendClosed call reason ∈ events := by
  cases move with
  | reserveError => exact .inr ⟨_, List.mem_singleton_self _⟩
  | sawOpen =>
      refine .inl ?_
      rename_i blocking _
      cases blocking
      · exact inReserve
      · trivial
  | sawClosed | park | waitClosed | woken => exact .inl trivial
  | _ => exact inReserve.elim

theorem reserve_spawns {handle : Nat} {blocking : Bool}
    (called : step width channel (.reserve handle blocking) = some (next, events)) :
    next = channel.spawn ⟨some handle, .reserving blocking⟩ ∧ events = [] := by
  simp only [step] at called
  split at called <;> cases called
  exact ⟨rfl, rfl⟩

/-- A call of `reserve` is not over before it is answered. -/
theorem Transition.inReserve (transition : Transition width channel events next)
    (at_call : TaskAt channel.tasks call Pc.InReserve) :
    TaskAt next.tasks call Pc.InReserve ∨ (∃ idx, .reserved call idx ∈ events) ∨
      ∃ reason, .sendClosed call reason ∈ events := by
  have moved {i : Nat} {old : Task E} (new : Task E) (at_i : channel.tasks[i]? = some old)
      (own : i = call → old.pc.InReserve → new.pc.InReserve ∨
        (∃ idx, .reserved call idx ∈ events) ∨ ∃ reason, .sendClosed call reason ∈ events) :
      TaskAt (channel.tasks.set i new) call Pc.InReserve ∨
        (∃ idx, .reserved call idx ∈ events) ∨ ∃ reason, .sendClosed call reason ∈ events := by
    by_cases same : i = call
    · subst same
      exact (own rfl ((taskAt_iff_of_pc at_i).mp at_call)).imp_left (taskAt_set_self at_i).mpr
    · exact .inl ((taskAt_set_ne same).mpr at_call)
  cases transition with
  | call | dropTx | dropRx | release => exact .inl (taskAt_append.mpr (.inl at_call))
  | cloneTx | write | rxLocal | dequeueWon => exact .inl at_call
  | taskLocal at_pc move =>
      refine moved _ at_pc ?_
      rintro rfl inReserve
      exact (move.inReserve inReserve).imp_right .inr
  | taskState at_pc move =>
      refine moved _ at_pc fun _ inReserve => ?_
      cases move <;> exact inReserve.elim
  | allocate at_pc =>
      refine moved _ at_pc ?_
      rintro rfl -
      exact .inr (.inl ⟨_, List.mem_singleton_self _⟩)
  | free at_pc | commitWon at_pc | store at_pc | closeRx at_pc | closeTx at_pc =>
      exact moved _ at_pc fun _ inReserve => inReserve.elim

/-- No reservation call finds a closed channel open. -/
theorem Transition.passed (transition : Transition width channel events next)
    (isClosed : HasClosed channel.core.enqueuePos)
    (passed : TaskAt next.tasks call Pc.Passed) : TaskAt channel.tasks call Pc.Passed := by
  cases transition with
  | call called => exact passed.of_append (by cases called <;> exact id)
  | dropTx | dropRx | release => exact passed.of_append id
  | cloneTx | write | rxLocal | dequeueWon => exact passed
  | taskLocal at_pc move =>
      cases move with
      | sawOpen isOpen => exact absurd isClosed isOpen
      | park => exact passed.of_set_kept at_pc trivial
      | _ => exact passed.of_set id
  | taskState _ move =>
      refine passed.of_set ?_
      cases move with
      | closeProdWait => split <;> exact id
      | dropTx => split <;> exact id
      | loseError | winError | writeError | setErrored => exact id
  | allocate | free | commitWon | store | closeRx | closeTx => exact passed.of_set id

/-- A `reserve` that is told of the closing stood before `close_reason`. -/
theorem Transition.refused (transition : Transition width channel events next)
    (at_call : TaskAt channel.tasks call Pc.InReserve) {reason : Option E}
    (answered : .sendClosed call reason ∈ events) :
    TaskAt channel.tasks call (· = .reserveClosed) := by
  cases transition with
  | taskLocal at_pc move =>
      cases move with
      | reserveError =>
          obtain ⟨rfl, -⟩ := by simpa using answered
          exact (taskAt_iff_of_pc at_pc).mpr rfl
      | commitError =>
          obtain ⟨rfl, -⟩ := by simpa using answered
          exact ((taskAt_iff_of_pc at_pc).mp at_call).elim
      | @closeConsWait byError => cases byError <;> simp at answered
      | _ => simp at answered
  | taskState _ move => cases move <;> simp at answered
  | rxLocal _ move => cases move <;> simp at answered
  | _ => simp at answered

/-- A send call that is told of the closing is told what `close_reason` reads. -/
theorem Transition.sendRefused (transition : Transition width channel events next)
    {reason : Option E} (answered : .sendClosed call reason ∈ events) :
    next.core = channel.core ∧ reason = channel.core.closeReason := by
  refine ⟨?_, (transition.reservation call).2.2 reason answered⟩
  cases transition with
  | taskLocal => rfl
  | taskState _ move => cases move <;> simp at answered
  | rxLocal => rfl
  | _ => simp at answered

end Reserve

section CloseReason

/-- The step sets `ERRORED`. -/
def Channel.publishes (channel : Channel T E) (action : Action T E) : Bool :=
  match action.task with
  | some task =>
      match channel.tasks[task]? with
      | some ⟨_, .settingErrored⟩ => true
      | _ => false
  | none => false

theorem Election.of_winning {called : Nat → E → Prop} (election : Election history channel called)
    {i : Nat} (winning : TaskAt channel.tasks i Pc.Winning) :
    ∃ error, Elected history channel i error := by
  cases election with
  | pending _ unelected => exact absurd winning (unelected.nobody i)
  | @decided winner error _ _ elected =>
      obtain rfl := elected.alone i winning
      exact ⟨error, elected⟩

theorem Election.erroring {called : Nat → E → Prop} (election : Election history channel called)
    (errored : channel.core.state.errored = true) : channel.core.state.erroring = true := by
  cases election with
  | pending _ unelected => exact absurd errored (by rw [unelected.errored]; decide)
  | decided erroring => exact erroring

/-- What `close_reason` reads changes only when an error is published, and never again. -/
theorem closeReason_step {action : Action T E}
    (run : Run (step width) anyStep (Channel.new width capacity) history channel)
    (stepTo : step width channel action = some (next, events)) :
    next.core.closeReason = channel.core.closeReason ∨
      channel.publishes action = true ∧ channel.core.closeReason = none := by
  have election := election_run run
  have unread (unpublished : channel.core.state.errored = false) :
      channel.core.closeReason = none := by
    rw [Core.closeReason, unpublished]
    rfl
  cases (step_transition stepTo).errorStep election.erroring with
  | frame unchanged =>
      refine .inl ?_
      rw [Core.closeReason, Core.closeReason, unchanged.errored, unchanged.error]
  | @write i handle own at_pc =>
      obtain ⟨error, elected⟩ := election.of_winning ((taskAt_iff_of_pc at_pc).mpr trivial)
      obtain ⟨-, -, unpublished⟩ := (taskAt_iff_of_pc at_pc).mp elected.stage
      refine .inl (Eq.trans ?_ (unread unpublished).symm)
      exact if_neg (by rw [unpublished]; decide)
  | @publish i handle at_pc =>
      obtain ⟨error, elected⟩ := election.of_winning ((taskAt_iff_of_pc at_pc).mpr trivial)
      refine .inr ⟨?_, unread ((taskAt_iff_of_pc at_pc).mp elected.stage).2⟩
      have moves : action.task = some i := by
        by_contra other
        have kept := step_others stepTo other at_pc
        obtain ⟨inside, -⟩ := List.getElem?_eq_some_iff.mp at_pc
        simp [Channel.goto, inside] at kept
      simp [Channel.publishes, moves, at_pc]
  | win | closeRx | closeProdWait | closeTx | answer => exact .inl rfl

end CloseReason

section Dequeue

/-- The receiver that has seen `CLOSED` in `dequeue_pos` is right about it. -/
def Channel.DequeueSeen (channel : Channel T E) : Prop :=
  channel.rx.SealedFacts (HasClosed channel.core.dequeuePos)

theorem Transition.dequeueSeen (transition : Transition width channel events next)
    (seen : channel.DequeueSeen) : next.DequeueSeen := by
  have closes := transition.dequeue_closed
  cases transition with
  | rxLocal at_rx move =>
      rw [Channel.DequeueSeen, at_rx] at seen
      cases move with
      | loadHead | claimFailed => exact id
      | sawClosed _ isClosed =>
          exact seen ((hasClosed_iff_ne_zero _).mpr isClosed)
      | claim => exact seen
      | call | sawEmpty | reloadHead | answerClosed => trivial
  | dropRx | dequeueWon | release => trivial
  | _ => exact RxPc.SealedFacts.mono seen closes

theorem tryRecv_eq (called : step width channel .tryRecv = some (next, events)) :
    next = { channel with rx := .loading } ∧ events = [] := by
  simp only [step] at called
  split at called <;> cases called
  exact ⟨rfl, rfl⟩

/-- The receiver that is told of the closing is told what `close_reason` reads. -/
theorem Transition.recvRefused (transition : Transition width channel events next)
    {reason : Option E} (answered : .recvClosed reason ∈ events) :
    next.core = channel.core ∧ reason = channel.core.closeReason := by
  cases transition with
  | rxLocal _ move =>
      refine ⟨rfl, ?_⟩
      cases move with
      | answerClosed => simpa using answered
      | _ => simp at answered
  | taskLocal _ move => cases move <;> grind
  | taskState _ move => cases move <;> grind
  | _ => simp at answered

/-- The receiver stays out of `try_dequeue` until it calls it. -/
theorem rx_idle_kept {action : Action T E} (idle : channel.rx = .idle)
    (stepTo : step width channel action = some (next, events)) (uncalled : action ≠ .tryRecv)
    (kept : action ≠ .dropRx) : next.rx = .idle := by
  cases action with
  | tryRecv => exact absurd rfl uncalled
  | dropRx => exact absurd rfl kept
  | run i =>
      simp only [step] at stepTo
      split at stepTo
      · exact (runTask_rx stepTo).trans idle
      · cases stepTo
  | runRx | spuriousRx => simp [step, runRx, idle] at stepTo
  | _ =>
      simp only [step] at stepTo
      repeat' split at stepTo
      all_goals cases stepTo <;> exact idle

theorem dequeueSeen_run {admits : Channel T E → Action T E → Prop}
    (run : Run (step width) admits (Channel.new width capacity) history channel) :
    channel.DequeueSeen := by
  refine run.stateInvariant (fun state : Channel T E => state.DequeueSeen) ?_ ?_
  · exact trivial
  · exact fun seen _ stepTo => (step_transition stepTo).dequeueSeen seen

/-- A receiver that is not in `try_dequeue` is not about to answer. -/
theorem drainInv_of_idle (capacityLe : capacity ≤ maxCapacity width)
    (run : Run (step width) anyStep (Channel.new width capacity) history channel)
    (idle : channel.rx = .idle) : DrainInv width capacity history channel := by
  have both : ClosingInv channel ∧ SenderInv channel :=
    run.stateInvariant (fun state : Channel T E => ClosingInv state ∧ SenderInv state)
      ⟨closingInv_new, senderInv_new⟩ fun ⟨closing, senders⟩ _ stepTo =>
        ⟨closingInv_transition closing (step_transition stepTo),
          senderInv_transition closing senders (step_transition stepTo)⟩
  exact ⟨represents_run capacityLe run, both.1, both.2, fun closing => by
    cases idle.symm.trans closing⟩

/-- `try_dequeue` is answered at most once, and then over. -/
theorem Transition.dequeueAnswered (transition : Transition width channel events next)
    {event : Event T E} (member : event ∈ events)
    (answers : event = .empty ∨ (∃ idx message, event = .received idx message) ∨
      ∃ reason, event = .recvClosed reason) :
    events = [event] ∧ channel.rx ≠ .idle ∧ next.rx = .idle := by
  cases transition with
  | rxLocal at_rx move =>
      cases move with
      | sawEmpty | answerClosed =>
          obtain rfl := List.mem_singleton.mp member
          exact ⟨rfl, by simp [at_rx], rfl⟩
      | _ => cases member
  | release at_rx =>
      obtain rfl := List.mem_singleton.mp member
      exact ⟨rfl, by simp [at_rx], rfl⟩
  | taskLocal _ move => cases move <;> grind
  | taskState _ move => cases move <;> grind
  | _ => grind

end Dequeue

end ChannelCore

end Mgnp
