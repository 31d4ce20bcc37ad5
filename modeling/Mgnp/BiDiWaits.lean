import Mgnp.BiDiTransitions

/-!
# The calls that `wait` makes

A run of a `BiDi` is a run of each half.  The `reserve` that `wait` has made is not over before
`wait` goes on, `try_dequeue` is called only by `wait`, and every message that it takes is
returned.
-/

namespace Mgnp

namespace Bidi

open LabelledRuns PositionWord
open ChannelCore (Channel TaskAt Drained DrainInv)

variable {Out In E : Type*} {width : PointerWidth} {txCapacity rxCapacity : Nat}
  {txPast : List (ChannelCore.Event Out E)} {rxPast : List (ChannelCore.Event In E)}
  {bidi next : BiDi Out In E} {action : Action Out In E}
  {history reports : List (Report Out In E)}

/-- `wait` has found the send half closed and awaits the receive half. -/
def WaitPc.awaitsRecv : WaitPc → Bool
  | .fallenToRecv _ => true
  | _ => false

/-- `wait` has found the receive half closed and awaits the send half. -/
def WaitPc.awaitsReserve : WaitPc → Bool
  | .fallingToReserve | .fallenToReserve _ => true
  | _ => false

namespace BiDi

/-- The arm of `reserve` falls through at this step: the send half is closed, and has no error
or one that has been returned. -/
def fallsThrough (bidi : BiDi Out In E) (action : ChannelCore.Action Out E) : Bool :=
  match bidi.wait, action with
  | .reserving call, .run task =>
      task == call &&
        match bidi.tx.tasks[call]? with
        | some ⟨_, .reserveClosed⟩ => bidi.seenTxError || bidi.tx.core.closeReason.isNone
        | _ => false
  | _, _ => false

/-- `wait` does not fall through to a receive half whose error it has returned, no half that it
has found closed is closed with an error while it awaits the other half, and `try_dequeue` does
not miss a message of a closed half. -/
def reportsOnce (width : PointerWidth) (bidi : BiDi Out In E) : Action Out In E → Prop
  | .tx action =>
      (bidi.fallsThrough action = true → bidi.seenRxError = false) ∧
        (bidi.tx.publishes action = true → bidi.wait.awaitsRecv = false)
  | .rx action =>
      ChannelCore.closesDrained width bidi.rx action ∧
        (bidi.rx.publishes action = true → bidi.wait.awaitsReserve = false)
  | .wait | .runWait _ | .dropWait => True

instance (width : PointerWidth) (bidi : BiDi Out In E) (action : Action Out In E) :
    Decidable (bidi.reportsOnce width action) :=
  match action with
  | .tx _ | .rx _ => inferInstanceAs (Decidable (_ ∧ _))
  | .wait | .runWait _ | .dropWait => isTrue trivial

end BiDi

section Halves

/-- A run of a `BiDi` is a run of each half. -/
structure Halves (width : PointerWidth) (txCapacity rxCapacity : Nat)
    (txPast : List (ChannelCore.Event Out E)) (rxPast : List (ChannelCore.Event In E))
    (history : List (Report Out In E)) (bidi : BiDi Out In E) : Prop where
  tx : Run (ChannelCore.step width) anyStep (.new width txCapacity) (txPast ++ txEvents history)
    bidi.tx
  rx : Run (ChannelCore.step width) anyStep (.new width rxCapacity) (rxPast ++ rxEvents history)
    bidi.rx
  drain : DrainInv width rxCapacity (rxPast ++ rxEvents history) bidi.rx
  dequeueSeen : bidi.rx.DequeueSeen

theorem TxAnswered.leavesHalves {events : List (ChannelCore.Event Out E)}
    (answered : TxAnswered bidi events next reports) :
    next.tx = bidi.tx ∧ next.rx = bidi.rx ∧ txEvents reports = [] ∧ rxEvents reports = [] := by
  cases answered <;> exact ⟨rfl, rfl, rfl, rfl⟩

theorem RxAnswered.leavesHalves {events : List (ChannelCore.Event In E)}
    (answered : RxAnswered bidi events next reports) :
    next.tx = bidi.tx ∧ next.rx = bidi.rx ∧ txEvents reports = [] ∧ rxEvents reports = [] := by
  cases answered <;> exact ⟨rfl, rfl, rfl, rfl⟩

theorem Halves.stepTx (halves : Halves width txCapacity rxCapacity txPast rxPast history bidi)
    {action : ChannelCore.Action Out E} {events : List (ChannelCore.Event Out E)}
    (stepTo : ChannelCore.step width bidi.tx action = some (next.tx, events))
    (rx : next.rx = bidi.rx) (txReports : txEvents reports = events)
    (rxReports : rxEvents reports = []) :
    Halves width txCapacity rxCapacity txPast rxPast (history ++ reports) next := by
  have txHistory : txPast ++ txEvents (history ++ reports) =
      (txPast ++ txEvents history) ++ events := by
    rw [txEvents_append, txReports, List.append_assoc]
  have rxHistory : rxEvents (history ++ reports) = rxEvents history := by
    rw [rxEvents_append, rxReports, List.append_nil]
  constructor
  · rw [txHistory]
    exact .tail halves.tx trivial stepTo
  · rw [rxHistory, rx]
    exact halves.rx
  · rw [rxHistory, rx]
    exact halves.drain
  · rw [rx]
    exact halves.dequeueSeen

theorem Halves.stepRx (capacityLe : rxCapacity ≤ maxCapacity width)
    (halves : Halves width txCapacity rxCapacity txPast rxPast history bidi)
    {action : ChannelCore.Action In E} {events : List (ChannelCore.Event In E)}
    (stepTo : ChannelCore.step width bidi.rx action = some (next.rx, events))
    (admitted : ChannelCore.closesDrained width bidi.rx action)
    (tx : next.tx = bidi.tx) (txReports : txEvents reports = [])
    (rxReports : rxEvents reports = events) :
    Halves width txCapacity rxCapacity txPast rxPast (history ++ reports) next := by
  have txHistory : txEvents (history ++ reports) = txEvents history := by
    rw [txEvents_append, txReports, List.append_nil]
  have rxHistory : rxPast ++ rxEvents (history ++ reports) =
      (rxPast ++ rxEvents history) ++ events := by
    rw [rxEvents_append, rxReports, List.append_assoc]
  constructor
  · rw [txHistory, tx]
    exact halves.tx
  · rw [rxHistory]
    exact .tail halves.rx trivial stepTo
  · rw [rxHistory]
    exact ChannelCore.drainInv_step capacityLe halves.drain admitted stepTo
  · exact (ChannelCore.step_transition stepTo).dequeueSeen halves.dequeueSeen

theorem Halves.move (capacityLe : rxCapacity ≤ maxCapacity width)
    (halves : Halves width txCapacity rxCapacity txPast rxPast history bidi)
    (admitted : bidi.reportsOnce width action)
    (move : BiDi.Move width bidi action next reports) :
    Halves width txCapacity rxCapacity txPast rxPast (history ++ reports) next := by
  cases move with
  | reserve called => exact halves.stepTx called rfl rfl rfl
  | tryDequeue called => exact halves.stepRx capacityLe called trivial rfl rfl rfl
  | alone =>
      rw [List.append_nil]
      exact ⟨halves.tx, halves.rx, halves.drain, halves.dequeueSeen⟩
  | @tx action tx events _ reports _ stepTo answered =>
      obtain ⟨txEq, rxEq, txReports, rxReports⟩ := answered.leavesHalves
      refine halves.stepTx (by rw [txEq]; exact stepTo) rxEq ?_ ?_
      · rw [txEvents_append, txEvents_tx, txReports, List.append_nil]
      · rw [rxEvents_append, rxEvents_tx, rxReports, List.append_nil]
  | @rx action rx events _ reports _ stepTo answered =>
      obtain ⟨txEq, rxEq, txReports, rxReports⟩ := answered.leavesHalves
      refine halves.stepRx capacityLe (by rw [rxEq]; exact stepTo) admitted.1 txEq ?_ ?_
      · rw [txEvents_append, txEvents_rx, txReports, List.append_nil]
      · rw [rxEvents_append, rxEvents_rx, rxReports, List.append_nil]

end Halves

section Calls

/-- The `reserve` that `wait` has made is not over. -/
def BiDi.Calls (bidi : BiDi Out In E) : Prop :=
  ∀ call, bidi.wait.call = some call → TaskAt bidi.tx.tasks call ChannelCore.Pc.InReserve

theorem BiDi.Calls.move (calls : bidi.Calls) (move : BiDi.Move width bidi action next reports) :
    next.Calls := by
  cases move with
  | reserve called reserves =>
      obtain ⟨rfl, -⟩ := ChannelCore.reserve_spawns called
      intro call made
      cases reserves.call_eq.symm.trans made
      exact ChannelCore.taskAt_append.mpr (.inr ⟨rfl, trivial⟩)
  | tryDequeue called dequeues => exact fun call made => calls call (dequeues.call_eq ▸ made)
  | alone move => exact fun call made => calls call (move.call_eq made)
  | @tx action tx events _ _ allowed stepTo answered =>
      cases answered with
      | none unanswered =>
          intro call made
          have at_call := calls call made
          cases polls : bidi.wait.polls with
          | some other =>
              cases (WaitPc.call_of_polls polls).symm.trans made
              rcases (ChannelCore.step_transition stepTo).inReserve at_call with
                kept | ⟨idx, got⟩ | ⟨reason, refused⟩
              · exact kept
              · exact absurd got ((unanswered _ polls).1 idx)
              · exact absurd refused ((unanswered _ polls).2 reason)
          | none =>
              obtain ⟨task, at_task, inReserve⟩ := at_call
              refine ⟨task, ChannelCore.step_others stepTo ?_ at_task, inReserve⟩
              intro own
              have parked := WaitPc.parked_of_unpolled made polls
              simp [BiDi.allowsTx, own, parked] at allowed
      | ready | error | fall | disconnected =>
          intro call made
          cases made
  | rx _ _ answered =>
      cases answered with
      | none => exact calls
      | empty _ _ moves =>
          intro call made
          refine calls call ?_
          rcases moves with ⟨other, at_wait, rfl⟩ | ⟨at_wait, rfl⟩
          · rw [show bidi.wait = _ from at_wait]
            exact made
          · cases made
      | message | error | fall | disconnected =>
          intro call made
          cases made

end Calls

section Messages

/-- The receiver is in `try_dequeue` only for a `wait`, which returns every message. -/
structure BiDi.Receives (history : List (Report Out In E)) (bidi : BiDi Out In E) : Prop where
  idle : bidi.wait.dequeues = false → bidi.rx.rx = .idle
  messages : messages history = (ChannelCore.received (rxEvents history)).map Prod.snd

theorem TxAnswered.messages {events : List (ChannelCore.Event Out E)}
    (answered : TxAnswered bidi events next reports) : messages reports = [] := by
  cases answered <;> rfl

theorem RxAnswered.messages {rx : Channel In E} {events : List (ChannelCore.Event In E)}
    (answered : RxAnswered bidi events next reports)
    (transition : ChannelCore.Transition width rx events bidi.rx)
    (idle : bidi.wait.dequeues = false → rx.rx = .idle) :
    messages reports = (ChannelCore.received events).map Prod.snd := by
  cases answered with
  | none unanswered =>
      have unreceived : ChannelCore.received events = [] := by
        refine List.filterMap_eq_nil_iff.mpr fun event member => ?_
        cases event with
        | received idx message =>
            obtain ⟨-, busy, -⟩ := transition.dequeueAnswered member (.inr (.inl ⟨_, _, rfl⟩))
            cases quiet : bidi.wait.dequeues with
            | false => exact absurd (idle quiet) busy
            | true => cases unanswered quiet _ member
        | _ => rfl
      rw [unreceived]
      rfl
  | empty _ answered =>
      rw [(transition.dequeueAnswered answered (.inl rfl)).1]
      rfl
  | message _ answered =>
      rw [(transition.dequeueAnswered answered (.inr (.inl ⟨_, _, rfl⟩))).1]
      rfl
  | error _ answered | fall _ answered | disconnected _ answered =>
      rw [(transition.dequeueAnswered answered (.inr (.inr ⟨_, rfl⟩))).1]
      rfl

/-- After an answer the receiver is out of `try_dequeue`. -/
theorem RxAnswered.idle {rx : Channel In E} {events : List (ChannelCore.Event In E)}
    (answered : RxAnswered bidi events next reports)
    (transition : ChannelCore.Transition width rx events bidi.rx)
    (idle : bidi.wait.dequeues = false → bidi.rx.rx = .idle)
    (quiet : next.wait.dequeues = false) : next.rx.rx = .idle := by
  cases answered with
  | none => exact idle quiet
  | empty _ answered => exact (transition.dequeueAnswered answered (.inl rfl)).2.2
  | message _ answered =>
      exact (transition.dequeueAnswered answered (.inr (.inl ⟨_, _, rfl⟩))).2.2
  | error _ answered | fall _ answered | disconnected _ answered =>
      exact (transition.dequeueAnswered answered (.inr (.inr ⟨_, rfl⟩))).2.2

theorem BiDi.Receives.move (receives : bidi.Receives history)
    (move : BiDi.Move width bidi action next reports) : next.Receives (history ++ reports) := by
  cases move with
  | reserve called reserves =>
      rw [List.append_nil]
      exact ⟨fun _ => receives.idle reserves.quiet, receives.messages⟩
  | tryDequeue called dequeues =>
      rw [List.append_nil]
      exact ⟨fun quiet => absurd dequeues.dequeues (by simp [quiet]), receives.messages⟩
  | alone move =>
      rw [List.append_nil]
      exact ⟨fun _ => receives.idle move.quiet, receives.messages⟩
  | @tx action tx events next reports allowed stepTo answered =>
      obtain ⟨-, rxEq, -, unreceived⟩ := answered.leavesHalves
      refine ⟨fun quiet => rxEq ▸ receives.idle ?_, ?_⟩
      · cases answered with
        | none => exact quiet
        | ready polls | error polls => exact WaitPc.quiet_of_polls polls
        | fall at_wait | disconnected at_wait =>
            rw [show bidi.wait = _ from at_wait]
            rfl
      · rw [messages_append, messages_append, messages_tx, answered.messages, rxEvents_append,
          rxEvents_append, rxEvents_tx, unreceived, receives.messages]
        simp
  | @rx action rx events next reports allowed stepTo answered =>
      obtain ⟨-, -, -, unreceived⟩ := answered.leavesHalves
      have transition := ChannelCore.step_transition stepTo
      refine ⟨answered.idle transition fun quiet => ?_, ?_⟩
      · refine ChannelCore.rx_idle_kept (receives.idle quiet) stepTo ?_ ?_ <;>
          rintro rfl <;> cases allowed
      · rw [messages_append, messages_append, messages_rx,
          answered.messages transition receives.idle, rxEvents_append, rxEvents_append,
          rxEvents_rx, unreceived, receives.messages, ChannelCore.received_append]
        simp

end Messages

end Bidi

end Mgnp
