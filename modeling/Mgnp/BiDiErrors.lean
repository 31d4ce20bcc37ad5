import Mgnp.BiDiWaits

/-!
# The errors that `wait` returns

The flags of a `BiDi` tell which of its two errors `wait` has returned.  `reserve` is polled
first, so `wait` never awaits a send half whose error it has returned.  Nothing keeps it from
falling through to such a receive half, and then it returns the error again.
-/

namespace Mgnp

namespace Bidi

open LabelledRuns PositionWord
open ChannelCore (Channel TaskAt Drained)

variable {Out In E : Type*} {width : PointerWidth} {txCapacity rxCapacity : Nat}
  {txPast : List (ChannelCore.Event Out E)} {rxPast : List (ChannelCore.Event In E)}
  {bidi next : BiDi Out In E} {action : Action Out In E}
  {history reports : List (Report Out In E)}

/-- Both halves are closed, everything sent to the receive half has been received, and the errors
of both halves have been returned. -/
structure Exhausted (rxPast : List (ChannelCore.Event In E)) (history : List (Report Out In E))
    (bidi : BiDi Out In E) : Prop where
  txClosed : HasClosed bidi.tx.core.enqueuePos
  rxClosed : HasClosed bidi.rx.core.dequeuePos
  drained : Drained (rxPast ++ rxEvents history)
  sendError : ∀ error, bidi.tx.core.closeReason = some error → error ∈ sendErrors history
  recvError : ∀ error, bidi.rx.core.closeReason = some error → error ∈ recvErrors history

/-- What the calls of `wait` have returned: the messages of the receive half in order, each
error at most once, and `Disconnected` only when nothing is left. -/
structure WaitReports (width : PointerWidth) (admits : BiDi Out In E → Action Out In E → Prop)
    (rxPast : List (ChannelCore.Event In E)) (history : List (Report Out In E))
    (bidi : BiDi Out In E) : Prop where
  messages : messages history = (ChannelCore.received (rxEvents history)).map Prod.snd
  inOrder : ChannelCore.received (rxPast ++ rxEvents history) <+:
    (ChannelCore.committed (rxPast ++ rxEvents history)).map Prod.snd
  sendError : (sendErrors history).length ≤ 1
  recvError : (recvErrors history).length ≤ 1
  disconnected : ∀ action next reports, admits bidi action →
    bidi.step width action = some (next, reports) →
    .returned (.error .disconnected) ∈ reports → Exhausted rxPast (history ++ reports) next

section Errors

/-- What has been returned of the error that a half was closed with. -/
structure Returned (seen : Bool) (reason : Option E) (isClosed : Prop) (errors : List E) :
    Prop where
  errors : errors = if seen then reason.toList else []
  closed : seen = true → reason.isSome = true ∧ isClosed

/-- A closed half without an error that is still to be returned. -/
structure Over (seen : Bool) (reason : Option E) (isClosed : Prop) : Prop where
  isClosed : isClosed
  returned : reason.isSome = true → seen = true

theorem Returned.step {seen : Bool} {before after : Option E} {closed closed' : Prop}
    {errors : List E} (returned : Returned seen before closed errors) (closes : closed → closed')
    (read : after = before ∨ before = none) : Returned seen after closed' errors := by
  cases seen with
  | false => exact ⟨returned.errors, by simp⟩
  | true =>
      obtain ⟨some, isClosed⟩ := returned.closed rfl
      rcases read with rfl | rfl
      · exact ⟨returned.errors, fun _ => ⟨some, closes isClosed⟩⟩
      · cases some

theorem Returned.length_le {seen : Bool} {reason : Option E} {closed : Prop} {errors : List E}
    (returned : Returned seen reason closed errors) : errors.length ≤ 1 := by
  rw [returned.errors]
  split
  · cases reason <;> simp
  · simp

theorem Returned.first {reason : Option E} {closed closed' : Prop} {errors : List E} {error : E}
    (returned : Returned false reason closed errors) (isClosed : closed') :
    Returned true (some error) closed' (errors ++ [error]) :=
  ⟨by simp [returned.errors], fun _ => ⟨rfl, isClosed⟩⟩

theorem Over.mem {seen : Bool} {reason : Option E} {closed closed' : Prop} {errors : List E}
    {error : E} (ended : Over seen reason closed) (returned : Returned seen reason closed' errors)
    (read : reason = some error) : error ∈ errors := by
  subst read
  rw [returned.errors, ended.returned rfl]
  exact List.mem_singleton_self _

namespace BiDi

def TxReturned (history : List (Report Out In E)) (bidi : BiDi Out In E) : Prop :=
  Returned bidi.seenTxError bidi.tx.core.closeReason (HasClosed bidi.tx.core.enqueuePos)
    (sendErrors history)

def RxReturned (history : List (Report Out In E)) (bidi : BiDi Out In E) : Prop :=
  Returned bidi.seenRxError bidi.rx.core.closeReason (HasClosed bidi.rx.core.dequeuePos)
    (recvErrors history)

def TxOver (bidi : BiDi Out In E) : Prop :=
  Over bidi.seenTxError bidi.tx.core.closeReason (HasClosed bidi.tx.core.enqueuePos)

def RxOver (bidi : BiDi Out In E) : Prop :=
  Over bidi.seenRxError bidi.rx.core.closeReason (HasClosed bidi.rx.core.dequeuePos)

/-- What `wait` knows where it stands.  Polling `reserve` first, it comes to poll `recv` only
while the error of the send half has not been returned. -/
def Facts (drained : Prop) (bidi : BiDi Out In E) : WaitPc → Prop
  | .idle => True
  | .reserving call =>
      bidi.seenTxError = true → ¬ TaskAt bidi.tx.tasks call ChannelCore.Pc.Passed
  | .receiving _ _ => bidi.seenTxError = false
  | .fallenToRecv _ => bidi.seenRxError = false ∧ bidi.TxOver
  | .fallingToReserve | .fallenToReserve _ =>
      bidi.seenTxError = false ∧ bidi.RxOver ∧ drained

/-- The flags tell which errors have been returned. -/
structure Honest (drained : Prop) (history : List (Report Out In E)) (bidi : BiDi Out In E) :
    Prop where
  tx : bidi.TxReturned history
  rx : bidi.RxReturned history
  facts : bidi.Facts drained bidi.wait

theorem TxReturned.silent (returned : bidi.TxReturned history)
    (reports : List (Report Out In E)) (silent : sendErrors reports = []) :
    bidi.TxReturned (history ++ reports) := by
  rw [TxReturned, sendErrors_append, silent, List.append_nil]
  exact returned

theorem RxReturned.silent (returned : bidi.RxReturned history)
    (reports : List (Report Out In E)) (silent : recvErrors reports = []) :
    bidi.RxReturned (history ++ reports) := by
  rw [RxReturned, recvErrors_append, silent, List.append_nil]
  exact returned

variable {drained drained' : Prop} {tx : Channel Out E} {rx : Channel In E}
  {txEvents : List (ChannelCore.Event Out E)} {rxEvents : List (ChannelCore.Event In E)}

theorem Honest.stepTx (honest : bidi.Honest drained history)
    (transition : ChannelCore.Transition width bidi.tx txEvents tx)
    (read : tx.core.closeReason = bidi.tx.core.closeReason ∨
      bidi.wait.awaitsRecv = false ∧ bidi.tx.core.closeReason = none) :
    { bidi with tx := tx }.Honest drained history := by
  have sent : { bidi with tx := tx }.TxReturned history :=
    Returned.step honest.tx transition.enqueue_closed (read.imp_right And.right)
  have facts := honest.facts
  refine ⟨sent, honest.rx, ?_⟩
  show Facts drained { bidi with tx := tx } bidi.wait
  cases at_wait : bidi.wait with
  | idle => trivial
  | reserving call =>
      rw [at_wait] at facts
      exact fun seen passed => facts seen (transition.passed (honest.tx.closed seen).2 passed)
  | receiving call pc =>
      rw [at_wait] at facts
      exact facts
  | fallenToRecv pc =>
      rw [at_wait] at facts read
      rcases read with same | ⟨elsewhere, -⟩
      · refine ⟨facts.1, transition.enqueue_closed facts.2.isClosed, fun some => ?_⟩
        exact facts.2.returned (same ▸ some)
      · cases elsewhere
  | fallingToReserve | fallenToReserve call =>
      rw [at_wait] at facts
      exact facts

theorem Honest.stepRx (honest : bidi.Honest drained history)
    (transition : ChannelCore.Transition width bidi.rx rxEvents rx)
    (read : rx.core.closeReason = bidi.rx.core.closeReason ∨
      bidi.wait.awaitsReserve = false ∧ bidi.rx.core.closeReason = none)
    (drains : HasClosed bidi.rx.core.dequeuePos → drained → drained') :
    { bidi with rx := rx }.Honest drained' history := by
  have got : { bidi with rx := rx }.RxReturned history :=
    Returned.step honest.rx transition.dequeue_closed (read.imp_right And.right)
  have facts := honest.facts
  have stays (away : bidi.wait.awaitsReserve = true) (ended : bidi.RxOver) :
      { bidi with rx := rx }.RxOver := by
    rcases read with same | ⟨elsewhere, -⟩
    · exact ⟨transition.dequeue_closed ended.isClosed, fun some => ended.returned (same ▸ some)⟩
    · cases away.symm.trans elsewhere
  refine ⟨honest.tx, got, ?_⟩
  show Facts drained' { bidi with rx := rx } bidi.wait
  cases at_wait : bidi.wait with
  | idle => trivial
  | reserving call | receiving call pc | fallenToRecv pc =>
      rw [at_wait] at facts
      exact facts
  | fallingToReserve | fallenToReserve call =>
      rw [at_wait] at facts
      exact ⟨facts.1, stays (by rw [at_wait]; rfl) facts.2.1,
        drains facts.2.1.isClosed facts.2.2⟩

/-- An answer of the send half, which told `wait` the truth. -/
theorem Honest.txAnswered (honest : bidi.Honest drained history)
    (answered : TxAnswered bidi txEvents next reports)
    (told : ∀ call reason, .sendClosed call reason ∈ txEvents →
      HasClosed bidi.tx.core.enqueuePos ∧ bidi.tx.core.closeReason = reason)
    (falls : ∀ call reason, bidi.wait = .reserving call → .sendClosed call reason ∈ txEvents →
      (reason.isSome = true → bidi.seenTxError = true) → bidi.seenRxError = false) :
    next.Honest drained (history ++ reports) := by
  have sent := honest.tx.silent reports
  have got := honest.rx.silent reports
  cases answered with
  | none => exact ⟨sent rfl, got rfl, honest.facts⟩
  | ready => exact ⟨sent rfl, got rfl, trivial⟩
  | @error call error polls refused unseen =>
      have unreturned : bidi.seenTxError = false := by
        have facts := honest.facts
        cases at_wait : bidi.wait with
        | reserving other =>
            rw [at_wait] at polls
            cases polls
            exact unseen at_wait
        | fallenToReserve other =>
            rw [at_wait] at facts
            exact facts.1
        | _ =>
            rw [at_wait] at polls
            cases polls
      obtain ⟨isClosed, read⟩ := told _ _ refused
      refine ⟨?_, got rfl, trivial⟩
      have before := honest.tx
      rw [TxReturned, unreturned] at before
      rw [TxReturned, sendErrors_append, read]
      exact before.first isClosed
  | fall at_wait refused seen =>
      obtain ⟨isClosed, read⟩ := told _ _ refused
      exact ⟨sent rfl, got rfl, falls _ _ at_wait refused seen, isClosed, read ▸ seen⟩
  | disconnected => exact ⟨sent rfl, got rfl, trivial⟩

/-- An answer of the receive half, which told `wait` the truth. -/
theorem Honest.rxAnswered (honest : bidi.Honest drained history)
    (answered : RxAnswered bidi rxEvents next reports)
    (told : ∀ reason, .recvClosed reason ∈ rxEvents →
      (HasClosed bidi.rx.core.dequeuePos ∧ drained) ∧ bidi.rx.core.closeReason = reason) :
    next.Honest drained (history ++ reports) := by
  have sent := honest.tx.silent reports
  have got := honest.rx.silent reports
  have facts := honest.facts
  cases answered with
  | none => exact ⟨sent rfl, got rfl, facts⟩
  | empty _ _ moves =>
      refine ⟨sent rfl, got rfl, ?_⟩
      rcases moves with ⟨call, at_wait, rfl⟩ | ⟨at_wait, rfl⟩ <;> rw [at_wait] at facts <;>
        exact facts
  | message => exact ⟨sent rfl, got rfl, trivial⟩
  | @error error dropped dequeues answered unseen =>
      have unreturned : bidi.seenRxError = false := by
        by_cases at_wait : bidi.wait = .fallenToRecv .dequeuing
        · rw [at_wait] at facts
          exact facts.1
        · exact unseen at_wait
      obtain ⟨⟨isClosed, -⟩, read⟩ := told _ answered
      refine ⟨sent rfl, ?_, trivial⟩
      have before := honest.rx
      rw [RxReturned, unreturned] at before
      rw [RxReturned, recvErrors_append, read]
      exact before.first isClosed
  | fall at_wait answered seen =>
      obtain ⟨⟨isClosed, drains⟩, read⟩ := told _ answered
      rw [at_wait] at facts
      exact ⟨sent rfl, got rfl, facts, ⟨isClosed, read ▸ seen⟩, drains⟩
  | disconnected => exact ⟨sent rfl, got rfl, trivial⟩

theorem Honest.alone (honest : bidi.Honest drained history) {wait : WaitPc}
    (move : WaitMove bidi bidi.wait wait) {dropped : List Nat} :
    { bidi with wait := wait, dropped := dropped }.Honest drained history := by
  refine ⟨honest.tx, honest.rx, ?_⟩
  have facts := honest.facts
  show bidi.Facts drained wait
  revert move facts
  generalize bidi.wait = before
  rintro move facts
  cases move with
  | @park call pending =>
      refine Bool.eq_false_iff.mpr fun seen => facts seen ?_
      unfold reservePending at pending
      split at pending
      · rename_i at_call
        exact ⟨_, at_call, trivial⟩
      · cases pending
  | polled => exact facts
  | again => exact fun seen => absurd seen (Bool.eq_false_iff.mp facts)
  | fallen => exact facts
  | drop => trivial

end BiDi

end Errors

section Reports

/-- Everything that is known after a run. -/
structure WaitInv (width : PointerWidth) (txCapacity rxCapacity : Nat)
    (txPast : List (ChannelCore.Event Out E)) (rxPast : List (ChannelCore.Event In E))
    (history : List (Report Out In E)) (bidi : BiDi Out In E) : Prop where
  halves : Halves width txCapacity rxCapacity txPast rxPast history bidi
  calls : bidi.Calls
  receives : bidi.Receives history
  honest : bidi.Honest (Drained (rxPast ++ rxEvents history)) history

/-- A refused `reserve` is told the truth. -/
theorem WaitInv.sendTold
    (inv : WaitInv width txCapacity rxCapacity txPast rxPast history bidi)
    {action : ChannelCore.Action Out E} {tx : Channel Out E}
    {events : List (ChannelCore.Event Out E)}
    (stepTo : ChannelCore.step width bidi.tx action = some (tx, events)) (call : Nat)
    (reason : Option E) (refused : .sendClosed call reason ∈ events) :
    HasClosed tx.core.enqueuePos ∧ tx.core.closeReason = reason := by
  have transition := ChannelCore.step_transition stepTo
  obtain ⟨same, rfl⟩ := transition.sendRefused refused
  have closing := ChannelCore.closingInv_run ChannelCore.closingInv_new inv.halves.tx
  exact ⟨transition.enqueue_closed (transition.sendClosed closing refused), by rw [same]⟩

/-- A closed receive half stays drained. -/
theorem WaitInv.drains (capacityLe : rxCapacity ≤ maxCapacity width)
    (inv : WaitInv width txCapacity rxCapacity txPast rxPast history bidi)
    {action : ChannelCore.Action In E} {rx : Channel In E}
    {events : List (ChannelCore.Event In E)}
    (stepTo : ChannelCore.step width bidi.rx action = some (rx, events))
    (isClosed : HasClosed bidi.rx.core.dequeuePos)
    (drained : Drained (rxPast ++ rxEvents history)) :
    Drained ((rxPast ++ rxEvents history) ++ events) := by
  have transition := ChannelCore.step_transition stepTo
  have drain := inv.halves.drain
  exact ((drain.represents.transition capacityLe transition).drained drained
    (transition.uncommitted drain.closing drain.senders (drain.senders.dequeue isClosed))).1

/-- A refused `try_dequeue` is told the truth, and nothing is left to receive. -/
theorem WaitInv.recvTold (capacityLe : rxCapacity ≤ maxCapacity width)
    (inv : WaitInv width txCapacity rxCapacity txPast rxPast history bidi)
    {action : ChannelCore.Action In E} {rx : Channel In E}
    {events : List (ChannelCore.Event In E)}
    (stepTo : ChannelCore.step width bidi.rx action = some (rx, events))
    (reason : Option E) (refused : .recvClosed reason ∈ events) :
    (HasClosed rx.core.dequeuePos ∧ Drained ((rxPast ++ rxEvents history) ++ events)) ∧
      rx.core.closeReason = reason := by
  have transition := ChannelCore.step_transition stepTo
  obtain ⟨same, rfl⟩ := transition.recvRefused refused
  obtain ⟨-, closing⟩ := transition.recvClosed refused
  have isClosed : HasClosed bidi.rx.core.dequeuePos := by
    have seen := inv.halves.dequeueSeen
    rwa [ChannelCore.Channel.DequeueSeen, closing] at seen
  exact ⟨⟨transition.dequeue_closed isClosed,
    inv.drains capacityLe stepTo isClosed (inv.halves.drain.drained closing)⟩, by rw [same]⟩

/-- A refusal that makes the arm of `reserve` fall through is such a step. -/
theorem WaitInv.fallsThrough
    (inv : WaitInv width txCapacity rxCapacity txPast rxPast history bidi)
    {action : ChannelCore.Action Out E} {tx : Channel Out E}
    {events : List (ChannelCore.Event Out E)}
    (stepTo : ChannelCore.step width bidi.tx action = some (tx, events)) {call : Nat}
    {reason : Option E} (at_wait : bidi.wait = .reserving call)
    (refused : .sendClosed call reason ∈ events)
    (seen : reason.isSome = true → bidi.seenTxError = true) :
    bidi.fallsThrough action = true := by
  have transition := ChannelCore.step_transition stepTo
  obtain ⟨-, rfl⟩ := transition.sendRefused refused
  obtain ⟨⟨handle, pc⟩, at_call, rfl⟩ :=
    transition.refused (inv.calls call (by rw [at_wait]; rfl)) refused
  obtain rfl := ChannelCore.run_of_ranBy stepTo refused rfl
  simp only [BiDi.fallsThrough, at_wait, at_call, beq_self_eq_true, Bool.true_and]
  cases read : bidi.tx.core.closeReason with
  | none => simp
  | some error => simp [seen (by rw [read]; rfl)]

theorem WaitInv.honest_tx
    (inv : WaitInv width txCapacity rxCapacity txPast rxPast history bidi)
    {action : ChannelCore.Action Out E} {tx : Channel Out E}
    {events : List (ChannelCore.Event Out E)} (admitted : bidi.reportsOnce width (.tx action))
    (stepTo : ChannelCore.step width bidi.tx action = some (tx, events))
    (answered : TxAnswered { bidi with tx := tx } events next reports) :
    next.Honest (Drained (rxPast ++ rxEvents (history ++ (events.map .tx ++ reports))))
      (history ++ (events.map .tx ++ reports)) := by
  have read := ChannelCore.closeReason_step inv.halves.tx stepTo
  have moved := inv.honest.stepTx (ChannelCore.step_transition stepTo)
    (read.imp_right (.imp_left admitted.2))
  have silent : { bidi with tx := tx }.Honest (Drained (rxPast ++ rxEvents history))
      (history ++ events.map Report.tx) :=
    ⟨moved.tx.silent _ (sendErrors_tx events), moved.rx.silent _ (recvErrors_tx events),
      moved.facts⟩
  have after := silent.txAnswered answered (inv.sendTold stepTo)
    fun call reason at_wait refused seen =>
      admitted.1 (inv.fallsThrough stepTo at_wait refused seen)
  rw [rxEvents_append, rxEvents_append, rxEvents_tx, answered.leavesHalves.2.2.2,
    List.append_nil, List.append_nil, ← List.append_assoc]
  exact after

theorem WaitInv.honest_rx (capacityLe : rxCapacity ≤ maxCapacity width)
    (inv : WaitInv width txCapacity rxCapacity txPast rxPast history bidi)
    {action : ChannelCore.Action In E} {rx : Channel In E}
    {events : List (ChannelCore.Event In E)} (admitted : bidi.reportsOnce width (.rx action))
    (stepTo : ChannelCore.step width bidi.rx action = some (rx, events))
    (answered : RxAnswered { bidi with rx := rx } events next reports) :
    next.Honest (Drained (rxPast ++ rxEvents (history ++ (events.map .rx ++ reports))))
      (history ++ (events.map .rx ++ reports)) := by
  have read := ChannelCore.closeReason_step inv.halves.rx stepTo
  have moved := inv.honest.stepRx (ChannelCore.step_transition stepTo)
    (read.imp_right (.imp_left admitted.2)) (inv.drains capacityLe stepTo)
  have silent : { bidi with rx := rx }.Honest (Drained ((rxPast ++ rxEvents history) ++ events))
      (history ++ events.map Report.rx) :=
    ⟨moved.tx.silent _ (sendErrors_rx events), moved.rx.silent _ (recvErrors_rx events),
      moved.facts⟩
  have after := silent.rxAnswered answered (inv.recvTold capacityLe stepTo)
  rw [rxEvents_append, rxEvents_append, rxEvents_rx, answered.leavesHalves.2.2.2,
    List.append_nil, ← List.append_assoc, ← List.append_assoc]
  exact after

theorem WaitInv.honest_move (capacityLe : rxCapacity ≤ maxCapacity width)
    (inv : WaitInv width txCapacity rxCapacity txPast rxPast history bidi)
    (admitted : bidi.reportsOnce width action)
    (move : BiDi.Move width bidi action next reports) :
    next.Honest (Drained (rxPast ++ rxEvents (history ++ reports))) (history ++ reports) := by
  have honest := inv.honest
  cases move with
  | reserve called reserves =>
      obtain ⟨rfl, -⟩ := ChannelCore.reserve_spawns called
      rw [List.append_nil]
      refine ⟨honest.tx, honest.rx, ?_⟩
      have facts := honest.facts
      generalize bidi.wait = before at reserves facts
      cases reserves with
      | wait =>
          -- The new call has not looked at `enqueue_pos`.
          intro seen passed
          rcases ChannelCore.taskAt_append.mp passed with inside | ⟨-, passed⟩
          · exact Nat.lt_irrefl _ inside.lt_length
          · exact passed
      | fall => exact facts
  | tryDequeue called dequeues =>
      obtain ⟨rfl, -⟩ := ChannelCore.tryRecv_eq called
      rw [List.append_nil]
      refine ⟨honest.tx, honest.rx, ?_⟩
      have facts := honest.facts
      generalize bidi.wait = before at dequeues facts
      cases dequeues <;> exact facts
  | alone move =>
      rw [List.append_nil]
      exact honest.alone move
  | tx _ stepTo answered => exact inv.honest_tx admitted stepTo answered
  | rx _ stepTo answered => exact inv.honest_rx capacityLe admitted stepTo answered

/-- `wait` returns `Disconnected` when nothing is left. -/
theorem WaitInv.exhausted (capacityLe : rxCapacity ≤ maxCapacity width)
    (inv : WaitInv width txCapacity rxCapacity txPast rxPast history bidi)
    (move : BiDi.Move width bidi action next reports)
    (disconnected : .returned (.error .disconnected) ∈ reports) :
    Exhausted rxPast (history ++ reports) next := by
  have facts := inv.honest.facts
  cases move with
  | reserve | tryDequeue | alone => cases disconnected
  | @tx action tx events next reports allowed stepTo answered =>
      cases answered with
      | none | fall | ready | error => simp at disconnected
      | disconnected at_wait refused =>
          rw [show bidi.wait = _ from at_wait] at facts
          obtain ⟨isClosed, read⟩ := inv.sendTold stepTo _ _ refused
          refine ⟨isClosed, facts.2.1.isClosed, ?_, ?_, ?_⟩
          · simpa [rxEvents_append, rxEvents] using facts.2.2
          · intro error found
            cases found.symm.trans read
          · intro error found
            have returned := facts.2.1.mem inv.honest.rx found
            simp [returned]
  | @rx action rx events next reports allowed stepTo answered =>
      cases answered with
      | none | empty | fall | message | error => simp at disconnected
      | disconnected at_wait refused =>
          rw [show bidi.wait = _ from at_wait] at facts
          obtain ⟨⟨isClosed, drained⟩, read⟩ := inv.recvTold capacityLe stepTo _ refused
          refine ⟨facts.2.isClosed, isClosed, ?_, ?_, ?_⟩
          · rw [rxEvents_append, rxEvents_append, rxEvents_rx, ← List.append_assoc,
              ← List.append_assoc]
            exact (List.append_nil (rxPast ++ rxEvents history ++ events)).symm ▸ drained
          · intro error found
            have returned := facts.2.mem inv.honest.tx found
            simp [returned]
          · intro error found
            cases found.symm.trans read

theorem waitInv_run (capacityLe : rxCapacity ≤ maxCapacity width) {tx : Channel Out E}
    {rx : Channel In E} {sender : Nat}
    (txRun : Run (ChannelCore.step width) anyStep (.new width txCapacity) txPast tx)
    (rxRun : Run (ChannelCore.step width) anyStep (.new width rxCapacity) rxPast rx)
    (idle : rx.rx = .idle)
    (run : Run (BiDi.step width) (BiDi.reportsOnce width) (.fromPair tx rx sender) history bidi) :
    WaitInv width txCapacity rxCapacity txPast rxPast history bidi := by
  refine run.invariant (WaitInv width txCapacity rxCapacity txPast rxPast) ?_ ?_
  · constructor
    · constructor
      · exact (List.append_nil txPast).symm ▸ txRun
      · exact (List.append_nil rxPast).symm ▸ rxRun
      · exact (List.append_nil rxPast).symm ▸ ChannelCore.drainInv_of_idle capacityLe rxRun idle
      · exact ChannelCore.dequeueSeen_run rxRun
    · intro call made
      cases made
    · exact ⟨fun _ => idle, rfl⟩
    · exact ⟨⟨rfl, by simp [BiDi.fromPair]⟩, ⟨rfl, by simp [BiDi.fromPair]⟩, trivial⟩
  · intro past reports bidi next action inv admitted stepTo
    have move := BiDi.step_move stepTo
    exact ⟨inv.halves.move capacityLe admitted move, inv.calls.move move,
      inv.receives.move move, inv.honest_move capacityLe admitted move⟩

/-- In every run whose steps meet `reportsOnce`, from any two ends that were used before, `wait`
returns the messages of the receive half in order, each error at most once, and `Disconnected`
only when nothing is left. -/
theorem waits_report_once (capacityLe : rxCapacity ≤ maxCapacity width) {tx : Channel Out E}
    {rx : Channel In E} {sender : Nat}
    (txRun : Run (ChannelCore.step width) anyStep (.new width txCapacity) txPast tx)
    (rxRun : Run (ChannelCore.step width) anyStep (.new width rxCapacity) rxPast rx)
    (idle : rx.rx = .idle)
    (run : Run (BiDi.step width) (BiDi.reportsOnce width) (.fromPair tx rx sender) history bidi) :
    WaitReports width (BiDi.reportsOnce width) rxPast history bidi := by
  have inv := waitInv_run capacityLe txRun rxRun idle run
  refine ⟨inv.receives.messages, inv.halves.drain.represents.received_in_order,
    inv.honest.tx.length_le, inv.honest.rx.length_le, ?_⟩
  intro action next reports admitted stepTo disconnected
  exact inv.exhausted capacityLe (BiDi.step_move stepTo) disconnected

/-- Steps of the send half and then of the receive half. -/
def peers (tx rx : List (ChannelCore.Action Nat Nat)) : List (Action Nat Nat Nat) :=
  tx.map .tx ++ rx.map .rx

/-- A `wait` that finds the send half closed. -/
def waitRefused (call : Nat) : List (Action Nat Nat Nat) :=
  [.wait, .tx (.run call), .tx (.run call)]

/-- Such a `wait` that falls through, and `try_dequeue` answers after `count` steps. -/
def waitFalls (call count : Nat) : List (Action Nat Nat Nat) :=
  waitRefused call ++ .runWait false :: List.replicate count (.rx .runRx)

/-- The send half is closed with an error.  A message is sent to the receive half, whose last
sender is dropped. -/
def peersLeave : List (Action Nat Nat Nat) :=
  peers [.closeWithError none 3, .run 0, .run 0, .run 0, .run 0, .run 0, .run 0, .run 0]
    [.reserve 0 false, .run 0, .allocate 0 0, .write 0 7, .commit 0, .run 0, .run 0, .run 0,
      .run 0, .run 0, .dropTx 0, .run 1, .run 1, .run 1, .run 1]

theorem waits_report_once_peersLeave :
    ∃ (history : List (Report Nat Nat Nat)) (bidi : BiDi Nat Nat Nat),
      results history = [.error (.send 3), .ok (.recv (some 7)), .error .disconnected] ∧
        WaitReports .bits64 (BiDi.reportsOnce .bits64) [] history bidi := by
  obtain ⟨history, bidi, run, seen⟩ :=
    exists_run_of_exec (BiDi.step .bits64) (BiDi.reportsOnce .bits64)
      (.fromPair (.new .bits64 1) (.new .bits64 1) 0 : BiDi Nat Nat Nat)
      (peersLeave ++ waitRefused 1 ++ waitFalls 2 4 ++ waitFalls 3 3)
      (fun reached => results reached.2)
      (show _ = some [.error (.send 3), .ok (.recv (some 7)), .error .disconnected] by
        decide +kernel)
  exact ⟨history, bidi, seen, waits_report_once (by decide) .refl .refl rfl run⟩

/-- The receiver of the send half is dropped, and the receive half is closed with an error.  Two
calls of `wait` return the error twice. -/
theorem not_waits_report_once :
    ¬ ∀ (history : List (Report Nat Nat Nat)) (bidi : BiDi Nat Nat Nat),
      Run (BiDi.step .bits64) anyStep (.fromPair (.new .bits64 1) (.new .bits64 1) 0) history
        bidi → WaitReports .bits64 anyStep [] history bidi := by
  intro always
  obtain ⟨history, bidi, run, seen⟩ :=
    exists_run_of_exec (BiDi.step .bits64) anyStep
      (.fromPair (.new .bits64 1) (.new .bits64 1) 0 : BiDi Nat Nat Nat)
      (peers [.dropRx, .run 0, .run 0]
          [.closeWithError (some 0) 5, .run 0, .run 0, .run 0, .run 0, .run 0, .run 0, .run 0] ++
        waitFalls 1 3 ++ waitFalls 2 3)
      (fun reached => recvErrors reached.2) (show _ = some [5, 5] by decide +kernel)
  have once := (always history bidi run).recvError
  rw [show recvErrors history = [5, 5] from seen] at once
  exact absurd once (by decide)

end Reports

end Bidi

end Mgnp
