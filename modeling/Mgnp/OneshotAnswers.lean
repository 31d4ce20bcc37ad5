import Mgnp.OneshotOwners
import Mgnp.SoloCalls

/-!
# What the calls of a oneshot channel return

This file gives, for every step of the channel, the result that a call returns with
it.  A call of `sender`, `deser_sender` or `downcast_sender` that runs alone takes the
steps of the receiver until one of them returns.
-/

namespace Mgnp

namespace Oneshot

open LabelledRuns SoloCalls

inductive RecvError
  | noSender
  | closed
  deriving DecidableEq

inductive SenderError
  | senderAlreadyActive
  | closed
  deriving DecidableEq

/-- What a receive that succeeds returns. -/
inductive Received (T : Type*)
  | value (contents : Contents T)
  /-- An `ErasedRecvRef`. -/
  | ref (ref : Nat)
  deriving DecidableEq

inductive Answer (T : Type*)
  /-- `sender`, `deser_sender` or, with its error wrapped once more, `downcast_sender`. -/
  | sender (result : Except SenderError Nat)
  /-- `recv` or `recv_erased`. -/
  | recv (result : Except RecvError (Received T))
  /-- `send`, and whether it returned `Ok`. -/
  | send (sender : Nat) (delivered : Bool)
  deriving DecidableEq

variable {T : Type*} {channel next final : Channel T} {events history : List (Event T)}

/-- The error that the loop of `take_sender` returns when its compare-exchange found
this state. -/
def State.refusal (state : State) : Option SenderError :=
  if state.closed then some .closed
  else if state.hasTx then some .senderAlreadyActive
  else none

/-- What the end of a receive returns.  `take_sender` ignores its result. -/
def Purpose.answer (result : Except RecvError (Received T)) : Purpose → Option (Answer T)
  | .receive => some (.recv result)
  | .discard state => state.refusal.map fun error => .sender (.error error)

namespace Channel

/-- What the step of the receiver returns. -/
def rxAnswer (channel : Channel T) : Option (Answer T) :=
  match channel.rx with
  | .casting =>
      if channel.state = .ready then some (.sender (.ok channel.senderCount))
      else if channel.state.sent then none
      else channel.state.refusal.map fun error => .sender (.error error)
  | .polling purpose =>
      if channel.state.closed then purpose.answer (.error .closed)
      else if channel.state.sent then
        match channel.erased, purpose with
        | true, .receive => some (.recv (.ok (.ref channel.refCount)))
        | _, _ => none
      else if channel.state.hasTx then none
      else purpose.answer (.error .noSender)
  | .storing purpose contents => purpose.answer (.ok (.value contents))
  | .idle | .waiting _ | .taking _ | .dropping _ | .closing | .closingWait _
  | .droppingCell => none

/-- What the step of a sender returns. -/
def senderAnswer (channel : Channel T) (sender : Nat) : Option (Answer T) :=
  match channel.senders sender with
  | .finishing _ _ => if channel.state.closed then none else some (.send sender true)
  | .takingBack _ => some (.send sender false)
  | .gone | .unused | .writing _ _ | .waking | .droppingTx => none

def answer (channel : Channel T) : Action T → Option (Answer T)
  | .runRx => channel.rxAnswer
  | .runSender sender => channel.senderAnswer sender
  | .waitClosed =>
      match channel.rx with
      | .waiting purpose => purpose.answer (.error .closed)
      | _ => none
  | .send _ _ _ | .dropSender _ | .sender | .recv | .close | .intoErased | .woken | .cancel
  | .downcast _ | .dropRef _ | .runRef _ => none

end Channel

def RxPc.isIdle : RxPc T → Bool
  | .idle => true
  | .polling _ | .waiting _ | .taking _ | .dropping _ | .storing _ _ | .casting | .closing
  | .closingWait _ | .droppingCell => false

/-- The receiver is in the loop of `take_sender`. -/
def RxPc.casts : RxPc T → Bool
  | .casting => true
  | .idle | .polling _ | .waiting _ | .taking _ | .dropping _ | .storing _ _ | .closing
  | .closingWait _ | .droppingCell => false

theorem RxPc.eq_idle {rx : RxPc T} (idle : rx.isIdle = true) : rx = .idle := by
  cases rx <;> first | rfl | cases idle

theorem RxPc.eq_casting {rx : RxPc T} (casts : rx.casts = true) : rx = .casting := by
  cases rx <;> first | rfl | cases casts

theorem State.ne_ready_of_closed {state : State} (isClosed : state.closed = true) :
    state ≠ .ready := by
  rintro rfl
  cases isClosed

theorem State.refusal_eq_none {state : State} (isOpen : state.closed = false)
    (noTx : state.hasTx = false) : state.refusal = none := by
  simp [refusal, isOpen, noTx]

theorem State.refusal_closed {state : State} (isClosed : state.closed = true) :
    state.refusal = some .closed := by
  simp [refusal, isClosed]

theorem State.refusal_active {state : State} (isOpen : state.closed = false)
    (hasTx : state.hasTx = true) : state.refusal = some .senderAlreadyActive := by
  simp [refusal, isOpen, hasTx]

/-- The call of the receiver runs alone up to the step that returns. -/
abbrev Channel.Returns (channel : Channel T) (events : List (Event T)) (result : Answer T)
    (final : Channel T) : Prop :=
  Completes Channel.runRx Channel.rxAnswer channel events result final

end Oneshot

end Mgnp
