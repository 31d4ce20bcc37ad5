import Mgnp.ChannelTasks

/-!
# Waiting on a bidirectional channel

A `BiDi` is the sender of one tricky-pipe and the receiver of another.  This file translates
`BiDi::wait` over the two channels of `ChannelCore`, with every access to a shared atomic as
one step, so that the peers may act at any time.  `select_biased!` polls `reserve` first and
`recv` only while the reservation is pending.  Either arm falls through to the other half.

`SerBiDi::wait` is the same text over the same calls of the two cores.
-/

namespace Mgnp

namespace Bidi

open PositionWord

/-- `Event`, whose permit is the call of `reserve` that got it. -/
inductive Event (In : Type*)
  | recv (message : Option In)
  | sendReady (permit : Nat)
  deriving DecidableEq

inductive WaitError (E : Type*)
  | recv (error : E)
  | send (error : E)
  | disconnected
  deriving DecidableEq

abbrev WaitResult (In E : Type*) := Except (WaitError E) (Event In)

/-- `SendError` of a reservation. -/
inductive SendError (E : Type*)
  | disconnected
  | error (error : E)

inductive RecvError (E : Type*)
  | disconnected
  | error (error : E)

/-- What `poll_dequeue` makes of the answer of `try_dequeue`. -/
inductive Dequeue (In E : Type*)
  | ready (result : Except (RecvError E) (Option In))
  | empty

/-- Where a `recv` stands. -/
inductive RecvPc
  /-- In `poll_dequeue`, before `try_dequeue`. -/
  | polling
  | dequeuing
  /-- Before `cons_wait.poll_wait`. -/
  | empty
  | pending
  deriving DecidableEq

/-- Where a `wait` stands. -/
inductive WaitPc
  | idle
  /-- In `select_biased!`, polling `reserve`, which is this call of the send half. -/
  | reserving (call : Nat)
  /-- In `select_biased!`, polling `recv` while that call is pending. -/
  | receiving (call : Nat) (pc : RecvPc)
  /-- In the `recv().await` of the arm of `reserve`. -/
  | fallenToRecv (pc : RecvPc)
  /-- In the arm of `recv`, before its `reserve()`. -/
  | fallingToReserve
  /-- In the `reserve().await` of the arm of `recv`. -/
  | fallenToReserve (call : Nat)
  deriving DecidableEq

/-- The call of `reserve` that is not being polled. -/
def WaitPc.parked : WaitPc → Option Nat
  | .receiving call _ => some call
  | _ => none

structure BiDi (Out In E : Type*) where
  tx : ChannelCore.Channel Out E
  rx : ChannelCore.Channel In E
  /-- The handle of its `Sender`. -/
  sender : Nat
  seenRxError : Bool
  seenTxError : Bool
  wait : WaitPc
  /-- The calls of `reserve` whose futures have been dropped. -/
  dropped : List Nat

/-- `SerBiDi`, whose messages are those of the same two cores. -/
abbrev SerBiDi (Out In E : Type*) := BiDi Out In E

inductive Action (Out In E : Type*)
  | wait
  /-- The next step of `wait` outside of the channels, whose `cons_wait` may be ready. -/
  | runWait (ready : Bool)
  /-- The pending future of `wait` is dropped. -/
  | dropWait
  /-- A step of the send half, by a call that someone has made or by a peer. -/
  | tx (action : ChannelCore.Action Out E)
  | rx (action : ChannelCore.Action In E)

inductive Report (Out In E : Type*)
  | tx (event : ChannelCore.Event Out E)
  | rx (event : ChannelCore.Event In E)
  | returned (result : WaitResult In E)
  deriving DecidableEq

section Steps

variable {Out In E : Type*}

def SendError.ofReason : Option E → SendError E
  | none => .disconnected
  | some reason => .error reason

def RecvError.ofReason : Option E → RecvError E
  | none => .disconnected
  | some reason => .error reason

/-- What a call of `reserve` answers. -/
def reserveAnswer (call : Nat) : ChannelCore.Event Out E → Option (Except (SendError E) Nat)
  | .reserved task _ => if task = call then some (.ok call) else none
  | .sendClosed task reason => if task = call then some (.error (.ofReason reason)) else none
  | _ => none

/-- What `try_dequeue` answers. -/
def dequeueAnswer : ChannelCore.Event In E → Option (Dequeue In E)
  | .received _ message => some (.ready (.ok message))
  | .recvClosed reason => some (.ready (.error (.ofReason reason)))
  | .empty => some .empty
  | _ => none

namespace BiDi

/-- `BiDi::from_pair`. -/
def fromPair (tx : ChannelCore.Channel Out E) (rx : ChannelCore.Channel In E) (sender : Nat) :
    BiDi Out In E where
  tx := tx
  rx := rx
  sender := sender
  seenRxError := false
  seenTxError := false
  wait := .idle
  dropped := []

/-- `wait` returns. -/
def returns (bidi : BiDi Out In E) (result : WaitResult In E) :
    BiDi Out In E × List (Report Out In E) :=
  ({ bidi with wait := .idle }, [.returned result])

/-- The arm of `reserve` in `select_biased!`. -/
def reserveArm (bidi : BiDi Out In E) :
    Except (SendError E) Nat → BiDi Out In E × List (Report Out In E)
  | .ok permit => bidi.returns (.ok (.sendReady permit))
  | .error (.error error) =>
      if bidi.seenTxError then ({ bidi with wait := .fallenToRecv .polling }, [])
      else { bidi with seenTxError := true }.returns (.error (.send error))
  | .error .disconnected => ({ bidi with wait := .fallenToRecv .polling }, [])

/-- The end of that arm's `recv().await`, which tests no flag. -/
def recvFallen (bidi : BiDi Out In E) :
    Except (RecvError E) (Option In) → BiDi Out In E × List (Report Out In E)
  | .ok message => bidi.returns (.ok (.recv message))
  | .error .disconnected => bidi.returns (.error .disconnected)
  | .error (.error error) => { bidi with seenRxError := true }.returns (.error (.recv error))

/-- The arm of `recv` in `select_biased!`, which has dropped its `reserve`. -/
def recvArm (bidi : BiDi Out In E) :
    Except (RecvError E) (Option In) → BiDi Out In E × List (Report Out In E)
  | .ok message => bidi.returns (.ok (.recv message))
  | .error (.error error) =>
      if bidi.seenRxError then ({ bidi with wait := .fallingToReserve }, [])
      else { bidi with seenRxError := true }.returns (.error (.recv error))
  | .error .disconnected => ({ bidi with wait := .fallingToReserve }, [])

/-- The end of that arm's `reserve().await`, which tests no flag. -/
def reserveFallen (bidi : BiDi Out In E) :
    Except (SendError E) Nat → BiDi Out In E × List (Report Out In E)
  | .ok permit => bidi.returns (.ok (.sendReady permit))
  | .error .disconnected => bidi.returns (.error .disconnected)
  | .error (.error error) => { bidi with seenTxError := true }.returns (.error (.send error))

/-- `wait` goes on when its `reserve` is answered. -/
def observeTx (bidi : BiDi Out In E) (events : List (ChannelCore.Event Out E)) :
    BiDi Out In E × List (Report Out In E) :=
  match bidi.wait with
  | .reserving call =>
      match events.findSome? (reserveAnswer call) with
      | some answer => bidi.reserveArm answer
      | none => (bidi, [])
  | .fallenToReserve call =>
      match events.findSome? (reserveAnswer call) with
      | some answer => bidi.reserveFallen answer
      | none => (bidi, [])
  | _ => (bidi, [])

/-- `wait` goes on when its `try_dequeue` is answered. -/
def observeRx (bidi : BiDi Out In E) (events : List (ChannelCore.Event In E)) :
    BiDi Out In E × List (Report Out In E) :=
  match bidi.wait with
  | .receiving call .dequeuing =>
      match events.findSome? dequeueAnswer with
      | some (.ready result) => { bidi with dropped := call :: bidi.dropped }.recvArm result
      | some .empty => ({ bidi with wait := .receiving call .empty }, [])
      | none => (bidi, [])
  | .fallenToRecv .dequeuing =>
      match events.findSome? dequeueAnswer with
      | some (.ready result) => bidi.recvFallen result
      | some .empty => ({ bidi with wait := .fallenToRecv .empty }, [])
      | none => (bidi, [])
  | _ => (bidi, [])

/-- Call `reserve` on the send half. -/
def reserve (width : PointerWidth) (bidi : BiDi Out In E) (next : Nat → WaitPc) :
    Option (BiDi Out In E) :=
  (ChannelCore.step width bidi.tx (.reserve bidi.sender true)).map fun (tx, _) =>
    { bidi with tx := tx, wait := next bidi.tx.tasks.length }

/-- Call `try_dequeue` on the receive half. -/
def tryDequeue (width : PointerWidth) (bidi : BiDi Out In E) (next : WaitPc) :
    Option (BiDi Out In E) :=
  (ChannelCore.step width bidi.rx .tryRecv).map fun (rx, _) =>
    { bidi with rx := rx, wait := next }

/-- Whether a call of `reserve` is pending in `prod_wait`. -/
def reservePending (bidi : BiDi Out In E) (call : Nat) : Bool :=
  match bidi.tx.tasks[call]? with
  | some ⟨_, .waiting⟩ => !bidi.tx.core.prodWaitClosed
  | _ => false

/-- The next step of `wait` outside of the channels.  A `poll_dequeue` that finds nothing goes
round when its wait cell is `ready` and is pending otherwise; a pending future is polled again
later. -/
def runWait (width : PointerWidth) (bidi : BiDi Out In E) (ready : Bool) :
    Option (BiDi Out In E) :=
  match bidi.wait with
  | .reserving call =>
      if bidi.reservePending call then some { bidi with wait := .receiving call .polling }
      else none
  | .receiving call .polling => bidi.tryDequeue width (.receiving call .dequeuing)
  | .receiving call .empty =>
      some { bidi with wait := .receiving call (if ready then .polling else .pending) }
  | .receiving call .pending => some { bidi with wait := .reserving call }
  | .fallenToRecv .polling => bidi.tryDequeue width (.fallenToRecv .dequeuing)
  | .fallenToRecv .empty =>
      some { bidi with wait := .fallenToRecv (if ready then .polling else .pending) }
  | .fallenToRecv .pending => some { bidi with wait := .fallenToRecv .polling }
  | .fallingToReserve => bidi.reserve width .fallenToReserve
  | .idle | .receiving _ .dequeuing | .fallenToRecv .dequeuing | .fallenToReserve _ => none

/-- The pending future of `wait` is dropped, and its `reserve` with it. -/
def dropWait (bidi : BiDi Out In E) : Option (BiDi Out In E) :=
  match bidi.wait with
  | .receiving call .pending => some { bidi with wait := .idle, dropped := call :: bidi.dropped }
  | .fallenToRecv .pending => some { bidi with wait := .idle }
  | .fallenToReserve call =>
      if bidi.reservePending call then
        some { bidi with wait := .idle, dropped := call :: bidi.dropped }
      else none
  | _ => none

/-- Nobody but the owner uses its `Sender`, and `wait` borrows it.  A call of `reserve` goes on
only while it is polled. -/
def allowsTx (bidi : BiDi Out In E) (action : ChannelCore.Action Out E) : Bool :=
  (match action.task with
    | some task => !bidi.dropped.contains task && bidi.wait.parked != some task
    | none => true) &&
  match action with
  | .dropTx handle => handle != bidi.sender
  | .reserve handle _ | .cloneTx handle _ | .closeWithError (some handle) _ =>
      handle != bidi.sender || bidi.wait == .idle
  | _ => true

/-- Nobody but the owner uses its `Receiver`, and `wait` borrows it. -/
def allowsRx (bidi : BiDi Out In E) : ChannelCore.Action In E → Bool
  | .dropRx | .tryRecv => false
  | .closeWithError none _ => bidi.wait == .idle
  | _ => true

/-- A step of the send half, and `wait` if it awaits its answer. -/
def stepTx (width : PointerWidth) (bidi : BiDi Out In E) (action : ChannelCore.Action Out E) :
    Option (BiDi Out In E × List (Report Out In E)) :=
  if bidi.allowsTx action then
    (ChannelCore.step width bidi.tx action).map fun (tx, events) =>
      let (next, reports) := { bidi with tx := tx }.observeTx events
      (next, events.map .tx ++ reports)
  else none

/-- A step of the receive half, and `wait` if it awaits its answer. -/
def stepRx (width : PointerWidth) (bidi : BiDi Out In E) (action : ChannelCore.Action In E) :
    Option (BiDi Out In E × List (Report Out In E)) :=
  if bidi.allowsRx action then
    (ChannelCore.step width bidi.rx action).map fun (rx, events) =>
      let (next, reports) := { bidi with rx := rx }.observeRx events
      (next, events.map .rx ++ reports)
  else none

def step (width : PointerWidth) (bidi : BiDi Out In E) :
    Action Out In E → Option (BiDi Out In E × List (Report Out In E))
  | .wait =>
      match bidi.wait with
      | .idle => (bidi.reserve width .reserving).map (·, [])
      | _ => none
  | .runWait ready => (bidi.runWait width ready).map (·, [])
  | .dropWait => bidi.dropWait.map (·, [])
  | .tx action => bidi.stepTx width action
  | .rx action => bidi.stepRx width action

end BiDi

end Steps

end Bidi

end Mgnp
