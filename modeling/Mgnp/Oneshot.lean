import Mathlib.Logic.Function.Basic
import Mgnp.LabelledRuns

/-!
# The reusable oneshot channel

This file translates `oneshot.rs`.  One access to the state byte, to the wait cell
or to the value cell is one step.  The receiver runs one operation at a time; its
senders and the references it returned take their steps at any time.  The wait
cell may answer every poll in every way.
-/

namespace Mgnp

namespace Oneshot

/-- The bits of `Header::state`. -/
structure State where
  hasRx : Bool
  hasTx : Bool
  rxWaiting : Bool
  sent : Bool
  closed : Bool
  deriving DecidableEq

namespace State

/-- `HAS_RX`. -/
def ready : State := ⟨true, false, false, false, false⟩

/-- `HAS_RX | HAS_TX`. -/
def taken : State := ⟨true, true, false, false, false⟩

/-- `CLOSED`. -/
def shut : State := ⟨false, false, false, false, true⟩

/-- A message waits to be received. -/
def holds (state : State) : Bool := state.sent && !state.closed

end State

/-- The contents of the value cell with the sender that wrote them. -/
abbrev Contents (T : Type*) : Type _ := Option (Nat × T)

/-- Where a `Sender` or a `DeserSender` stands. -/
inductive SenderPc (T : Type*)
  /-- Dropped, or not created yet. -/
  | gone
  | unused
  /-- `send` writing the cell. -/
  | writing (value : T) (deser : Bool)
  /-- `finish_write` before `fetch_or(SENT)`. -/
  | finishing (value : T) (deser : Bool)
  /-- `finish_write` before `wait.wake()`. -/
  | waking
  /-- A failed `send` reading the item back, or a `DeserSender` dropping it. -/
  | takingBack (deser : Bool)
  /-- `drop_tx` before `fetch_and(!HAS_TX)`. -/
  | droppingTx

/-- Why the channel is polled. -/
inductive Purpose
  /-- `recv` or `recv_erased`. -/
  | receive
  /-- `take_sender`, whose compare-exchange found this state. -/
  | discard (state : State)

/-- Where the receiver stands. -/
inductive RxPc (T : Type*)
  | idle
  /-- `poll_recv` before `fetch_or(RX_WAITING)`. -/
  | polling (purpose : Purpose)
  /-- `poll_recv` in `wait.poll_wait`, or its future waiting to be polled again. -/
  | waiting (purpose : Purpose)
  /-- `take_value` copying the value out of the cell. -/
  | taking (purpose : Purpose)
  /-- The discarded `ErasedRecvRef` dropping the value in the cell. -/
  | dropping (state : State)
  /-- Before `store(HAS_RX)`, with what was in the cell. -/
  | storing (purpose : Purpose) (contents : Contents T)
  /-- `take_sender` before its compare-exchange. -/
  | casting
  /-- `Header::close` before `swap(CLOSED)`. -/
  | closing
  /-- `Header::close` before `wait.close()`, with its result. -/
  | closingWait (drops : Bool)
  /-- `close` dropping the value in the cell. -/
  | droppingCell

/-- Where an `ErasedRecvRef` stands. -/
inductive RefPc
  /-- Dropped, or not created yet. -/
  | gone
  | held
  /-- `downcast` copying the value out of the cell. -/
  | taking
  /-- `drop` dropping the value in the cell. -/
  | dropping
  /-- Before `store(HAS_RX)`. -/
  | storing
  deriving DecidableEq

structure Channel (T : Type*) where
  state : State
  cell : Contents T
  senders : Nat → SenderPc T
  senderCount : Nat
  rx : RxPc T
  /-- Whether the receiver is an `ErasedReceiver`. -/
  erased : Bool
  refs : Nat → RefPc
  refCount : Nat

inductive Action (T : Type*)
  /-- `Sender::send`, or `DeserSender::send` of bytes that deserialize. -/
  | send (sender : Nat) (value : T) (deser : Bool)
  /-- Drop a sender, also when the bytes do not deserialize. -/
  | dropSender (sender : Nat)
  | runSender (sender : Nat)
  /-- `sender`, `deser_sender` or `downcast_sender`. -/
  | sender
  | recv
  | close
  | intoErased
  | runRx
  /-- `poll_wait` succeeds, or the future is polled again. -/
  | woken
  /-- `poll_wait` finds the wait cell closed. -/
  | waitClosed
  /-- The waiting future is dropped. -/
  | cancel
  | downcast (ref : Nat)
  | dropRef (ref : Nat)
  | runRef (ref : Nat)

inductive Event (T : Type*)
  | created (sender : Nat)
  /-- The send has succeeded. -/
  | sent (sender : Nat) (value : T)
  /-- `recv` returned what it found in the cell. -/
  | received (contents : Contents T)
  /-- `take_sender` threw away what it found in the cell. -/
  | tossed (contents : Contents T)
  /-- `close` swapped the state. -/
  | closed
  /-- The value in the cell was moved out. -/
  | movedOut (contents : Contents T)
  /-- The value in the cell was dropped in place. -/
  | droppedIn (contents : Contents T)
  deriving DecidableEq

namespace Channel

variable {T : Type*}

/-- `Receiver::new`. -/
def new (T : Type*) : Channel T where
  state := .ready
  cell := none
  senders _ := .gone
  senderCount := 0
  rx := .idle
  erased := false
  refs _ := .gone
  refCount := 0

def setSender (channel : Channel T) (sender : Nat) (pc : SenderPc T) : Channel T :=
  { channel with senders := Function.update channel.senders sender pc }

def setRef (channel : Channel T) (ref : Nat) (pc : RefPc) : Channel T :=
  { channel with refs := Function.update channel.refs ref pc }

/-- How the access to the cell is reported. -/
def useCell (channel : Channel T) (drops : Bool) : Event T :=
  if drops then .droppedIn channel.cell else .movedOut channel.cell

def runSender (channel : Channel T) (sender : Nat) :
    Option (Channel T × List (Event T)) :=
  match channel.senders sender with
  | .writing value deser =>
      some ({ channel.setSender sender (.finishing value deser) with
          cell := some (sender, value) }, [])
  | .finishing value deser =>
      let state := { channel.state with sent := true }
      if channel.state.closed then
        some ({ channel.setSender sender (.takingBack deser) with state := state }, [])
      else
        let pc := if channel.state.rxWaiting then .waking else .gone
        some ({ channel.setSender sender pc with state := state }, [.sent sender value])
  | .waking => some (channel.setSender sender .gone, [])
  | .takingBack deser => some (channel.setSender sender .droppingTx, [channel.useCell deser])
  | .droppingTx =>
      some ({ channel.setSender sender .gone with
          state := { channel.state with hasTx := false } }, [])
  | .gone | .unused => none

end Channel

/-- Where the receiver goes after a receive.  `take_sender` looks at the state that
its compare-exchange found, and tries again if that says nothing. -/
def Purpose.next {T : Type*} : Purpose → RxPc T
  | .receive => .idle
  | .discard state => if state.closed || state.hasTx then .idle else .casting

namespace Channel

variable {T : Type*}

def runRx (channel : Channel T) : Option (Channel T × List (Event T)) :=
  match channel.rx with
  | .casting =>
      if channel.state = .ready then
        some ({ channel.setSender channel.senderCount .unused with
            state := .taken
            senderCount := channel.senderCount + 1
            rx := .idle }, [.created channel.senderCount])
      else if channel.state.sent then
        some ({ channel with rx := .polling (.discard channel.state) }, [])
      else some ({ channel with rx := (Purpose.discard channel.state).next }, [])
  | .polling purpose =>
      let polled := { channel with state := { channel.state with rxWaiting := true } }
      if channel.state.closed then some ({ polled with rx := purpose.next }, [])
      else if channel.state.sent then
        match channel.erased, purpose with
        | false, _ => some ({ polled with rx := .taking purpose }, [])
        | true, .receive =>
            some ({ polled.setRef channel.refCount .held with
                refCount := channel.refCount + 1
                rx := .idle }, [])
        | true, .discard state => some ({ polled with rx := .dropping state }, [])
      else if channel.state.hasTx then some ({ polled with rx := .waiting purpose }, [])
      else some ({ polled with rx := purpose.next }, [])
  | .taking purpose =>
      some ({ channel with rx := .storing purpose channel.cell }, [channel.useCell false])
  | .dropping state =>
      some ({ channel with rx := .storing (.discard state) channel.cell },
        [channel.useCell true])
  | .storing purpose contents =>
      let event := match purpose with
        | .receive => .received contents
        | .discard _ => .tossed contents
      some ({ channel with state := .ready, rx := purpose.next }, [event])
  | .closing =>
      some ({ channel with
          state := .shut
          rx := .closingWait (channel.state.sent && !channel.state.hasTx) }, [.closed])
  | .closingWait drops =>
      -- A debug build panics here when the channel was closed already.
      some ({ channel with rx := if drops then .droppingCell else .idle }, [])
  | .droppingCell => some ({ channel with rx := .idle }, [channel.useCell true])
  | .idle | .waiting _ => none

def runRef (channel : Channel T) (ref : Nat) : Option (Channel T × List (Event T)) :=
  match channel.refs ref with
  | .taking => some (channel.setRef ref .storing, [channel.useCell false])
  | .dropping => some (channel.setRef ref .storing, [channel.useCell true])
  | .storing => some ({ channel.setRef ref .gone with state := .ready }, [])
  | .gone | .held => none

/-- The receiver begins an operation. -/
def start (channel : Channel T) (rx : RxPc T) : Option (Channel T) :=
  match channel.rx with
  | .idle => some { channel with rx := rx }
  | _ => none

def step (channel : Channel T) : Action T → Option (Channel T × List (Event T))
  | .send sender value deser =>
      match channel.senders sender with
      | .unused => some (channel.setSender sender (.writing value deser), [])
      | _ => none
  | .dropSender sender =>
      match channel.senders sender with
      | .unused => some (channel.setSender sender .droppingTx, [])
      | _ => none
  | .runSender sender => channel.runSender sender
  | .sender => (channel.start .casting).map (·, [])
  | .recv => (channel.start (.polling .receive)).map (·, [])
  | .close => (channel.start .closing).map (·, [])
  | .intoErased =>
      if channel.erased then none
      else (channel.start .idle).map fun next => ({ next with erased := true }, [])
  | .runRx => channel.runRx
  | .woken =>
      match channel.rx with
      | .waiting purpose => some ({ channel with rx := .polling purpose }, [])
      | _ => none
  | .waitClosed =>
      match channel.rx with
      | .waiting purpose => some ({ channel with rx := purpose.next }, [])
      | _ => none
  | .cancel =>
      match channel.rx with
      | .waiting _ => some ({ channel with rx := .idle }, [])
      | _ => none
  | .downcast ref =>
      match channel.refs ref with
      | .held => some (channel.setRef ref .taking, [])
      | _ => none
  | .dropRef ref =>
      match channel.refs ref with
      | .held => some (channel.setRef ref .dropping, [])
      | _ => none
  | .runRef ref => channel.runRef ref

end Channel

end Oneshot

end Mgnp
