import Mgnp.LabelledRuns
import Mgnp.PackedCounter
import Mgnp.PositionWord

/-!
# The handles of a tricky-pipe

A pipe is reached through handles: the `TrickyPipe` itself, senders and
receivers, each typed or erased.  This file translates the constructors,
clones, conversions and destructors of `arc_impl.rs`, `static_impl.rs` and
`mod.rs`, the counting part of `Core`, and the vtable of `ErasedPipe`, for both
implementations.  Each call is one step, and a run is any sequence of calls.

The wait cells that closing wakes are left out, as no handle reads them, and so
is the queue.
-/

namespace Mgnp

namespace PipeHandles

open PositionWord PackedCounter

/-- The size of a `usize`. -/
def usizeBits : PointerWidth → Nat
  | .bits32 => 32
  | .bits64 => 64

section State

variable (width : PointerWidth)

/-- `state::RX_CLAIMED.first_bit()`. -/
def rxClaimed : BitVec (usizeBits width) := BitVec.ofNat _ 1

/-- `state::ERRORING.first_bit()`. -/
def erroring : BitVec (usizeBits width) := BitVec.ofNat _ 2

/-- `state::ERRORED.first_bit()`. -/
def errored : BitVec (usizeBits width) := BitVec.ofNat _ 4

/-- `state::TX_SHIFT`: `TX_CNT` is what remains above the three flags. -/
def txShift : Nat := 3

/-- `state::TX_ONE`. -/
def txOne : BitVec (usizeBits width) := PackedCounter.one _ txShift

end State

/-- The fields of `Core` that handles touch.  Of the two position words these
are the `CLOSED` bits. -/
structure Core (width : PointerWidth) (E : Type*) where
  state : BitVec (usizeBits width)
  enqueueClosed : Bool
  dequeueClosed : Bool
  error : Option E

section Core

variable {width : PointerWidth} {E : Type*}

/-- `Core::new`. -/
def Core.new : Core width E where
  state := txOne width
  enqueueClosed := false
  dequeueClosed := false
  error := none

/-- `Core::try_claim_rx`, which answers whether it claimed the receiver. -/
def Core.tryClaimRx (core : Core width E) : Core width E × Bool :=
  ({ core with state := core.state ||| rxClaimed width },
    core.state &&& rxClaimed width == 0)

/-- `Core::close_rx`. -/
def Core.closeRx (core : Core width E) : Core width E :=
  { core with enqueueClosed := true }

/-- `Core::close_tx`. -/
def Core.closeTx (core : Core width E) : Core width E :=
  { core with dequeueClosed := true }

/-- `Core::close_with_error`. -/
def Core.closeWithError (core : Core width E) (error : E) : Core width E × Bool :=
  let claimed := { core with state := core.state ||| erroring width }
  if core.state &&& (erroring width ||| errored width) != 0 then (claimed, false)
  else
    let written := { claimed with error := some error }
    let set := { written with state := written.state ||| errored width }
    (set.closeRx.closeTx, true)

/-- `Core::add_tx`. -/
def Core.addTx (core : Core width E) : Core width E :=
  { core with state := core.state + txOne width }

/-- `Core::drop_tx`, which answers whether it closed the channel.  Nothing runs
between its subtraction and the load that its assertion checks. -/
def Core.dropTx (core : Core width E) : Core width E × Bool :=
  let refs := core.state >>> txShift
  let dropped := { core with state := core.state - txOne width }
  if refs == 1 then (dropped.closeTx, true) else (dropped, false)

/-- The `TX_CNT` field of the state word. -/
def Core.txCnt (core : Core width E) : Nat :=
  (core.state >>> txShift).toNat

end Core

/-- The two implementations of a pipe. -/
inductive Backing
  /-- `TrickyPipe`, whose shared state is in an `Arc`. -/
  | arc
  /-- `StaticTrickyPipe`, which lives in static storage. -/
  | static
  deriving DecidableEq, Repr

inductive Handle
  | trickyPipe
  | sender
  | deserSender
  | erasedSender
  | receiver
  | serReceiver
  deriving DecidableEq, Repr

/-- The handles whose destructor is `drop_tx`. -/
def Handle.sends : Handle → Bool
  | .trickyPipe | .sender | .deserSender | .erasedSender => true
  | .receiver | .serReceiver => false

/-- A pipe and its live handles, which are named by their positions. -/
structure Pipe (width : PointerWidth) (Ty E : Type*) where
  backing : Backing
  /-- `CoreVtable::type_id`. -/
  typeId : Ty
  core : Core width E
  /-- The strong count of the `Arc`. -/
  strong : Nat
  /-- Whether the `Arc` has freed the shared state. -/
  freed : Bool
  handles : List Handle

inductive Action (Ty E : Type*)
  /-- A method of the pipe, called through one of its `TrickyPipe` handles, or
  directly when the pipe is static. -/
  | sender (through : Option Nat)
  | deserSender (through : Option Nat)
  | receiver (through : Option Nat)
  | serReceiver (through : Option Nat)
  | clone (handle : Nat)
  | intoSerde (handle : Nat)
  | intoErased (handle : Nat)
  | downcast (handle : Nat) (typ : Ty)
  | closeWithError (handle : Nat) (error : E)
  | drop (handle : Nat)

inductive Event
  /-- `receiver` or `ser_receiver` returned `Some`. -/
  | claimed
  /-- `close_with_error` returned `true`. -/
  | erred
  /-- `drop_tx` closed the channel. -/
  | closedTx
  /-- `downcast` returned the handle. -/
  | downcastFailed
  deriving DecidableEq, Repr

section Pipe

variable {width : PointerWidth} {Ty E : Type*}

/-- `TrickyPipe::new` and `StaticTrickyPipe::new`. -/
def Pipe.new (backing : Backing) (typeId : Ty) : Pipe width Ty E where
  backing := backing
  typeId := typeId
  core := Core.new
  strong := match backing with
    | .arc => 1
    | .static => 0
  freed := false
  handles := match backing with
    | .arc => [.trickyPipe]
    | .static => []

/-- Whether a method of the pipe can be called this way. -/
def Pipe.Reaches (pipe : Pipe width Ty E) (through : Option Nat) : Prop :=
  match pipe.backing, through with
  | .arc, some handle => pipe.handles[handle]? = some .trickyPipe
  | .static, none => True
  | _, _ => False

instance (pipe : Pipe width Ty E) (through : Option Nat) :
    Decidable (pipe.Reaches through) :=
  match pipe, through with
  | ⟨.arc, _, _, _, _, handles⟩, some handle =>
      inferInstanceAs (Decidable (handles[handle]? = some .trickyPipe))
  | ⟨.arc, _, _, _, _, _⟩, none => inferInstanceAs (Decidable False)
  | ⟨.static, _, _, _, _, _⟩, none => inferInstanceAs (Decidable True)
  | ⟨.static, _, _, _, _, _⟩, some _ => inferInstanceAs (Decidable False)

/-- `erased_clone`, and the `Arc::clone` of `pipe` and of `TrickyPipe::clone`. -/
def Pipe.erasedClone (pipe : Pipe width Ty E) : Pipe width Ty E :=
  match pipe.backing with
  | .arc => { pipe with strong := pipe.strong + 1 }
  | .static => pipe

/-- `erased_drop`, and the drop of a `TrickyPipe`'s `Arc`. -/
def Pipe.erasedDrop (pipe : Pipe width Ty E) : Pipe width Ty E :=
  match pipe.backing with
  | .arc => { pipe with strong := pipe.strong - 1, freed := pipe.strong == 1 }
  | .static => pipe

/-- A new handle to the pipe, counted by `TypedPipe`'s vtable. -/
def Pipe.grant (pipe : Pipe width Ty E) (handle : Handle) : Pipe width Ty E :=
  { pipe.erasedClone with handles := pipe.handles ++ [handle] }

/-- `sender`, and each `clone` of a handle that sends. -/
def Pipe.addSender (pipe : Pipe width Ty E) (handle : Handle) : Pipe width Ty E :=
  { pipe with core := pipe.core.addTx }.grant handle

/-- `deser_sender`, which only the heap-backed pipe counts as a sender. -/
def Pipe.deserSender (pipe : Pipe width Ty E) : Pipe width Ty E :=
  match pipe.backing with
  | .arc => pipe.addSender .deserSender
  | .static => pipe.grant .deserSender

/-- `receiver` and `ser_receiver`. -/
def Pipe.claimReceiver (pipe : Pipe width Ty E) (handle : Handle) :
    Pipe width Ty E × List Event :=
  let (core, claimed) := pipe.core.tryClaimRx
  if claimed then ({ pipe with core := core }.grant handle, [.claimed])
  else ({ pipe with core := core }, [])

/-- `into_serde`, `into_erased` and the `Ok` branch of `downcast`: the pointer
is duplicated without counting, and the old handle is not dropped. -/
def Pipe.convert (pipe : Pipe width Ty E) (handle : Nat) (into : Handle) :
    Pipe width Ty E :=
  { pipe with handles := pipe.handles.set handle into }

/-- `DeserSender::downcast` and `SerReceiver::downcast`.  When `typed` returns
`None` it drops the duplicate that it was given. -/
def Pipe.downcast [DecidableEq Ty] (pipe : Pipe width Ty E) (handle : Nat) (into : Handle)
    (typ : Ty) : Pipe width Ty E × List Event :=
  if typ = pipe.typeId then (pipe.convert handle into, [])
  else (pipe.erasedDrop, [.downcastFailed])

/-- `close_with_error` of any handle. -/
def Pipe.closeWithError (pipe : Pipe width Ty E) (error : E) :
    Pipe width Ty E × List Event :=
  let (core, erred) := pipe.core.closeWithError error
  ({ pipe with core := core }, if erred then [.erred] else [])

/-- The handle's pointer is released after its own destructor has run. -/
def Pipe.release (pipe : Pipe width Ty E) (handle : Nat) : Pipe width Ty E :=
  { pipe.erasedDrop with handles := pipe.handles.eraseIdx handle }

/-- `Drop` of the handles that send. -/
def Pipe.dropSender (pipe : Pipe width Ty E) (handle : Nat) :
    Pipe width Ty E × List Event :=
  let (core, closed) := pipe.core.dropTx
  ({ pipe with core := core }.release handle, if closed then [.closedTx] else [])

/-- `Drop` of `Receiver` and `SerReceiver`. -/
def Pipe.dropReceiver (pipe : Pipe width Ty E) (handle : Nat) :
    Pipe width Ty E × List Event :=
  ({ pipe with core := pipe.core.closeRx }.release handle, [])

variable [DecidableEq Ty]

/-- One call.  Through freed memory there is none that means anything, so a
pipe that has been freed makes no more steps. -/
def Pipe.step (pipe : Pipe width Ty E) (action : Action Ty E) :
    Option (Pipe width Ty E × List Event) :=
  if pipe.freed then none
  else match action with
  | .sender through =>
      if pipe.Reaches through then some (pipe.addSender .sender, []) else none
  | .deserSender through =>
      if pipe.Reaches through then some (pipe.deserSender, []) else none
  | .receiver through =>
      if pipe.Reaches through then some (pipe.claimReceiver .receiver) else none
  | .serReceiver through =>
      if pipe.Reaches through then some (pipe.claimReceiver .serReceiver) else none
  | .clone handle =>
      match pipe.handles[handle]? with
      | some kind => if kind.sends then some (pipe.addSender kind, []) else none
      | none => none
  | .intoSerde handle =>
      match pipe.handles[handle]? with
      | some .sender => some (pipe.convert handle .deserSender, [])
      | some .receiver => some (pipe.convert handle .serReceiver, [])
      | _ => none
  | .intoErased handle =>
      match pipe.handles[handle]? with
      | some .sender => some (pipe.convert handle .erasedSender, [])
      | _ => none
  | .downcast handle typ =>
      match pipe.handles[handle]? with
      | some .deserSender => some (pipe.downcast handle .sender typ)
      | some .serReceiver => some (pipe.downcast handle .receiver typ)
      | _ => none
  | .closeWithError handle error =>
      match pipe.handles[handle]? with
      | none | some .trickyPipe => none
      | some _ => some (pipe.closeWithError error)
  | .drop handle =>
      match pipe.handles[handle]? with
      | some kind =>
          some (if kind.sends then pipe.dropSender handle else pipe.dropReceiver handle)
      | none => none

end Pipe

end PipeHandles

end Mgnp
