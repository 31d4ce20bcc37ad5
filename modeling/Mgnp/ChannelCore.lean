import Mgnp.LabelledRuns
import Mgnp.PositionWord

/-!
# The tricky-pipe channel core

This file translates `Core` and `Reservation` of `channel_core.rs`.  Every
access to a shared atomic is one step, so a run of `step` is an interleaving
of the atomic steps of any number of sender handles, reservations and closers
with one receiver.  Calls in progress live in a pool of tasks that only grows,
so a task's index in the pool is its identity for the whole run.

`IndexAllocWord` and the wait cells come from other crates.  The allocator is
its set of free indices, and an allocation may answer any of them.  Calls to
the wait cells are reported as events; `reserve` may be woken at any time.
-/

namespace Mgnp

namespace ChannelCore

open PositionWord

/-- The fields of the `state` word that sending and closing use. -/
structure StateBits where
  erroring : Bool
  errored : Bool
  txCnt : Nat

structure Core (E : Type*) where
  dequeuePos : UInt16
  enqueuePos : UInt16
  /-- The free indices of the `IndexAllocWord`. -/
  indices : List Nat
  queue : Nat → UInt16
  state : StateBits
  capacity : Nat
  error : Option E
  /-- Whether `prod_wait.close()` has run. -/
  prodWaitClosed : Bool

/-- `Core::new`. -/
def Core.new {E : Type*} (width : PointerWidth) (capacity : Nat) : Core E where
  dequeuePos := 0
  enqueuePos := 0
  indices := List.range capacity
  queue slot := UInt16.ofNat slot <<< posShift width
  state := { erroring := false, errored := false, txCnt := 1 }
  capacity := capacity
  error := none
  prodWaitClosed := false

/-- `Core::close_reason`. -/
def Core.closeReason {E : Type*} (core : Core E) : Option E :=
  if core.state.errored then core.error else none

/-- The slot that a position word names. -/
def slotOf (width : PointerWidth) (pos : UInt16) : Nat :=
  (pos &&& mask width).toNat

/-- The comparison made by `commit_send` after loading the slot of `tail`. -/
def Core.commitOrder {E : Type*} (width : PointerWidth) (core : Core E)
    (tail : UInt16) : Ordering :=
  let pos := tail >>> posShift width
  let seq := core.queue (slotOf width pos) >>> posShift width
  compare (signedDif seq pos) 0

/-- The comparison made by `try_dequeue` after loading the slot of `head`. -/
def Core.dequeueOrder {E : Type*} (width : PointerWidth) (core : Core E)
    (head : UInt16) : Ordering :=
  let pos := head >>> posShift width
  let seq := core.queue (slotOf width pos) >>> posShift width
  compare (signedDif seq (pos + 1)) 0

/-- Where a call, a reservation or a closer stands.  Each constructor names
the next shared access, with the local variables that are live there. -/
inductive Pc (E : Type*)
  /-- `try_reserve`, or `reserve` when `blocking`, before loading `enqueue_pos`. -/
  | reserving (blocking : Bool)
  /-- A reservation call found the channel closed; before `close_reason`. -/
  | reserveClosed
  | allocating (blocking : Bool)
  /-- `reserve` awaiting `prod_wait.wait()`. -/
  | waiting
  /-- A send reservation, held by a `Permit`. -/
  | permit (idx : Nat)
  /-- `commit_send` before loading `enqueue_pos`. -/
  | committing (idx : Nat)
  /-- `commit_send` holding `tail`, before loading its slot. -/
  | examining (idx : Nat) (tail : UInt16)
  /-- `commit_send` before its compare-exchange. -/
  | claiming (idx : Nat) (tail : UInt16)
  /-- `commit_send` found the channel closed; before `close_reason`. -/
  | commitClosed (idx : Nat)
  /-- `commit_send` won position `pos`; before its slot store. -/
  | storing (idx : Nat) (pos : UInt16)
  /-- `commit_send` before `cons_wait.wake()`. -/
  | waking
  /-- A reservation returned by `try_dequeue`. -/
  | received (idx : Nat)
  /-- `Reservation::drop` before `indices.free`. -/
  | freeing (fromReceiver : Bool) (idx : Nat)
  /-- `Reservation::drop` before `prod_wait.wake()`. -/
  | freed
  /-- The index of a `commit_send` that did not succeed: its destructor never
  runs. -/
  | retired (idx : Nat)
  | finished
  /-- `close_with_error` before setting `ERRORING`. -/
  | erroring (error : E)
  | writingError (error : E)
  | settingErrored
  /-- `close_rx` before setting `CLOSED` in `enqueue_pos`. -/
  | closingRx (thenTx : Bool)
  | closingProdWait (thenTx : Bool)
  /-- `close_tx` before setting `CLOSED` in `dequeue_pos`. -/
  | closingTx (byError : Bool)
  | closingConsWait (byError : Bool)
  /-- `drop_tx` before its `fetch_sub`. -/
  | droppingTx
  /-- `drop_tx` of the last sender, before its acquiring `fetch_or(0)`. -/
  | lastTxDropped

/-- A call in progress and the sender handle it borrows. -/
structure Task (E : Type*) where
  handle : Option Nat
  pc : Pc E

/-- Where the receiver stands inside `try_dequeue`. -/
inductive RxPc
  | idle
  | loading
  | examining (head : UInt16)
  | claiming (head val : UInt16)
  /-- `try_dequeue` won its compare-exchange; before handing the slot on. -/
  | releasing (head val : UInt16)
  /-- `try_dequeue` found the channel closed; before `close_reason`. -/
  | closing
  | dropped
  deriving DecidableEq

/-- A channel of `T`-typed messages with everything that acts on it. -/
structure Channel (T E : Type*) where
  core : Core E
  /-- The element cells of the pipe. -/
  elements : Nat → Option T
  /-- The live sender handles, the `TrickyPipe` itself among them. -/
  handles : List Nat
  tasks : List (Task E)
  rx : RxPc

/-- A new `TrickyPipe`, whose receiver has been claimed. -/
def Channel.new {T E : Type*} (width : PointerWidth) (capacity : Nat) :
    Channel T E where
  core := Core.new width capacity
  elements _ := none
  handles := [0]
  tasks := []
  rx := .idle

inductive Event (T E : Type*)
  | reserved (task idx : Nat)
  | full (task : Nat)
  /-- A send call answered `Error` with this error, or `Disconnected`. -/
  | sendClosed (task : Nat) (reason : Option E)
  /-- A successful compare-exchange on `enqueue_pos`. -/
  | committed (task idx : Nat) (message : Option T)
  | stored (task : Nat)
  | sendOk (task : Nat)
  /-- `commit_send` reached its `unreachable!` arm. -/
  | panicked (task : Nat)
  | received (idx : Nat) (message : Option T)
  | empty
  /-- `try_dequeue` answered `Error` with this error, or `Disconnected`. -/
  | recvClosed (reason : Option E)
  | closeResult (task : Nat) (closed : Bool)
  | wakeCons
  | wakeProd
  | closeCons
  | closeProd
  deriving DecidableEq

/-- What moves next, and what its environment answers. -/
inductive Action (T E : Type*)
  /-- Call `try_reserve`, or `reserve` when `blocking`. -/
  | reserve (handle : Nat) (blocking : Bool)
  /-- Call `close_with_error` on a sender handle or on the receiver. -/
  | closeWithError (handle : Option Nat) (error : E)
  | cloneTx (handle copy : Nat)
  | dropTx (handle : Nat)
  | dropRx
  | tryRecv
  /-- The next atomic step of a task. -/
  | run (task : Nat)
  /-- The allocator answers `idx`. -/
  | allocate (task idx : Nat)
  /-- `compare_exchange_weak` fails although the word is unchanged. -/
  | spurious (task : Nat)
  /-- The wait queue wakes a `reserve` call. -/
  | woken (task : Nat)
  | write (task : Nat) (value : T)
  | commit (task : Nat)
  /-- Drop a permit or a received reservation. -/
  | release (task : Nat)
  /-- The next atomic step of the receiver. -/
  | runRx
  | spuriousRx

section Steps

variable {T E : Type*}

/-- A call that has returned, or never will, borrows nothing any more. -/
def Pc.done : Pc E → Bool
  | .finished | .retired _ => true
  | _ => false

/-- The sender handle that a task still borrows. -/
def Task.borrows (task : Task E) : Option Nat :=
  if task.pc.done then none else task.handle

/-- Whether a reservation returned by `try_dequeue` is still alive. -/
def Pc.borrowsRx : Pc E → Bool
  | .received _ | .freeing true _ => true
  | _ => false

/-- Move task `i`, which borrows `handle`, on to `pc`. -/
def Channel.goto (channel : Channel T E) (i : Nat) (handle : Option Nat)
    (pc : Pc E) : Channel T E :=
  { channel with tasks := channel.tasks.set i ⟨handle, pc⟩ }

/-- Start a new task. -/
def Channel.spawn (channel : Channel T E) (task : Task E) : Channel T E :=
  { channel with tasks := channel.tasks ++ [task] }

/-- The next atomic step of task `i`, where it depends on no answer from
outside. -/
def runTask (width : PointerWidth) (channel : Channel T E) (i : Nat)
    (task : Task E) : Option (Channel T E × List (Event T E)) :=
  let core := channel.core
  match task.pc with
  | .reserving blocking =>
      if core.enqueuePos &&& closed = closed then
        some (channel.goto i task.handle .reserveClosed, [])
      else
        some (channel.goto i task.handle (.allocating blocking), [])
  | .reserveClosed =>
      some (channel.goto i task.handle .finished, [.sendClosed i core.closeReason])
  | .allocating blocking =>
      if core.indices = [] then
        if blocking then some (channel.goto i task.handle .waiting, [])
        else some (channel.goto i task.handle .finished, [.full i])
      else none
  | .waiting =>
      if core.prodWaitClosed then some (channel.goto i task.handle .reserveClosed, [])
      else none
  | .committing idx =>
      some (channel.goto i task.handle (.examining idx core.enqueuePos), [])
  | .examining idx tail =>
      if tail &&& closed = closed then
        some (channel.goto i task.handle (.commitClosed idx), [])
      else
        match core.commitOrder width tail with
        | .lt => some (channel.goto i task.handle (.retired idx), [.panicked i])
        | .eq => some (channel.goto i task.handle (.claiming idx tail), [])
        | .gt => some (channel.goto i task.handle (.committing idx), [])
  | .claiming idx tail =>
      if core.enqueuePos = tail then
        let pos := tail >>> posShift width
        some ({ channel.goto i task.handle (.storing idx pos) with
            core := { core with enqueuePos := tail + posOne width } },
          [.committed i idx (channel.elements idx)])
      else
        some (channel.goto i task.handle (.examining idx core.enqueuePos), [])
  | .commitClosed idx =>
      some (channel.goto i task.handle (.retired idx), [.sendClosed i core.closeReason])
  | .storing idx pos =>
      let new := (pos + 1) <<< posShift width
      some ({ channel.goto i task.handle .waking with
          core := { core with
            queue := Function.update core.queue (slotOf width pos)
              (UInt16.ofNat idx ||| new) } },
        [.stored i])
  | .waking => some (channel.goto i task.handle .finished, [.wakeCons, .sendOk i])
  | .freeing _ idx =>
      some ({ channel.goto i task.handle .freed with
          core := { core with indices := idx :: core.indices } }, [])
  | .freed => some (channel.goto i task.handle .finished, [.wakeProd])
  | .erroring error =>
      let next : Channel T E := { channel with
        core := { core with state := { core.state with erroring := true } } }
      if core.state.erroring || core.state.errored then
        some (next.goto i task.handle .finished, [.closeResult i false])
      else
        some (next.goto i task.handle (.writingError error), [])
  | .writingError error =>
      some ({ channel.goto i task.handle .settingErrored with
          core := { core with error := some error } }, [])
  | .settingErrored =>
      some ({ channel.goto i task.handle (.closingRx true) with
          core := { core with state := { core.state with errored := true } } }, [])
  | .closingRx thenTx =>
      some ({ channel.goto i task.handle (.closingProdWait thenTx) with
          core := { core with enqueuePos := core.enqueuePos ||| closed } }, [])
  | .closingProdWait thenTx =>
      let next : Pc E := if thenTx then .closingTx true else .finished
      some ({ channel.goto i task.handle next with
          core := { core with prodWaitClosed := true } }, [.closeProd])
  | .closingTx byError =>
      some ({ channel.goto i task.handle (.closingConsWait byError) with
          core := { core with dequeuePos := core.dequeuePos ||| closed } }, [])
  | .closingConsWait byError =>
      some (channel.goto i task.handle .finished,
        .closeCons :: if byError then [.closeResult i true] else [])
  | .droppingTx =>
      let refs := core.state.txCnt
      let next : Pc E := if refs = 1 then .lastTxDropped else .finished
      some ({ channel.goto i task.handle next with
          core := { core with state := { core.state with txCnt := refs - 1 } } }, [])
  | .lastTxDropped => some (channel.goto i task.handle (.closingTx false), [])
  | .permit _ | .received _ | .retired _ | .finished => none

/-- The next atomic step of `try_dequeue`. -/
def runRx (width : PointerWidth) (channel : Channel T E) :
    Option (Channel T E × List (Event T E)) :=
  let core := channel.core
  match channel.rx with
  | .loading => some ({ channel with rx := .examining core.dequeuePos }, [])
  | .examining head =>
      match core.dequeueOrder width head with
      | .lt =>
          if head &&& closed ≠ 0 then some ({ channel with rx := .closing }, [])
          else some ({ channel with rx := .idle }, [.empty])
      | .eq =>
          let val := core.queue (slotOf width (head >>> posShift width))
          some ({ channel with rx := .claiming head val }, [])
      | .gt => some ({ channel with rx := .loading }, [])
  | .claiming head val =>
      if core.dequeuePos = head then
        some ({ channel with
          core := { core with dequeuePos := head + posOne width }
          rx := .releasing head val }, [])
      else
        some ({ channel with rx := .examining core.dequeuePos }, [])
  | .releasing head val =>
      let idx := (val &&& mask width).toNat
      let slot := slotOf width (head >>> posShift width)
      some ({ channel.spawn ⟨none, .received idx⟩ with
          core := { core with
            queue := Function.update core.queue slot (val + lapOne width) }
          rx := .idle },
        [.received idx (channel.elements idx)])
  | .closing =>
      some ({ channel with rx := .idle }, [.recvClosed core.closeReason])
  | .idle | .dropped => none

/-- One step of the channel under the chosen action. -/
def step (width : PointerWidth) (channel : Channel T E) :
    Action T E → Option (Channel T E × List (Event T E))
  | .reserve handle blocking =>
      if handle ∈ channel.handles then
        some (channel.spawn ⟨some handle, .reserving blocking⟩, [])
      else none
  | .closeWithError handle error =>
      match handle with
      | some sender =>
          if sender ∈ channel.handles then
            some (channel.spawn ⟨some sender, .erroring error⟩, [])
          else none
      | none =>
          if channel.rx = .dropped then none
          else some (channel.spawn ⟨none, .erroring error⟩, [])
  | .cloneTx handle copy =>
      if handle ∈ channel.handles ∧ copy ∉ channel.handles then
        some ({ channel with
          core := { channel.core with
            state := { channel.core.state with
              txCnt := channel.core.state.txCnt + 1 } }
          handles := channel.handles ++ [copy] }, [])
      else none
  | .dropTx handle =>
      if handle ∈ channel.handles ∧
          ∀ task ∈ channel.tasks, task.borrows ≠ some handle then
        some ({ channel.spawn ⟨none, .droppingTx⟩ with
          handles := channel.handles.erase handle }, [])
      else none
  | .dropRx =>
      match channel.rx with
      | .idle =>
          if ∀ task ∈ channel.tasks, task.pc.borrowsRx = false then
            some ({ channel.spawn ⟨none, .closingRx false⟩ with rx := .dropped }, [])
          else none
      | _ => none
  | .tryRecv =>
      match channel.rx with
      | .idle => some ({ channel with rx := .loading }, [])
      | _ => none
  | .run i =>
      match channel.tasks[i]? with
      | some task => runTask width channel i task
      | none => none
  | .allocate i idx =>
      match channel.tasks[i]? with
      | some ⟨handle, .allocating _⟩ =>
          if idx ∈ channel.core.indices then
            some ({ channel.goto i handle (.permit idx) with
                core := { channel.core with
                  indices := channel.core.indices.erase idx } },
              [.reserved i idx])
          else none
      | _ => none
  | .spurious i =>
      match channel.tasks[i]? with
      | some ⟨handle, .claiming idx _⟩ =>
          some (channel.goto i handle (.examining idx channel.core.enqueuePos), [])
      | _ => none
  | .woken i =>
      match channel.tasks[i]? with
      | some ⟨handle, .waiting⟩ =>
          some (channel.goto i handle (.reserving true), [])
      | _ => none
  | .write i value =>
      match channel.tasks[i]? with
      | some ⟨_, .permit idx⟩ =>
          some ({ channel with
            elements := Function.update channel.elements idx (some value) }, [])
      | _ => none
  | .commit i =>
      match channel.tasks[i]? with
      | some ⟨handle, .permit idx⟩ =>
          some (channel.goto i handle (.committing idx), [])
      | _ => none
  | .release i =>
      match channel.tasks[i]? with
      | some ⟨handle, .permit idx⟩ =>
          some (channel.goto i handle (.freeing false idx), [])
      | some ⟨handle, .received idx⟩ =>
          some (channel.goto i handle (.freeing true idx), [])
      | _ => none
  | .runRx => runRx width channel
  | .spuriousRx =>
      match channel.rx with
      | .claiming _ _ =>
          some ({ channel with rx := .examining channel.core.dequeuePos }, [])
      | _ => none

end Steps

end ChannelCore

end Mgnp
