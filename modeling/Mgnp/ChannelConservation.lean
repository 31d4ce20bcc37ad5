import Mgnp.ChannelMessages
import Mgnp.PoolStock

/-!
# Messages are conserved by the steps of the channel

A message is carried by the task that sends it until it is committed, and after
it has been received it lies in its cell until the received reservation is
dropped.  Both stocks change only at the boundary: a commit takes a message out
of the first, and the receiver puts one into the second.
-/

namespace Mgnp

namespace ChannelCore

open LabelledRuns PositionWord PoolStock

variable {T E : Type*} {width : PointerWidth} {capacity : Nat}
  {channel next : Channel T E} {history events : List (Event T E)}

/-- The index of a received reservation whose message has not been consumed. -/
def Pc.delivering : Pc E → Option Nat
  | .received idx => some idx
  | _ => none

/-- The contents of the cells that a part of the tasks refer to. -/
def Channel.stock (channel : Channel T E) (part : Pc E → Option Nat) : Multiset (Option T) :=
  PoolStock.stock (fun task : Task E => (part task.pc).map channel.elements) channel.tasks

/-- The messages of the sends that have not been decided. -/
def Channel.carried (channel : Channel T E) : Multiset (Option T) := channel.stock Pc.carrying

/-- The messages that have been received and not consumed. -/
def Channel.delivered (channel : Channel T E) : Multiset (Option T) :=
  channel.stock Pc.delivering

def committedMessages (history : List (Event T E)) : Multiset (Option T) :=
  ↑((committed history).map fun item => item.2.2)

def receivedMessages (history : List (Event T E)) : Multiset (Option T) :=
  ↑((received history).map Prod.snd)

theorem committedMessages_append (first second : List (Event T E)) :
    committedMessages (first ++ second) =
      committedMessages first + committedMessages second := by
  simp [committedMessages, committed]

theorem receivedMessages_append (first second : List (Event T E)) :
    receivedMessages (first ++ second) =
      receivedMessages first + receivedMessages second := by
  simp [receivedMessages, received]

section Stocks

variable {part : Pc E → Option Nat} {k : Nat} {handle : Option Nat} {old new : Pc E}

theorem stock_spawn (channel : Channel T E) (part : Pc E → Option Nat) (task : Task E) :
    (channel.spawn task).stock part =
      channel.stock part + single ((part task.pc).map channel.elements) :=
  stock_append

theorem stock_goto (at_k : channel.tasks[k]? = some ⟨handle, old⟩) (part : Pc E → Option Nat)
    (new : Pc E) :
    (channel.goto k handle new).stock part + single ((part old).map channel.elements) =
      channel.stock part + single ((part new).map channel.elements) :=
  PoolStock.stock_set at_k

theorem stock_goto_same (at_k : channel.tasks[k]? = some ⟨handle, old⟩)
    (same : part new = part old) :
    (channel.goto k handle new).stock part = channel.stock part := by
  have moved := stock_goto at_k part new
  rw [same] at moved
  exact add_right_cancel moved

end Stocks

/-- The step leaves permits and received reservations to their holders, and a
`commit_send` finds its slot free. -/
structure Undisturbed (width : PointerWidth) (channel next : Channel T E) : Prop where
  permit : ∀ {k : Nat} {handle : Option Nat} {idx : Nat},
    channel.tasks[k]? = some ⟨handle, .permit idx⟩ →
    next.tasks[k]? = some ⟨handle, .permit idx⟩
  received : ∀ {k : Nat} {handle : Option Nat} {idx : Nat},
    channel.tasks[k]? = some ⟨handle, .received idx⟩ →
    next.tasks[k]? = some ⟨handle, .received idx⟩
  decided : ∀ {k : Nat} {handle : Option Nat} {idx : Nat} {tail : UInt16},
    channel.tasks[k]? = some ⟨handle, .examining idx tail⟩ →
    next.tasks[k]? ≠ some ⟨handle, .examining idx tail⟩ →
    tail &&& closed ≠ closed ∧ channel.core.commitOrder width tail ≠ .lt

section Transitions

/-- What one step does to both stocks. -/
structure Conserves (channel next : Channel T E) (events : List (Event T E)) : Prop where
  carried : next.carried + committedMessages events = channel.carried
  delivered : next.delivered = channel.delivered + receivedMessages events

/-- A step without commits and receipts that moves no message. -/
theorem Conserves.of_silent (carried : next.carried = channel.carried)
    (delivered : next.delivered = channel.delivered)
    (silent : ∀ event ∈ events, (∀ i idx message, event ≠ .committed i idx message) ∧
      ∀ idx message, event ≠ .received idx message) :
    Conserves channel next events := by
  have noCommit : committed events = [] := by
    rw [committed, List.filterMap_eq_nil_iff]
    intro event member
    cases event with
    | committed i idx message => exact absurd rfl ((silent _ member).1 i idx message)
    | _ => rfl
  have noReceipt : received events = [] := by
    rw [received, List.filterMap_eq_nil_iff]
    intro event member
    cases event with
    | received idx message => exact absurd rfl ((silent _ member).2 idx message)
    | _ => rfl
  constructor
  · rw [carried, committedMessages, noCommit]
    simp
  · rw [delivered, receivedMessages, noReceipt]
    simp

theorem LocalMove.silent {core : Core E} {i : Nat} {pc pc' : Pc E}
    (move : LocalMove width core i pc pc' events) :
    ∀ event ∈ events, (∀ k idx message, event ≠ .committed k idx message) ∧
      ∀ idx message, event ≠ .received idx message := by
  cases move with
  | @closeConsWait byError => cases byError <;> simp
  | _ => simp

theorem StateMove.silent {core core' : Core E} {i : Nat} {pc pc' : Pc E}
    (move : StateMove core i pc pc' core' events) :
    ∀ event ∈ events, (∀ k idx message, event ≠ .committed k idx message) ∧
      ∀ idx message, event ≠ .received idx message := by
  cases move <;> simp

theorem RxMove.silent {core : Core E} {rx rx' : RxPc}
    (move : RxMove width core rx rx' events) :
    ∀ event ∈ events, (∀ k idx message, event ≠ .committed k idx message) ∧
      ∀ idx message, event ≠ .received idx message := by
  cases move <;> simp

/-- A move of a task that neither begins nor loses a commit, nor consumes a
received message. -/
theorem Conserves.of_goto {k : Nat} {handle : Option Nat} {old new : Pc E}
    (at_k : channel.tasks[k]? = some ⟨handle, old⟩)
    (tasks : next.tasks = channel.tasks.set k ⟨handle, new⟩)
    (elements : next.elements = channel.elements)
    (carrying : new.carrying = old.carrying) (delivering : new.delivering = old.delivering)
    (silent : ∀ event ∈ events, (∀ i idx message, event ≠ .committed i idx message) ∧
      ∀ idx message, event ≠ .received idx message) :
    Conserves channel next events := by
  have stockEq : ∀ part : Pc E → Option Nat,
      next.stock part = (channel.goto k handle new).stock part := by
    intro part
    rw [Channel.stock, Channel.stock, tasks, elements]
    rfl
  apply Conserves.of_silent _ _ silent
  · rw [Channel.carried, stockEq, stock_goto_same at_k carrying]
    rfl
  · rw [Channel.delivered, stockEq, stock_goto_same at_k delivering]
    rfl

theorem Conserves.of_same (tasks : next.tasks = channel.tasks)
    (elements : next.elements = channel.elements)
    (silent : ∀ event ∈ events, (∀ i idx message, event ≠ .committed i idx message) ∧
      ∀ idx message, event ≠ .received idx message) :
    Conserves channel next events := by
  apply Conserves.of_silent _ _ silent
  · rw [Channel.carried, Channel.carried, Channel.stock, Channel.stock, tasks, elements]
  · rw [Channel.delivered, Channel.delivered, Channel.stock, Channel.stock, tasks, elements]

theorem Conserves.of_spawn {task : Task E} (tasks : next.tasks = channel.tasks ++ [task])
    (elements : next.elements = channel.elements)
    (carrying : task.pc.carrying = none) (delivering : task.pc.delivering = none)
    (silent : ∀ event ∈ events, (∀ i idx message, event ≠ .committed i idx message) ∧
      ∀ idx message, event ≠ .received idx message) :
    Conserves channel next events := by
  have stockEq : ∀ part : Pc E → Option Nat,
      next.stock part = (channel.spawn task).stock part := by
    intro part
    rw [Channel.stock, Channel.stock, tasks, elements]
    rfl
  apply Conserves.of_silent _ _ silent
  · rw [Channel.carried, stockEq, stock_spawn, carrying]
    simp [Channel.carried]
  · rw [Channel.delivered, stockEq, stock_spawn, delivering]
    simp [Channel.delivered]

theorem goto_getElem? {k : Nat} {old : Task E}
    (at_k : channel.tasks[k]? = some old) (handle : Option Nat) (new : Pc E) :
    (channel.goto k handle new).tasks[k]? = some ⟨handle, new⟩ := by
  obtain ⟨inside, -⟩ := List.getElem?_eq_some_iff.mp at_k
  exact List.getElem?_set_self inside

theorem Conserves.taskLocal (undisturbed : Undisturbed width channel next) {k : Nat}
    {handle : Option Nat} {old new : Pc E} (at_k : channel.tasks[k]? = some ⟨handle, old⟩)
    (nextEq : next = channel.goto k handle new)
    (move : LocalMove width channel.core k old new events) :
    Conserves channel next events := by
  have moved := goto_getElem? at_k handle new
  rw [← nextEq] at moved
  have silent := move.silent
  cases move with
  | commitCall => cases (undisturbed.permit at_k).symm.trans moved
  | dropPermit => cases (undisturbed.permit at_k).symm.trans moved
  | dropReceived => cases (undisturbed.received at_k).symm.trans moved
  | commitSawClosed isClosed =>
      have isOpen := (undisturbed.decided at_k (by simp [moved])).1
      exact absurd isClosed isOpen
  | panic isOpen behind =>
      have notBehind := (undisturbed.decided at_k (by simp [moved])).2
      exact absurd behind notBehind
  | _ =>
      subst nextEq
      exact .of_goto at_k rfl rfl rfl rfl silent

/-- A write goes to a cell that neither stock refers to. -/
theorem Conserves.write (owned : Owned width capacity channel) {k idx : Nat}
    {handle : Option Nat} (at_k : channel.tasks[k]? = some ⟨handle, .permit idx⟩) (value : T) :
    Conserves channel
      { channel with elements := Function.update channel.elements idx (some value) } [] := by
  have same : ∀ part : Pc E → Option Nat,
      (∀ pc other, part pc = some other → ∃ role, pc.holding = some (role, other)) →
      (∀ other, part (.permit other) = none) →
      Channel.stock
        { channel with elements := Function.update channel.elements idx (some value) } part =
        channel.stock part := by
    intro part holds noPermit
    apply stock_congr
    intro task member
    cases found : part task.pc with
    | none => rfl
    | some other =>
        obtain ⟨i, at_i⟩ := List.getElem?_of_mem member
        obtain ⟨role, holding⟩ := holds _ _ found
        have different : other ≠ idx := by
          rintro rfl
          have here : TaskHolds channel.tasks k .sending other := ⟨_, at_k, rfl⟩
          have there : Holds width channel other (.held role i) := ⟨task, at_i, holding⟩
          cases owned.held_unique here there
          cases at_i.symm.trans at_k
          simp [noPermit] at found
        exact congrArg some (Function.update_of_ne different _ _)
  apply Conserves.of_silent
  · exact same _ (fun pc other carries => ⟨_, Pc.holding_of_carrying carries⟩) fun _ => rfl
  · refine same _ (fun pc other delivers => ⟨.received, ?_⟩) fun _ => rfl
    cases pc <;> cases delivers
    rfl
  · simp

theorem Conserves.commitWon {k idx : Nat} {handle : Option Nat} {tail : UInt16}
    (at_k : channel.tasks[k]? = some ⟨handle, .claiming idx tail⟩) (core : Core E)
    (pos : UInt16) :
    Conserves channel { channel.goto k handle (.storing idx pos) with core := core }
      [.committed k idx (channel.elements idx)] := by
  constructor
  · have moved := stock_goto at_k Pc.carrying (.storing idx pos)
    simp only [Pc.carrying, Option.map_some, Option.map_none, single_some, single_none,
      add_zero] at moved
    exact moved
  · have moved : (channel.goto k handle (.storing idx pos)).delivered = channel.delivered :=
      stock_goto_same at_k rfl
    exact moved.trans (add_zero _).symm

theorem Conserves.release (channel : Channel T E) (core : Core E) (rx : RxPc) (idx : Nat) :
    Conserves channel
      { channel.spawn ⟨none, .received idx⟩ with core := core, rx := rx }
      [.received idx (channel.elements idx)] := by
  constructor
  · have moved := stock_spawn channel Pc.carrying ⟨none, .received idx⟩
    simp only [Pc.carrying, Option.map_none, single_none, add_zero] at moved
    exact (add_zero _).trans moved
  · exact stock_spawn channel Pc.delivering ⟨none, .received idx⟩

theorem Transition.conserves (owned : Owned width capacity channel)
    (undisturbed : Undisturbed width channel next)
    (transition : Transition width channel events next) : Conserves channel next events := by
  cases transition with
  | call called => cases called <;> exact .of_spawn rfl rfl rfl rfl (by simp)
  | cloneTx => exact .of_same rfl rfl (by simp)
  | dropTx => exact .of_spawn rfl rfl rfl rfl (by simp)
  | dropRx => exact .of_spawn rfl rfl rfl rfl (by simp)
  | rxLocal at_rx move => exact .of_same rfl rfl move.silent
  | dequeueWon => exact .of_same rfl rfl (by simp)
  | taskState at_k move =>
      refine .of_goto at_k rfl rfl ?_ ?_ move.silent
      · cases move with
        | closeProdWait | dropTx => split <;> rfl
        | loseError | winError | writeError | setErrored => rfl
      · cases move with
        | closeProdWait | dropTx => split <;> rfl
        | loseError | winError | writeError | setErrored => rfl
  | allocate at_k => exact .of_goto at_k rfl rfl rfl rfl (by simp)
  | free at_k => exact .of_goto at_k rfl rfl rfl rfl (by simp)
  | closeRx at_k => exact .of_goto at_k rfl rfl rfl rfl (by simp)
  | closeTx at_k => exact .of_goto at_k rfl rfl rfl rfl (by simp)
  | store at_k => exact .of_goto at_k rfl rfl rfl rfl (by simp)
  | taskLocal at_k move => exact .taskLocal undisturbed at_k rfl move
  | write value at_k => exact .write owned at_k value
  | commitWon at_k => exact .commitWon at_k _ _
  | release => exact .release channel _ _ _

end Transitions

end ChannelCore

end Mgnp
