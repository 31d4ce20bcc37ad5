import Mgnp.ChannelConservation

/-!
# What becomes of the messages of a channel

This file follows the values that go through a channel to the end of its life.
A send writes its value and commits it, a receive returns the value or, with a
`SerRecvRef`, drops it in place, and when the last handle is gone
`SharedState::drop` drains the queue.  A value is leaked when a commit fails,
because the error is ignored and the reservation's destructor does not run, and
when the drain meets the last position.
-/

namespace Mgnp

namespace ChannelCore

open LabelledRuns PositionWord

inductive Stage
  | running
  /-- `SharedState::drop` is draining the queue. -/
  | draining
  | reclaimed
  deriving DecidableEq

/-- A channel with what `SharedState` still has to do. -/
structure Pipe (T E : Type*) where
  channel : Channel T E
  stage : Stage

def Pipe.new {T E : Type*} (width : PointerWidth) (capacity : Nat) : Pipe T E :=
  ⟨.new width capacity, .running⟩

inductive PipeEvent (T E : Type*)
  | channel (event : Event T E)
  /-- A send wrote this value into its cell. -/
  | wrote (value : T)
  /-- A receive returned the contents of a cell. -/
  | returned (message : Option T)
  /-- The contents of a cell were dropped in place. -/
  | dropped (message : Option T)
  deriving DecidableEq

inductive PipeAction (T E : Type*)
  /-- A step of the channel that handles no value. -/
  | act (action : Action T E)
  /-- `Permit::send`, or `SerPermit::send` of bytes that deserialize to the value. -/
  | send (task : Nat) (value : T)
  /-- Drop a permit, also when the bytes of a `SerPermit::send` do not deserialize. -/
  | dropPermit (task : Nat)
  /-- A `Receiver` takes the value out of the cell and drops the reservation. -/
  | take (task : Nat)
  /-- A `SerRecvRef` is dropped, or the drain drops what it dequeued. -/
  | dropElem (task : Nat)
  /-- The last reference to the `SharedState` goes away. -/
  | drop

section Steps

variable {T E : Type*}

/-- Whether the drain may take this step.  It is alone with the channel and frees
each index before it dequeues the next one. -/
def Channel.drains (channel : Channel T E) : Action T E → Bool
  | .tryRecv => channel.tasks.all fun task => task.pc.done
  | .run _ | .runRx | .spuriousRx => true
  | _ => false

/-- The steps of the channel that handle no value. -/
def Action.moving : Action T E → Bool
  | .write _ _ | .commit _ | .release _ => false
  | _ => true

/-- The answers of `try_dequeue` that end the drain. -/
def Event.endsDrain : Event T E → Bool
  | .empty | .recvClosed _ => true
  | _ => false

def Pipe.allows (pipe : Pipe T E) (action : Action T E) : Bool :=
  match pipe.stage with
  | .running => action.moving
  | .draining => pipe.channel.drains action
  | .reclaimed => false

/-- Whether no handle, no call and no reference to a message is left. -/
def Channel.abandoned (channel : Channel T E) : Bool :=
  channel.handles.isEmpty && channel.rx = .dropped &&
    channel.tasks.all fun task => task.pc.done

def Pipe.step (width : PointerWidth) (pipe : Pipe T E) :
    PipeAction T E → Option (Pipe T E × List (PipeEvent T E))
  | .act action =>
      if pipe.allows action then
        match ChannelCore.step width pipe.channel action with
        | none => none
        | some (channel, events) =>
            let stage :=
              if pipe.stage = .draining ∧ events.any Event.endsDrain then .reclaimed
              else pipe.stage
            some (⟨channel, stage⟩, events.map .channel)
      else none
  | .send i value =>
      match pipe.stage, pipe.channel.tasks[i]? with
      | .running, some ⟨handle, .permit idx⟩ =>
          some ({ pipe with
              channel := { pipe.channel.goto i handle (.committing idx) with
                elements := Function.update pipe.channel.elements idx (some value) } },
            [.wrote value])
      | _, _ => none
  | .dropPermit i =>
      match pipe.stage, pipe.channel.tasks[i]? with
      | .running, some ⟨handle, .permit idx⟩ =>
          some ({ pipe with channel := pipe.channel.goto i handle (.freeing false idx) }, [])
      | _, _ => none
  | .take i =>
      match pipe.stage, pipe.channel.tasks[i]? with
      | .running, some ⟨handle, .received idx⟩ =>
          some ({ pipe with channel := pipe.channel.goto i handle (.freeing true idx) },
            [.returned (pipe.channel.elements idx)])
      | _, _ => none
  | .dropElem i =>
      match pipe.stage, pipe.channel.tasks[i]? with
      | .reclaimed, _ => none
      | _, some ⟨handle, .received idx⟩ =>
          some ({ pipe with channel := pipe.channel.goto i handle (.freeing true idx) },
            [.dropped (pipe.channel.elements idx)])
      | _, _ => none
  | .drop =>
      if pipe.stage = .running ∧ pipe.channel.abandoned then
        some (⟨{ pipe.channel with rx := .idle }, .draining⟩, [])
      else none

/-- The step loses no message: a commit finds the channel open and its slot free,
and the drain does not meet a message stored at the last position. -/
def Pipe.keepsMessages (width : PointerWidth) (pipe : Pipe T E) : PipeAction T E → Prop
  | .act (.run i) =>
      match pipe.channel.tasks[i]? with
      | some ⟨_, .examining _ tail⟩ =>
          tail &&& closed ≠ closed ∧ pipe.channel.core.commitOrder width tail ≠ .lt
      | _ => True
  | .act .runRx => pipe.stage = .draining → ¬ StoredAtLastPosition width pipe.channel
  | _ => True

instance (width : PointerWidth) (pipe : Pipe T E) (action : PipeAction T E) :
    Decidable (pipe.keepsMessages width action) := by
  unfold Pipe.keepsMessages
  split
  · split <;> infer_instance
  · infer_instance
  · infer_instance

end Steps

section Histories

variable {T E : Type*}

/-- The events of the channel itself. -/
def channelEvents (history : List (PipeEvent T E)) : List (Event T E) :=
  history.filterMap fun
    | .channel event => some event
    | _ => none

/-- The values that sends wrote. -/
def written (history : List (PipeEvent T E)) : List T :=
  history.filterMap fun
    | .wrote value => some value
    | _ => none

/-- The cell contents that receives returned or that were dropped. -/
def consumed (history : List (PipeEvent T E)) : List (Option T) :=
  history.filterMap fun
    | .returned message | .dropped message => some message
    | _ => none

end Histories

section Undisturbed

variable {T E : Type*} {width : PointerWidth} {channel next : Channel T E}
  {events : List (Event T E)} {action : Action T E}

/-- The program counters that only their own task's next call or step leaves. -/
def Pc.parked : Pc E → Bool
  | .permit _ | .received _ | .examining _ _ => true
  | _ => false

theorem runTask_tasks {i : Nat} {task : Task E}
    (ran : runTask width channel i task = some (next, events)) :
    ∃ pc, next.tasks = channel.tasks.set i ⟨task.handle, pc⟩ := by
  obtain ⟨handle, pc⟩ := task
  cases pc <;> simp only [runTask] at ran
  all_goals
    repeat' split at ran
    all_goals cases ran <;> exact ⟨_, rfl⟩

theorem runRx_tasks (ran : runRx width channel = some (next, events)) :
    next.tasks = channel.tasks ∨ ∃ task, next.tasks = channel.tasks ++ [task] := by
  cases at_rx : channel.rx <;> simp only [runRx, at_rx] at ran
  all_goals
    repeat' split at ran
    all_goals cases ran
  all_goals first
    | exact .inl rfl
    | exact .inr ⟨_, rfl⟩

/-- A task that is parked stays where it is in every step of the channel that is
neither its own nor a call that handles its value. -/
theorem step_parked {k : Nat} {task : Task E} (at_k : channel.tasks[k]? = some task)
    (parked : task.pc.parked = true) (moving : action.moving = true)
    (others : action ≠ .run k)
    (stepTo : ChannelCore.step width channel action = some (next, events)) :
    next.tasks[k]? = some task := by
  have inside := (List.getElem?_eq_some_iff.mp at_k).1
  have spawned : ∀ new : Task E, next.tasks = channel.tasks ++ [new] →
      next.tasks[k]? = some task := by
    intro new tasks
    rw [tasks, List.getElem?_append_left inside, at_k]
  have elsewhere : ∀ (i : Nat) (new : Task E), i ≠ k → next.tasks = channel.tasks.set i new →
      next.tasks[k]? = some task := by
    intro i new different tasks
    rw [tasks, List.getElem?_set_ne different, at_k]
  -- The moving task is in a program counter that is not parked.
  have awake : ∀ (i : Nat) (handle : Option Nat) (pc : Pc E),
      channel.tasks[i]? = some ⟨handle, pc⟩ → pc.parked = false → i ≠ k := by
    rintro i handle pc at_i notParked rfl
    cases at_i.symm.trans at_k
    rw [notParked] at parked
    cases parked
  cases action with
  | write | commit | release => cases moving
  | reserve handle blocking =>
      simp only [ChannelCore.step] at stepTo
      split at stepTo <;> cases stepTo
      exact spawned _ rfl
  | closeWithError handle error =>
      cases handle with
      | none =>
          simp only [ChannelCore.step] at stepTo
          split at stepTo <;> cases stepTo
          exact spawned _ rfl
      | some sender =>
          simp only [ChannelCore.step] at stepTo
          split at stepTo <;> cases stepTo
          exact spawned _ rfl
  | cloneTx handle copy =>
      simp only [ChannelCore.step] at stepTo
      split at stepTo <;> cases stepTo
      exact at_k
  | dropTx handle =>
      simp only [ChannelCore.step] at stepTo
      split at stepTo <;> cases stepTo
      exact spawned _ rfl
  | dropRx =>
      simp only [ChannelCore.step] at stepTo
      split at stepTo
      · split at stepTo <;> cases stepTo
        exact spawned _ rfl
      · cases stepTo
  | tryRecv =>
      simp only [ChannelCore.step] at stepTo
      split at stepTo <;> cases stepTo
      exact at_k
  | run i =>
      simp only [ChannelCore.step] at stepTo
      split at stepTo
      · obtain ⟨pc, tasks⟩ := runTask_tasks stepTo
        apply elsewhere i _ _ tasks
        rintro rfl
        exact others rfl
      · cases stepTo
  | allocate i idx =>
      simp only [ChannelCore.step] at stepTo
      split at stepTo
      · rename_i handle blocking at_i
        split at stepTo <;> cases stepTo
        exact elsewhere i _ (awake i _ _ at_i rfl) rfl
      · cases stepTo
  | spurious i =>
      simp only [ChannelCore.step] at stepTo
      split at stepTo <;> cases stepTo
      rename_i handle idx tail at_i
      exact elsewhere i _ (awake i _ _ at_i rfl) rfl
  | woken i =>
      simp only [ChannelCore.step] at stepTo
      split at stepTo <;> cases stepTo
      rename_i handle at_i
      exact elsewhere i _ (awake i _ _ at_i rfl) rfl
  | runRx =>
      rcases runRx_tasks stepTo with tasks | ⟨new, tasks⟩
      · rw [tasks, at_k]
      · exact spawned new tasks
  | spuriousRx =>
      simp only [ChannelCore.step] at stepTo
      split at stepTo <;> cases stepTo
      exact at_k

theorem step_undisturbed (moving : action.moving = true)
    (keeps : ∀ (i : Nat) (handle : Option Nat) (idx : Nat) (tail : UInt16),
      action = .run i → channel.tasks[i]? = some ⟨handle, .examining idx tail⟩ →
      tail &&& closed ≠ closed ∧ channel.core.commitOrder width tail ≠ .lt)
    (stepTo : ChannelCore.step width channel action = some (next, events)) :
    Undisturbed width channel next := by
  constructor
  · intro k handle idx at_k
    apply step_parked at_k rfl moving _ stepTo
    rintro rfl
    simp [ChannelCore.step, at_k, runTask] at stepTo
  · intro k handle idx at_k
    apply step_parked at_k rfl moving _ stepTo
    rintro rfl
    simp [ChannelCore.step, at_k, runTask] at stepTo
  · intro k handle idx tail at_k moved
    by_cases own : action = .run k
    · exact keeps k handle idx tail own at_k
    · exact absurd (step_parked at_k rfl moving own stepTo) moved

end Undisturbed

section Accounts

variable {T E : Type*} {width : PointerWidth} {capacity : Nat}

/-- Everything that has been committed has been received. -/
def Exhausted (history : List (Event T E)) : Prop :=
  (received history).length = (committed history).length

/-- A task of the drain that has dropped its message and frees the index. -/
def Pc.freeingRx : Pc E → Bool
  | .received _ | .freeing true _ | .freed => true
  | _ => false

/-- What holds while `SharedState::drop` drains the queue: it dequeues only when
no task has anything left to do. -/
structure Draining (history : List (Event T E)) (channel : Channel T E) : Prop where
  settled : ∀ task ∈ channel.tasks, task.pc.done = true ∨ task.pc.freeingRx = true
  alone : channel.rx ≠ .idle → ∀ task ∈ channel.tasks, task.pc.done = true
  closing : channel.rx = .closing → Exhausted history

/-- The accounts of a pipe: what was written is carried or committed, and what
was received is still there or consumed. -/
structure Accounts (width : PointerWidth) (capacity : Nat) (history : List (PipeEvent T E))
    (pipe : Pipe T E) : Prop where
  represents : Represents width capacity (channelEvents history) pipe.channel
  carried : pipe.channel.carried + committedMessages (channelEvents history) =
    ↑((written history).map some)
  delivered : pipe.channel.delivered + ↑(consumed history) =
    receivedMessages (channelEvents history)
  draining : pipe.stage = .draining → Draining (channelEvents history) pipe.channel
  reclaimed : pipe.stage = .reclaimed →
    (∀ task ∈ pipe.channel.tasks, task.pc.done = true) ∧ Exhausted (channelEvents history)

@[simp] theorem channelEvents_append (first second : List (PipeEvent T E)) :
    channelEvents (first ++ second) = channelEvents first ++ channelEvents second :=
  List.filterMap_append

@[simp] theorem written_append (first second : List (PipeEvent T E)) :
    written (first ++ second) = written first ++ written second :=
  List.filterMap_append

@[simp] theorem consumed_append (first second : List (PipeEvent T E)) :
    consumed (first ++ second) = consumed first ++ consumed second :=
  List.filterMap_append

@[simp] theorem channelEvents_channel (events : List (Event T E)) :
    channelEvents (events.map .channel) = events := by
  simp [channelEvents]

@[simp] theorem written_channel (events : List (Event T E)) :
    written (events.map .channel) = [] := by
  simp [written]

@[simp] theorem consumed_channel (events : List (Event T E)) :
    consumed (events.map .channel) = [] := by
  simp [consumed]

section Exhausted

variable {channel next : Channel T E} {history events : List (Event T E)}

/-- When the slot load finds nothing although no task is storing, the queue is
empty or the receiver is at the last position. -/
theorem Represents.exhausted (represents : Represents width capacity history channel)
    {head : UInt16} (at_rx : channel.rx = .examining head)
    (behind : channel.core.dequeueOrder width head = .lt)
    (notLast : ¬ StoredAtLastPosition width channel)
    (settled : ∀ task ∈ channel.tasks, task.pc.done = true) : Exhausted history := by
  obtain ⟨ledger, replays, inv, -⟩ := represents
  have issuedEq : ledger.issued = committed history := by
    rw [replays.issued_eq, issues_ledgerOps]
  have takenEq : ledger.taken = (received history).length := by
    rw [replays.taken_eq, takes_ledgerOps]
  have notReady : ¬ FrontReady width ledger := by
    rcases inv.dequeueOrder at_rx with ⟨ready, -⟩ | ⟨-, notReady⟩
    · cases ready.symm.trans behind
    · exact notReady
  have takenLe : ledger.taken ≤ ledger.issued.length := replays.taken_le
  rw [Exhausted, ← takenEq, ← issuedEq]
  cases front : ledger.issued[ledger.taken]? with
  | none =>
      have outside := List.getElem?_eq_none_iff.mp front
      omega
  | some entry =>
      obtain ⟨i, idx, message⟩ := entry
      by_cases published : i ∈ ledger.published
      · exact absurd (inv.storedAtLastPosition at_rx front published notReady) notLast
      · obtain ⟨task, at_i, pos, isStoring⟩ := inv.storing replays front published
        have done := settled task (List.mem_of_getElem? at_i)
        rw [isStoring] at done
        cases done

end Exhausted

section Drain

variable {channel next : Channel T E} {history events : List (Event T E)}

/-- What a step of the drain comes to: it goes on, or it ends with nothing left. -/
def DrainStep (history events : List (Event T E)) (next : Channel T E) : Prop :=
  (events.any Event.endsDrain = false ∧ Draining (history ++ events) next) ∨
    (events.any Event.endsDrain = true ∧ (∀ task ∈ next.tasks, task.pc.done = true) ∧
      Exhausted (history ++ events))

theorem Draining.tryRecv (draining : Draining history channel)
    (allowed : channel.drains .tryRecv = true)
    (stepTo : ChannelCore.step width channel .tryRecv = some (next, events)) :
    DrainStep history events next := by
  have done : ∀ task ∈ channel.tasks, task.pc.done = true := by
    simpa [Channel.drains] using allowed
  simp only [ChannelCore.step] at stepTo
  split at stepTo <;> cases stepTo
  refine .inl ⟨rfl, draining.settled, fun _ => done, ?_⟩
  intro closing
  cases closing

theorem Draining.spuriousRx (draining : Draining history channel)
    (stepTo : ChannelCore.step width channel .spuriousRx = some (next, events)) :
    DrainStep history events next := by
  simp only [ChannelCore.step] at stepTo
  split at stepTo <;> cases stepTo
  rename_i head val at_rx
  refine .inl ⟨rfl, draining.settled, fun _ => draining.alone (by simp [at_rx]), ?_⟩
  intro closing
  cases closing

/-- A task that is not done frees its index while the receiver is idle. -/
theorem Draining.run (draining : Draining history channel) {i : Nat}
    (stepTo : ChannelCore.step width channel (.run i) = some (next, events)) :
    DrainStep history events next := by
  simp only [ChannelCore.step] at stepTo
  split at stepTo
  · rename_i task at_i
    have member := List.mem_of_getElem? at_i
    have notDone : task.pc.done = false := by
      obtain ⟨handle, pc⟩ := task
      cases pc <;> first | rfl | cases stepTo
    have idle : channel.rx = .idle := by
      by_contra busy
      rw [draining.alone busy task member] at notDone
      cases notDone
    have sameRx := runTask_rx stepTo
    have goes : ∀ pc : Pc E, next.tasks = channel.tasks.set i ⟨task.handle, pc⟩ →
        (pc.done = true ∨ pc.freeingRx = true) → events.any Event.endsDrain = false →
        DrainStep history events next := by
      intro pc tasks settled quiet
      refine .inl ⟨quiet, ?_, ?_, ?_⟩
      · rw [tasks]
        exact forall_mem_set draining.settled settled
      · intro busy
        exact absurd (sameRx.trans idle) busy
      · intro closing
        rw [sameRx, idle] at closing
        cases closing
    rcases draining.settled task member with done | freeing
    · rw [done] at notDone
      cases notDone
    · obtain ⟨handle, pc⟩ := task
      cases pc with
      | received idx => cases stepTo
      | freed =>
          cases stepTo
          exact goes .finished rfl (.inl rfl) rfl
      | freeing fromReceiver idx =>
          cases fromReceiver with
          | false => cases freeing
          | true =>
              cases stepTo
              exact goes .freed rfl (.inr rfl) rfl
      | _ => cases freeing
  · cases stepTo

/-- The drain ends when `try_dequeue` finds nothing, and then everything has been
received. -/
theorem Draining.runRx (draining : Draining history channel)
    (represents : Represents width capacity history channel)
    (notLast : ¬ StoredAtLastPosition width channel)
    (stepTo : ChannelCore.step width channel .runRx = some (next, events)) :
    DrainStep history events next := by
  have ran : ChannelCore.runRx width channel = some (next, events) := stepTo
  cases at_rx : channel.rx with
  | idle => simp [ChannelCore.runRx, at_rx] at ran
  | dropped => simp [ChannelCore.runRx, at_rx] at ran
  | loading =>
      have done := draining.alone (by simp [at_rx])
      simp only [ChannelCore.runRx, at_rx, Option.some.injEq, Prod.mk.injEq] at ran
      obtain ⟨rfl, rfl⟩ := ran
      exact .inl ⟨rfl, draining.settled, fun _ => done, fun closing => by cases closing⟩
  | examining head =>
      have done := draining.alone (by simp [at_rx])
      simp only [ChannelCore.runRx, at_rx] at ran
      cases order : channel.core.dequeueOrder width head with
      | lt =>
          have exhausted := represents.exhausted at_rx order notLast done
          simp only [order] at ran
          split at ran
          · cases ran
            refine .inl ⟨rfl, draining.settled, fun _ => done, fun _ => ?_⟩
            rwa [List.append_nil]
          · cases ran
            refine .inr ⟨rfl, done, ?_⟩
            simpa [Exhausted, received, committed] using exhausted
      | eq =>
          simp only [order] at ran
          cases ran
          exact .inl ⟨rfl, draining.settled, fun _ => done, fun closing => by cases closing⟩
      | gt =>
          simp only [order] at ran
          cases ran
          exact .inl ⟨rfl, draining.settled, fun _ => done, fun closing => by cases closing⟩
  | claiming head val =>
      have done := draining.alone (by simp [at_rx])
      simp only [ChannelCore.runRx, at_rx] at ran
      split at ran
      · cases ran
        exact .inl ⟨rfl, draining.settled, fun _ => done, fun closing => by cases closing⟩
      · cases ran
        exact .inl ⟨rfl, draining.settled, fun _ => done, fun closing => by cases closing⟩
  | releasing head val =>
      simp only [ChannelCore.runRx, at_rx, Option.some.injEq, Prod.mk.injEq] at ran
      obtain ⟨rfl, rfl⟩ := ran
      refine .inl ⟨rfl, ?_, fun busy => absurd rfl busy, fun closing => by cases closing⟩
      exact forall_mem_append_singleton draining.settled (.inr rfl)
  | closing =>
      have done := draining.alone (by simp [at_rx])
      have exhausted := draining.closing at_rx
      simp only [ChannelCore.runRx, at_rx, Option.some.injEq, Prod.mk.injEq] at ran
      obtain ⟨rfl, rfl⟩ := ran
      refine .inr ⟨rfl, done, ?_⟩
      simpa [Exhausted, received, committed] using exhausted

end Drain

section Pipes

variable {pipe next : Pipe T E} {history events : List (PipeEvent T E)}

theorem Channel.moving_of_drains {channel : Channel T E} {action : Action T E}
    (drains : channel.drains action = true) : action.moving = true := by
  cases action <;> first | rfl | cases drains

theorem Pipe.moving_of_allows {action : Action T E} (allowed : pipe.allows action = true) :
    action.moving = true := by
  unfold Pipe.allows at allowed
  split at allowed
  · exact allowed
  · exact Channel.moving_of_drains allowed
  · cases allowed

/-- Both accounts are kept by the steps that handle no value. -/
theorem Accounts.balance {channel : Channel T E} {produced : List (Event T E)}
    (accounts : Accounts width capacity history pipe)
    (conserves : Conserves pipe.channel channel produced) :
    channel.carried + committedMessages (channelEvents history ++ produced) =
        ↑((written history).map some) ∧
      channel.delivered + ↑(consumed history) =
        receivedMessages (channelEvents history ++ produced) := by
  rw [committedMessages_append, receivedMessages_append, ← accounts.carried,
    ← accounts.delivered, conserves.delivered, ← conserves.carried]
  constructor
  · abel
  · abel

/-- The drain takes one of its four steps. -/
theorem Draining.step {channel after : Channel T E} {action : Action T E}
    {past produced : List (Event T E)} (draining : Draining past channel)
    (represents : Represents width capacity past channel)
    (allowed : channel.drains action = true)
    (notLast : action = .runRx → ¬ StoredAtLastPosition width channel)
    (stepTo : ChannelCore.step width channel action = some (after, produced)) :
    DrainStep past produced after := by
  cases action with
  | tryRecv => exact draining.tryRecv allowed stepTo
  | spuriousRx => exact draining.spuriousRx stepTo
  | run i => exact draining.run stepTo
  | runRx => exact draining.runRx represents (notLast rfl) stepTo
  | _ => cases allowed

/-- While the channel is running nothing has been drained. -/
theorem Accounts.of_running
    (represents : Represents width capacity (channelEvents history) pipe.channel)
    (carried : pipe.channel.carried + committedMessages (channelEvents history) =
      ↑((written history).map some))
    (delivered : pipe.channel.delivered + ↑(consumed history) =
      receivedMessages (channelEvents history))
    (running : pipe.stage = .running) : Accounts width capacity history pipe where
  represents := represents
  carried := carried
  delivered := delivered
  draining isDraining := by cases running.symm.trans isDraining
  reclaimed isReclaimed := by cases running.symm.trans isReclaimed

theorem Accounts.act {action : Action T E} (accounts : Accounts width capacity history pipe)
    (capacityLe : capacity ≤ maxCapacity width)
    (admitted : pipe.keepsMessages width (.act action))
    (stepTo : pipe.step width (.act action) = some (next, events)) :
    Accounts width capacity (history ++ events) next := by
  simp only [Pipe.step] at stepTo
  split at stepTo
  · rename_i allowed
    split at stepTo
    · cases stepTo
    · rename_i channel produced channelStep
      simp only [Option.some.injEq, Prod.mk.injEq] at stepTo
      obtain ⟨rfl, rfl⟩ := stepTo
      have keeps : ∀ (i : Nat) (handle : Option Nat) (idx : Nat) (tail : UInt16),
          action = .run i → pipe.channel.tasks[i]? = some ⟨handle, .examining idx tail⟩ →
          tail &&& closed ≠ closed ∧ pipe.channel.core.commitOrder width tail ≠ .lt := by
        rintro i handle idx tail rfl at_i
        simpa [Pipe.keepsMessages, at_i] using admitted
      have notLast : action = .runRx → pipe.stage = .draining →
          ¬ StoredAtLastPosition width pipe.channel := by
        rintro rfl
        exact admitted
      have transition := step_transition channelStep
      have undisturbed := step_undisturbed (Pipe.moving_of_allows allowed) keeps channelStep
      obtain ⟨ledger, replays, inv, owned⟩ := accounts.represents
      obtain ⟨carried, delivered⟩ := accounts.balance (transition.conserves owned undisturbed)
      have drained : pipe.stage = .draining →
          DrainStep (channelEvents history) produced channel := by
        intro isDraining
        apply (accounts.draining isDraining).step accounts.represents _
          (fun isRx => notLast isRx isDraining) channelStep
        rwa [Pipe.allows, isDraining] at allowed
      constructor
      · simpa using accounts.represents.transition capacityLe transition
      · simpa using carried
      · simpa using delivered
      · intro isDraining
        rw [channelEvents_append, channelEvents_channel]
        dsimp only at isDraining
        split_ifs at isDraining with ends
        rcases drained isDraining with ⟨-, after⟩ | ⟨ended, -⟩
        · exact after
        · exact absurd ⟨isDraining, ended⟩ ends
      · intro isReclaimed
        rw [channelEvents_append, channelEvents_channel]
        dsimp only at isReclaimed
        split_ifs at isReclaimed with ends
        · rcases drained ends.1 with ⟨goesOn, -⟩ | ⟨-, after⟩
          · rw [ends.2] at goesOn
            cases goesOn
          · exact after
        · rw [Pipe.allows, isReclaimed] at allowed
          cases allowed
  · cases stepTo

/-- A consuming step takes a message from the received ones. -/
theorem Accounts.consume (accounts : Accounts width capacity history pipe) {i idx : Nat}
    {handle : Option Nat} (capacityLe : capacity ≤ maxCapacity width)
    (at_i : pipe.channel.tasks[i]? = some ⟨handle, .received idx⟩)
    (used : pipe.stage ≠ .reclaimed) {event : PipeEvent T E}
    (silent : channelEvents [event] = []) (noWrite : written [event] = [])
    (consumes : consumed [event] = [pipe.channel.elements idx]) :
    Accounts width capacity (history ++ [event])
      { pipe with channel := pipe.channel.goto i handle (.freeing true idx) } := by
  have moved := stock_goto at_i Pc.delivering (.freeing true idx)
  constructor
  · have after := accounts.represents.transition capacityLe (.taskLocal at_i .dropReceived)
    simpa [silent] using after
  · have same : (pipe.channel.goto i handle (.freeing true idx)).carried =
        pipe.channel.carried := stock_goto_same at_i rfl
    simpa [silent, noWrite, same] using accounts.carried
  · simp only [Pc.delivering, Option.map_some, Option.map_none, PoolStock.single_some,
      PoolStock.single_none, add_zero] at moved
    rw [channelEvents_append, silent, List.append_nil, ← accounts.delivered, consumed_append,
      consumes, Channel.delivered, Channel.delivered, ← moved, ← Multiset.coe_add,
      Multiset.coe_singleton]
    abel
  · intro isDraining
    have draining := accounts.draining isDraining
    rw [channelEvents_append, silent, List.append_nil]
    have member := List.mem_of_getElem? at_i
    have idle : pipe.channel.rx = .idle := by
      by_contra busy
      cases draining.alone busy _ member
    refine ⟨forall_mem_set draining.settled (.inr rfl), fun busy => absurd idle busy, ?_⟩
    exact draining.closing
  · exact fun isReclaimed => absurd isReclaimed used

theorem Accounts.send (accounts : Accounts width capacity history pipe) {i idx : Nat}
    {handle : Option Nat} (capacityLe : capacity ≤ maxCapacity width)
    (at_i : pipe.channel.tasks[i]? = some ⟨handle, .permit idx⟩)
    (running : pipe.stage = .running) (value : T) :
    Accounts width capacity (history ++ [.wrote value])
      { pipe with
        channel := { pipe.channel.goto i handle (.committing idx) with
          elements := Function.update pipe.channel.elements idx (some value) } } := by
  obtain ⟨ledger, replays, inv, owned⟩ := accounts.represents
  have silent : channelEvents (history ++ [.wrote value]) = channelEvents history := by
    simp [channelEvents]
  obtain ⟨carried, delivered⟩ := accounts.balance (Conserves.write owned at_i value)
  rw [List.append_nil] at carried delivered
  let channel : Channel T E :=
    { pipe.channel with elements := Function.update pipe.channel.elements idx (some value) }
  have at_written : channel.tasks[i]? = some ⟨handle, .permit idx⟩ := at_i
  have represented := (accounts.represents.transition capacityLe (.write value at_i)).transition
    capacityLe (.taskLocal at_written .commitCall)
  rw [List.append_nil, List.append_nil] at represented
  have gained : (channel.goto i handle (.committing idx)).carried =
      channel.carried + {some value} := by
    have moved := stock_goto at_written Pc.carrying (.committing idx)
    have content : channel.elements idx = some value := Function.update_self ..
    simp only [Pc.carrying, Option.map_some, Option.map_none, PoolStock.single_some,
      PoolStock.single_none, add_zero, content] at moved
    exact moved
  have same : (channel.goto i handle (.committing idx)).delivered = channel.delivered :=
    stock_goto_same at_written rfl
  refine .of_running ?_ ?_ ?_ running
  · rw [silent]
    exact represented
  · change (channel.goto i handle (.committing idx)).carried + _ = _
    rw [silent, gained, written_append, List.map_append, ← Multiset.coe_add, ← carried]
    change _ = _ + ({some value} : Multiset (Option T))
    abel
  · change (channel.goto i handle (.committing idx)).delivered + _ = _
    rw [silent, same, ← delivered, consumed_append]
    simp [consumed, channel]

theorem Accounts.dropPermit (accounts : Accounts width capacity history pipe) {i idx : Nat}
    {handle : Option Nat} (capacityLe : capacity ≤ maxCapacity width)
    (at_i : pipe.channel.tasks[i]? = some ⟨handle, .permit idx⟩)
    (running : pipe.stage = .running) :
    Accounts width capacity history
      { pipe with channel := pipe.channel.goto i handle (.freeing false idx) } := by
  have represented := accounts.represents.transition capacityLe (.taskLocal at_i .dropPermit)
  rw [List.append_nil] at represented
  have carried : (pipe.channel.goto i handle (.freeing false idx)).carried =
      pipe.channel.carried := stock_goto_same at_i rfl
  have delivered : (pipe.channel.goto i handle (.freeing false idx)).delivered =
      pipe.channel.delivered := stock_goto_same at_i rfl
  refine .of_running ?_ ?_ ?_ running
  · exact represented
  · rw [carried, accounts.carried]
  · rw [delivered, accounts.delivered]

/-- The drain begins with a receiver of its own. -/
theorem Represents.reopen {channel : Channel T E} {past : List (Event T E)}
    (represents : Represents width capacity past channel) (gone : channel.rx = .dropped) :
    Represents width capacity past { channel with rx := .idle } := by
  obtain ⟨ledger, replays, inv, owned⟩ := represents
  refine ⟨ledger, replays, ?_, ?_⟩
  · have dequeuePos := inv.dequeuePos
    exact inv.frame inv.enqueuePos dequeuePos rfl rfl (by rw [gone]; rfl) inv.tasks
      (Nat.le_refl _) trivial
  · exact owned.frame rfl rfl (by rw [gone]; rfl) fun _ _ _ => Iff.rfl

theorem Accounts.drop (accounts : Accounts width capacity history pipe)
    (abandoned : pipe.channel.abandoned = true) :
    Accounts width capacity history ⟨{ pipe.channel with rx := .idle }, .draining⟩ := by
  simp only [Channel.abandoned, Bool.and_eq_true, decide_eq_true_eq, List.all_eq_true]
    at abandoned
  obtain ⟨⟨-, gone⟩, done⟩ := abandoned
  constructor
  · exact accounts.represents.reopen gone
  · exact accounts.carried
  · exact accounts.delivered
  · intro isDraining
    refine ⟨fun task member => .inl (done task member), fun _ => done, ?_⟩
    intro closing
    cases closing
  · intro isReclaimed
    cases isReclaimed

theorem Accounts.step {action : PipeAction T E} (accounts : Accounts width capacity history pipe)
    (capacityLe : capacity ≤ maxCapacity width) (admitted : pipe.keepsMessages width action)
    (stepTo : pipe.step width action = some (next, events)) :
    Accounts width capacity (history ++ events) next := by
  cases action with
  | act action => exact accounts.act capacityLe admitted stepTo
  | send i value =>
      simp only [Pipe.step] at stepTo
      split at stepTo <;> cases stepTo
      rename_i running at_i
      exact accounts.send capacityLe at_i running value
  | dropPermit i =>
      simp only [Pipe.step] at stepTo
      split at stepTo <;> cases stepTo
      rename_i running at_i
      rw [List.append_nil]
      exact accounts.dropPermit capacityLe at_i running
  | take i =>
      simp only [Pipe.step] at stepTo
      split at stepTo <;> cases stepTo
      rename_i running at_i
      exact accounts.consume capacityLe at_i (by simp [running]) rfl rfl rfl
  | dropElem i =>
      simp only [Pipe.step] at stepTo
      split at stepTo <;> cases stepTo
      rename_i at_i used
      exact accounts.consume capacityLe at_i used rfl rfl rfl
  | drop =>
      simp only [Pipe.step] at stepTo
      split at stepTo <;> cases stepTo
      rename_i last
      rw [List.append_nil]
      exact accounts.drop last.2

theorem accounts_new : Accounts width capacity [] (Pipe.new width capacity : Pipe T E) :=
  .of_running represents_new rfl rfl rfl

end Pipes

/-- In every run in which no commit fails and the drain does not meet the last
position, once the channel has been reclaimed every value that was written has
been returned or dropped exactly once, and nothing else has. -/
theorem consumed_perm_written {history : List (PipeEvent T E)} {final : Pipe T E}
    (capacityLe : capacity ≤ maxCapacity width)
    (run : Run (Pipe.step width) (Pipe.keepsMessages width) (Pipe.new width capacity)
      history final) (ended : final.stage = .reclaimed) :
    (consumed history).Perm ((written history).map some) := by
  have accounts : Accounts width capacity history final := by
    apply run.invariant (Accounts width capacity) accounts_new
    intro past events pipe next action holds admitted stepTo
    exact holds.step capacityLe admitted stepTo
  obtain ⟨done, exhausted⟩ := accounts.reclaimed ended
  have noneLeft : ∀ part : Pc E → Option Nat, (∀ pc, pc.done = true → part pc = none) →
      final.channel.stock part = 0 := by
    intro part idle
    apply PoolStock.stock_eq_zero
    intro task member
    rw [idle _ (done task member)]
    rfl
  have noneCarried : final.channel.carried = 0 := by
    apply noneLeft
    intro pc isDone
    cases pc <;> first | rfl | cases isDone
  have noneDelivered : final.channel.delivered = 0 := by
    apply noneLeft
    intro pc isDone
    cases pc <;> first | rfl | cases isDone
  have carried := accounts.carried
  have delivered := accounts.delivered
  rw [noneCarried, zero_add] at carried
  rw [noneDelivered, zero_add] at delivered
  have all : received (channelEvents history) =
      (committed (channelEvents history)).map Prod.snd :=
    accounts.represents.received_in_order.eq_of_length (by rw [List.length_map, exhausted])
  rw [← Multiset.coe_eq_coe, delivered, ← carried, receivedMessages, all, committedMessages,
    List.map_map]
  rfl

end Accounts

/-- Observe the stage and what was written and consumed. -/
def messages (outcome : Pipe Nat Nat × List (PipeEvent Nat Nat)) :
    Stage × List Nat × List (Option Nat) :=
  (outcome.1.stage, written outcome.2, consumed outcome.2)

/-- One message is taken by a receive, and the drain finds another one. -/
def sendTwice : List (PipeAction Nat Nat) :=
  [.act (.reserve 0 false), .act (.run 0), .act (.allocate 0 0),
    .act (.reserve 0 false), .act (.run 1), .act (.allocate 1 1),
    .send 0 5, .act (.run 0), .act (.run 0), .act (.run 0), .act (.run 0), .act (.run 0),
    .send 1 7, .act (.run 1), .act (.run 1), .act (.run 1), .act (.run 1), .act (.run 1),
    .act .tryRecv, .act .runRx, .act .runRx, .act .runRx, .act .runRx,
    .take 2, .act (.run 2), .act (.run 2), .act .dropRx, .act (.run 3), .act (.run 3),
    -- The last sender and the last call are gone.
    .act (.dropTx 0), .act (.run 4), .act (.run 4), .act (.run 4), .act (.run 4), .drop,
    .act .tryRecv, .act .runRx, .act .runRx, .act .runRx, .act .runRx,
    .dropElem 5, .act (.run 5), .act (.run 5), .act .tryRecv, .act .runRx, .act .runRx,
    .act .runRx]

/-- The receiver goes away between `reserve` and `Permit::send`. -/
def sendAfterClose : List (PipeAction Nat Nat) :=
  [.act (.reserve 0 false), .act (.run 0), .act (.allocate 0 0), .act .dropRx,
    .act (.run 1), .send 0 7, .act (.run 0), .act (.run 0), .act (.run 0),
    .act (.run 1),
    -- The last sender and the last call are gone.
    .act (.dropTx 0), .act (.run 2), .act (.run 2), .act (.run 2), .act (.run 2), .drop,
    .act .tryRecv, .act .runRx, .act .runRx, .act .runRx]

/-- Both messages are consumed once. -/
theorem sendTwice_consumed :
    ∃ history : List (PipeEvent Nat Nat), ∃ final : Pipe Nat Nat,
      Run (Pipe.step .bits64) (Pipe.keepsMessages .bits64) (Pipe.new .bits64 2)
        history final ∧
      written history = [5, 7] ∧ (consumed history).Perm ((written history).map some) := by
  obtain ⟨history, final, run, outcome⟩ := exists_run_of_exec (Pipe.step .bits64)
    (Pipe.keepsMessages .bits64) (Pipe.new .bits64 2 : Pipe Nat Nat) sendTwice messages
    (show _ = some (.reclaimed, [5, 7], [some 5, some 7]) by decide +kernel)
  simp only [messages, Prod.mk.injEq] at outcome
  exact ⟨history, final, run, outcome.2.1,
    consumed_perm_written (by decide) run outcome.1⟩

/-- The value that a permit sends on a closed channel is never dropped. -/
theorem message_leaked :
    ¬ ∀ (T E : Type) (width : PointerWidth) (capacity : Nat), 0 < capacity →
      capacity ≤ maxCapacity width →
      ∀ (history : List (PipeEvent T E)) (final : Pipe T E),
        Run (Pipe.step width) anyStep (Pipe.new width capacity) history final →
        final.stage = .reclaimed →
        (consumed history).Perm ((written history).map some) := by
  intro always
  obtain ⟨history, final, run, outcome⟩ := exists_run_of_exec (Pipe.step .bits64) anyStep
    (Pipe.new .bits64 1 : Pipe Nat Nat) sendAfterClose messages
    (show _ = some (.reclaimed, [7], []) by decide +kernel)
  simp only [messages, Prod.mk.injEq] at outcome
  have perm := always Nat Nat .bits64 1 Nat.one_pos (by decide) history final run outcome.1
  rw [outcome.2.1, outcome.2.2] at perm
  cases perm.length_eq

end ChannelCore

end Mgnp
