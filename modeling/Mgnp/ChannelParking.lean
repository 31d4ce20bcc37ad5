import Mgnp.ChannelFifo
import Mgnp.WaitCell

/-!
# The receiver sleeps only while there is nothing to receive

`Core::poll_dequeue` tries to dequeue, registers in `cons_wait` when the
channel is empty, and tries again when the wait cell lets it go on.  The state
of this file is a channel with its `cons_wait` and the receiver task in it;
every access to the wait cell is one step.
-/

namespace Mgnp

namespace ChannelCore

open LabelledRuns PositionWord WaitCell

variable {T E Cell : Type*} {width : PointerWidth} {capacity : Nat} {ops : WaitCell Cell}

/-- A channel whose receiver polls `recv`. -/
structure Recv (T E Cell : Type*) where
  channel : Channel T E
  waiter : Waiter Cell

def Recv.new (ops : WaitCell Cell) (width : PointerWidth) (capacity : Nat) :
    Recv T E Cell where
  channel := .new width capacity
  waiter := .new ops

inductive RecvAction (T E : Type*)
  /-- The receiver task polls `recv`. -/
  | poll
  /-- `poll_dequeue` calls `cons_wait.poll_wait`. -/
  | pollWait
  /-- The pending `recv` is dropped. -/
  | cancel
  /-- A step of the channel. -/
  | base (action : Action T E)

/-- What an event of the channel means to `cons_wait` and to `poll_dequeue`. -/
def Event.hear (ops : WaitCell Cell) (waiter : Waiter Cell) : Event T E → Waiter Cell
  | .wakeCons => waiter.wake ops
  | .closeCons => waiter.close ops
  | .empty => waiter.turn .registering
  | .received _ _ | .recvClosed _ => waiter.turn .away
  | _ => waiter

/-- Inside a poll, or with a pending `recv`, the receiver task neither calls
`try_recv` nor drops the receiver. -/
def Action.whileAway : Action T E → Bool
  | .tryRecv | .dropRx => true
  | _ => false

namespace Recv

/-- A step of the channel, heard by the wait cell and the receiver task. -/
def run (ops : WaitCell Cell) (width : PointerWidth) (recv : Recv T E Cell)
    (waiter : Waiter Cell) (action : Action T E) :
    Option (Recv T E Cell × List (Event T E)) :=
  match ChannelCore.step width recv.channel action with
  | some (next, events) => some (⟨next, events.foldl (Event.hear ops) waiter⟩, events)
  | none => none

def step (ops : WaitCell Cell) (width : PointerWidth) (recv : Recv T E Cell) :
    RecvAction T E → Option (Recv T E Cell × List (Event T E))
  | .poll =>
      match recv.waiter.stage with
      | .away | .pending => recv.run ops width recv.waiter.poll .tryRecv
      | .checking | .registering => none
  | .pollWait =>
      match recv.waiter.stage with
      | .registering =>
          let waiter := recv.waiter.register ops
          if waiter.stage = .checking then recv.run ops width waiter .tryRecv
          else some ({ recv with waiter := waiter }, [])
      | .away | .checking | .pending => none
  | .cancel =>
      match recv.waiter.stage with
      | .pending => some ({ recv with waiter := { recv.waiter with stage := .away } }, [])
      | .away | .checking | .registering => none
  | .base action =>
      if action.whileAway = true ∧ recv.waiter.stage ≠ .away then none
      else recv.run ops width recv.waiter action

end Recv

/-- A task that has stored a message or set `CLOSED` in `dequeue_pos` and has
not yet called `wake` or `close` of `cons_wait`. -/
def Pc.OwesWake : Pc E → Prop
  | .waking | .closingConsWait _ => True
  | _ => False

def Pc.OwesClose : Pc E → Prop
  | .closingConsWait _ => True
  | _ => False

/-- Some sender or closer is between publishing and waking. -/
def Channel.OwesWake (channel : Channel T E) : Prop :=
  ∃ i, TaskAt channel.tasks i Pc.OwesWake

def Channel.OwesClose (channel : Channel T E) : Prop :=
  ∃ i, TaskAt channel.tasks i Pc.OwesClose

/-- `try_dequeue` would answer something else than `Empty`. -/
def Channel.Ready (width : PointerWidth) (channel : Channel T E) : Prop :=
  channel.core.dequeueOrder width channel.core.dequeuePos ≠ .lt ∨
    HasClosed channel.core.dequeuePos

theorem Pc.OwesClose.owesWake {pc : Pc E} (owes : pc.OwesClose) : pc.OwesWake := by
  cases pc with
  | closingConsWait _ => trivial
  | _ => exact owes.elim

theorem Channel.OwesClose.owesWake {channel : Channel T E} (owes : channel.OwesClose) :
    channel.OwesWake := by
  obtain ⟨i, task, at_i, closing⟩ := owes
  exact ⟨i, task, at_i, closing.owesWake⟩

/-- Whether an event is a call of `cons_wait`. -/
def Event.calls : Event T E → Bool
  | .wakeCons | .closeCons => true
  | _ => false

/-- A step that calls nothing of `cons_wait`, after which nobody owes less. -/
structure Silent (width : PointerWidth) (channel next : Channel T E) : Prop where
  ready : channel.rx = .idle → next.rx = .idle → next.Ready width →
    channel.Ready width ∨ next.OwesWake
  closed : HasClosed next.core.dequeuePos →
    HasClosed channel.core.dequeuePos ∨ next.OwesClose
  owesWake : channel.OwesWake → next.OwesWake
  owesClose : channel.OwesClose → next.OwesClose

/-- What a step means to a receiver that waits. -/
inductive Heard (width : PointerWidth) (channel next : Channel T E) :
    List (Event T E) → Prop
  | silent {events} (silent : Silent width channel next)
      (quiet : ∀ event ∈ events, event.calls = false) : Heard width channel next events
  | wakes {i} (closed : next.core.dequeuePos = channel.core.dequeuePos)
      (owesClose : channel.OwesClose → next.OwesClose) :
      Heard width channel next [.wakeCons, .sendOk i]
  | closes {i} {byError : Bool} :
      Heard width channel next
        (.closeCons :: if byError then [.closeResult i true] else [])

section Classification

variable {channel next : Channel T E} {events : List (Event T E)}

/-- Moving a task that owes nothing, with the slots and the position kept. -/
theorem Silent.of_goto {i : Nat} {handle : Option Nat} {pc pc' : Pc E} (core : Core E)
    (at_pc : channel.tasks[i]? = some ⟨handle, pc⟩) (free : ¬ pc.OwesWake)
    (dequeuePos : core.dequeuePos = channel.core.dequeuePos)
    (queue : core.queue = channel.core.queue) :
    Silent width channel { channel.goto i handle pc' with core := core } where
  ready _ _ isReady := by
    refine .inl ?_
    unfold Channel.Ready Core.dequeueOrder at isReady ⊢
    rwa [dequeuePos, queue] at isReady
  closed isClosed := .inl (by rwa [dequeuePos] at isClosed)
  owesWake := exists_taskAt_set at_pc free
  owesClose := exists_taskAt_set at_pc fun closing => free closing.owesWake

/-- A step that starts a task or moves the receiver away from `idle` leaves
everybody's debts as they are. -/
theorem Silent.of_tasks {added : List (Task E)} (tasks : next.tasks = channel.tasks ++ added)
    (ready : channel.rx = .idle → next.rx = .idle → next.Ready width → channel.Ready width)
    (closed : HasClosed next.core.dequeuePos → HasClosed channel.core.dequeuePos) :
    Silent width channel next where
  ready before after isReady := .inl (ready before after isReady)
  closed isClosed := .inl (closed isClosed)
  owesWake owes := by
    rw [Channel.OwesWake, tasks]
    exact exists_taskAt_append added owes
  owesClose owes := by
    rw [Channel.OwesClose, tasks]
    exact exists_taskAt_append added owes

theorem LocalMove.heard {i : Nat} {handle : Option Nat} {pc pc' : Pc E}
    (at_pc : channel.tasks[i]? = some ⟨handle, pc⟩)
    (move : LocalMove width channel.core i pc pc' events) :
    Heard width channel (channel.goto i handle pc') events := by
  cases move with
  | wakeReceiver =>
      exact .wakes rfl (exists_taskAt_set at_pc id)
  | closeConsWait => exact .closes
  | _ =>
      refine .silent (.of_goto channel.core at_pc id rfl rfl) ?_
      simp [Event.calls]

theorem StateMove.heard {i : Nat} {handle : Option Nat} {pc pc' : Pc E} {core : Core E}
    (at_pc : channel.tasks[i]? = some ⟨handle, pc⟩)
    (move : StateMove channel.core i pc pc' core events) :
    Heard width channel { channel.goto i handle pc' with core := core } events := by
  obtain ⟨dequeuePos, _, _, queue⟩ := move.queue_unchanged
  refine .silent (.of_goto _ at_pc ?_ dequeuePos queue) ?_
  · cases move <;> exact id
  · cases move <;> simp [Event.calls]

theorem Transition.heard (transition : Transition width channel events next) :
    Heard width channel next events := by
  cases transition with
  | taskLocal at_pc move => exact move.heard at_pc
  | taskState at_pc move => exact move.heard at_pc
  | call => exact .silent (.of_tasks rfl (fun _ _ => id) id) (by simp)
  | dropTx => exact .silent (.of_tasks rfl (fun _ _ => id) id) (by simp)
  | cloneTx | write =>
      exact .silent (.of_tasks (List.append_nil _).symm (fun _ _ => id) id) (by simp)
  | dropRx =>
      exact .silent (.of_tasks rfl (fun _ dropped => by cases dropped) id) (by simp)
  | allocate at_pc =>
      exact .silent (.of_goto _ at_pc id rfl rfl) (by simp [Event.calls])
  | free at_pc => exact .silent (.of_goto _ at_pc id rfl rfl) (by simp)
  | commitWon at_pc =>
      exact .silent (.of_goto _ at_pc id rfl rfl) (by simp [Event.calls])
  | closeRx at_pc => exact .silent (.of_goto _ at_pc id rfl rfl) (by simp)
  | @store i handle idx pos at_pc =>
      refine .silent ⟨fun _ _ _ => .inr ⟨i, ?_⟩, .inl, exists_taskAt_set at_pc id,
        exists_taskAt_set at_pc id⟩ (by simp [Event.calls])
      exact (taskAt_set_self at_pc).mpr trivial
  | @closeTx i handle byError at_pc =>
      have owing {pc : Pc E → Prop} (owes : pc (.closingConsWait byError)) :
          TaskAt (channel.tasks.set i ⟨handle, .closingConsWait byError⟩) i pc :=
        (taskAt_set_self at_pc).mpr owes
      exact .silent ⟨fun _ _ _ => .inr ⟨i, owing trivial⟩, fun _ => .inr ⟨i, owing trivial⟩,
        exists_taskAt_set at_pc id, exists_taskAt_set at_pc id⟩ (by simp)
  | rxLocal at_rx move =>
      refine .silent (.of_tasks (List.append_nil _).symm (fun _ _ => id) id) ?_
      cases move <;> simp [Event.calls]
  | dequeueWon at_rx current =>
      refine .silent (.of_tasks (List.append_nil _).symm (fun idle => ?_) ?_) (by simp)
      · cases at_rx.symm.trans idle
      · intro isClosed
        rw [current]
        exact (hasClosed_add_posOne width _).mp isClosed
  | release at_rx =>
      refine .silent (.of_tasks rfl (fun idle => ?_) id) (by simp [Event.calls])
      cases at_rx.symm.trans idle

/-- Where a poll that looks for its condition can go, told by the events. -/
def Turns (waiter : Waiter Cell) (events : List (Event T E)) (stage : PollStage) : Prop :=
  waiter.stage = .checking ∧ (stage = .away ∨ stage = .registering ∧ .empty ∈ events)

theorem Event.hear_quiet (ops : WaitCell Cell) (waiter : Waiter Cell) {event : Event T E}
    (quiet : event.calls = false) :
    event.hear ops waiter = waiter ∨
      ∃ stage, Turns waiter [event] stage ∧
        event.hear ops waiter = { waiter with stage := stage } := by
  by_cases looking : waiter.stage = .checking
  · cases event with
    | empty => exact .inr ⟨.registering, by simp [Turns, looking], if_pos looking⟩
    | received | recvClosed => exact .inr ⟨.away, ⟨looking, .inl rfl⟩, if_pos looking⟩
    | wakeCons | closeCons => cases quiet
    | _ => exact .inl rfl
  · refine .inl ?_
    cases event with
    | empty | received | recvClosed => exact if_neg looking
    | wakeCons | closeCons => cases quiet
    | _ => rfl

/-- Hearing events that do not call `cons_wait` can only end the search of a
poll, and leads it to register only after `Empty`. -/
theorem hear_all_quiet (ops : WaitCell Cell) (waiter : Waiter Cell)
    (quiet : ∀ event ∈ events, event.calls = false) :
    events.foldl (Event.hear ops) waiter = waiter ∨
      ∃ stage, Turns waiter events stage ∧
        events.foldl (Event.hear ops) waiter = { waiter with stage := stage } := by
  induction events generalizing waiter with
  | nil => exact .inl rfl
  | cons event later ih =>
      obtain ⟨now, rest⟩ := List.forall_mem_cons.mp quiet
      rw [List.foldl_cons]
      rcases Event.hear_quiet ops waiter now with same | ⟨stage, turns, eq⟩
      · rw [same]
        refine (ih waiter rest).imp_right fun ⟨stage, turns, eq⟩ => ⟨stage, ⟨turns.1, ?_⟩, eq⟩
        exact turns.2.imp_right fun found => ⟨found.1, List.mem_cons_of_mem _ found.2⟩
      · -- A poll that has ended its search hears nothing more.
        rw [eq]
        have still : stage ≠ .checking := by
          rcases turns.2 with rfl | ⟨rfl, _⟩ <;> exact PollStage.noConfusion
        rcases ih { waiter with stage := stage } rest with same | ⟨_, again, _⟩
        · refine .inr ⟨stage, ⟨turns.1, turns.2.imp_right fun found => ⟨found.1, ?_⟩⟩, same⟩
          exact List.mem_cons.mpr (.inl (List.mem_singleton.mp found.2))
        · exact absurd again.1 still

/-- With no call of `try_recv` and without dropping the receiver, an idle
receiver stays idle. -/
theorem step_rx_idle {action : Action T E} (idle : channel.rx = .idle)
    (away : action.whileAway = false)
    (stepTo : step width channel action = some (next, events)) : next.rx = .idle := by
  cases action with
  | run i =>
      simp only [step] at stepTo
      split at stepTo
      · rw [runTask_rx stepTo, idle]
      · cases stepTo
  | tryRecv | dropRx => cases away
  | runRx | spuriousRx =>
      simp only [step, runRx, idle] at stepTo
      cases stepTo
  | _ =>
      simp only [step] at stepTo
      repeat' split at stepTo
      all_goals cases stepTo
      all_goals exact idle

/-- The words that `try_dequeue` loaded before examining a slot still name the
current position. -/
theorem RingInv.dequeueOrder_current {ledger : Ledger T}
    (inv : RingInv width ledger channel) {head : UInt16}
    (at_rx : channel.rx = .examining head) :
    channel.core.dequeueOrder width channel.core.dequeuePos =
      channel.core.dequeueOrder width head := by
  obtain ⟨flag, headEq⟩ := inv.receiver at_rx
  obtain ⟨current, dequeueEq⟩ := inv.dequeuePos
  rw [at_rx] at dequeueEq
  have samePos : channel.core.dequeuePos >>> posShift width = head >>> posShift width := by
    rw [← UInt16.toNat_inj, dequeueEq, headEq, word_shift_toNat (flag_lt width current),
      word_shift_toNat (flag_lt width flag)]
    rfl
  simp only [Core.dequeueOrder, samePos]

/-- After `Empty` the channel is ready only if it has been closed. -/
theorem Represents.closed_of_ready_after_empty {history : List (Event T E)}
    (represents : Represents width capacity history channel)
    (transition : Transition width channel events next) (answered : .empty ∈ events)
    (isReady : next.Ready width) : HasClosed next.core.dequeuePos := by
  obtain ⟨ledger, _, inv, _⟩ := represents
  obtain ⟨_, head, at_rx, behind, rfl⟩ := transition.empty answered
  rcases isReady with found | isClosed
  · rw [inv.dequeueOrder_current at_rx] at found
    exact absurd behind found
  · exact isClosed

end Classification

namespace Recv

/-- The receiver does not miss a message or a close: a wakeup is due, is
stored, or has been delivered. -/
structure Vigilant (ops : WaitCell Cell) (width : PointerWidth)
    (recv : Recv T E Cell) : Prop where
  alert : recv.waiter.Alert ops (recv.channel.Ready width) recv.channel.OwesWake
  closed : HasClosed recv.channel.core.dequeuePos →
    recv.channel.OwesClose ∨ ops.closed recv.waiter.cell
  idle : recv.waiter.stage = .registering ∨ recv.waiter.stage = .pending →
    recv.channel.rx = .idle

section Vigilant

variable {recv next : Recv T E Cell} {events history : List (Event T E)}

theorem Vigilant.silent {channel after : Channel T E} {waiter : Waiter Cell}
    (vigilant : Vigilant ops width ⟨channel, waiter⟩) (silent : Silent width channel after)
    (idle : waiter.stage = .registering ∨ waiter.stage = .pending → after.rx = .idle) :
    Vigilant ops width ⟨after, waiter⟩ where
  alert := by
    by_cases away : waiter.stage = .away ∨ waiter.stage = .checking
    · exact .of_stage away
    · have waits : waiter.stage = .registering ∨ waiter.stage = .pending := by
        cases stage : waiter.stage <;> simp [stage] at away ⊢
      exact vigilant.alert.mono (silent.ready (vigilant.idle waits) (idle waits))
        silent.owesWake
  closed isClosed := by
    rcases silent.closed isClosed with before | owes
    · exact (vigilant.closed before).imp_left silent.owesClose
    · exact .inl owes
  idle := idle

/-- A poll that looks for its condition ends, or goes on to register. -/
theorem Vigilant.turn (lawful : ops.Lawful) {channel after : Channel T E}
    {waiter : Waiter Cell} {stage : PollStage}
    (represents : Represents width capacity history channel)
    (vigilant : Vigilant ops width ⟨channel, waiter⟩) (silent : Silent width channel after)
    (transition : Transition width channel events after) (turns : Turns waiter events stage) :
    Vigilant ops width ⟨after, { waiter with stage := stage }⟩ := by
  have closed : HasClosed after.core.dequeuePos →
      after.OwesClose ∨ ops.closed waiter.cell := by
    intro isClosed
    rcases silent.closed isClosed with before | owes
    · exact (vigilant.closed before).imp_left silent.owesClose
    · exact .inl owes
  rcases turns.2 with rfl | ⟨rfl, answered⟩
  · exact ⟨.of_stage (.inl rfl), closed, by simp⟩
  · refine ⟨fun isReady => ?_, closed, fun _ => ?_⟩
    · rcases closed (represents.closed_of_ready_after_empty transition answered isReady) with
        owes | isClosed
      · exact .inl owes.owesWake
      · exact .inr (.inl (lawful.closed_notified _ isClosed))
    · obtain ⟨_, _, _, _, rfl⟩ := transition.empty answered
      rfl

/-- A step of the channel keeps the receiver vigilant. -/
theorem Vigilant.run (lawful : ops.Lawful) {waiter : Waiter Cell} {action : Action T E}
    (represents : Represents width capacity history recv.channel)
    (vigilant : Vigilant ops width ⟨recv.channel, waiter⟩)
    (away : waiter.stage = .registering ∨ waiter.stage = .pending → action.whileAway = false)
    (ran : recv.run ops width waiter action = some (next, events)) :
    Vigilant ops width next := by
  unfold Recv.run at ran
  split at ran
  · rename_i after answers stepTo
    cases ran
    have stays (waits : waiter.stage = .registering ∨ waiter.stage = .pending) :
        after.rx = .idle := step_rx_idle (vigilant.idle waits) (away waits) stepTo
    have transition := step_transition stepTo
    cases transition.heard with
    | silent silent quiet =>
        rcases hear_all_quiet ops waiter quiet with
          same | ⟨stage, turns, eq⟩
        · rw [same]
          exact vigilant.silent silent stays
        · rw [eq]
          exact vigilant.turn lawful represents silent transition turns
    | wakes dequeuePos owesClose =>
        refine ⟨vigilant.alert.wake lawful _ _, fun isClosed => ?_, stays⟩
        rw [dequeuePos] at isClosed
        exact (vigilant.closed isClosed).imp owesClose (lawful.wake_closed _)
    | @closes i byError =>
        have heard : (.closeCons :: if byError then [.closeResult i true] else [] :
            List (Event T E)).foldl (Event.hear ops) waiter = waiter.close ops := by
          cases byError <;> rfl
        rw [heard]
        exact ⟨vigilant.alert.close lawful _ _, fun _ => .inr (lawful.close_closed _), stays⟩
  · cases ran

/-- What one step of a polling receiver does with the wait cell and the channel. -/
inductive Move (ops : WaitCell Cell) (width : PointerWidth) (recv : Recv T E Cell) :
    RecvAction T E → List (Event T E) → Recv T E Cell → Prop
  | polls {next : Recv T E Cell} {events : List (Event T E)}
      (ran : recv.run ops width recv.waiter.poll .tryRecv = some (next, events)) :
      Move ops width recv .poll events next
  | notified {next : Recv T E Cell} {events : List (Event T E)}
      (registering : recv.waiter.stage = .registering)
      (looks : (recv.waiter.register ops).stage = .checking)
      (ran : recv.run ops width (recv.waiter.register ops) .tryRecv = some (next, events)) :
      Move ops width recv .pollWait events next
  | parks (registering : recv.waiter.stage = .registering) :
      Move ops width recv .pollWait [] { recv with waiter := recv.waiter.register ops }
  | cancels :
      Move ops width recv .cancel [] { recv with waiter := { recv.waiter with stage := .away } }
  | channel {action : Action T E} {next : Recv T E Cell} {events : List (Event T E)}
      (allowed : action.whileAway = true → recv.waiter.stage = .away)
      (ran : recv.run ops width recv.waiter action = some (next, events)) :
      Move ops width recv (.base action) events next

theorem step_move {action : RecvAction T E}
    (stepTo : recv.step ops width action = some (next, events)) :
    Move ops width recv action events next := by
  cases action with
  | poll =>
      simp only [Recv.step] at stepTo
      split at stepTo
      · exact .polls stepTo
      · exact .polls stepTo
      · cases stepTo
      · cases stepTo
  | pollWait =>
      simp only [Recv.step] at stepTo
      split at stepTo
      · rename_i registering
        split at stepTo
        · exact .notified registering ‹_› stepTo
        · cases stepTo
          exact .parks registering
      · cases stepTo
      · cases stepTo
      · cases stepTo
  | cancel =>
      simp only [Recv.step] at stepTo
      split at stepTo <;> cases stepTo
      exact .cancels
  | base action =>
      simp only [Recv.step] at stepTo
      split at stepTo
      · cases stepTo
      · rename_i allowed
        refine .channel (fun away => ?_) stepTo
        by_contra stage
        exact allowed ⟨away, stage⟩

/-- Every step of a channel whose receiver polls keeps the receiver vigilant. -/
theorem Vigilant.move (lawful : ops.Lawful) {action : RecvAction T E}
    (represents : Represents width capacity history recv.channel)
    (vigilant : Vigilant ops width recv) (move : Move ops width recv action events next) :
    Vigilant ops width next := by
  have registers (registering : recv.waiter.stage = .registering) :
      Vigilant ops width { recv with waiter := recv.waiter.register ops } :=
    ⟨vigilant.alert.register lawful registering,
      fun isClosed => (vigilant.closed isClosed).imp_right (lawful.poll_closed _),
      fun _ => vigilant.idle (.inl registering)⟩
  cases move with
  | polls ran =>
      have polls : Vigilant ops width ⟨recv.channel, recv.waiter.poll⟩ :=
        ⟨.of_stage (.inr rfl), vigilant.closed, by simp [Waiter.poll]⟩
      exact polls.run lawful represents (by simp [Waiter.poll]) ran
  | notified registering looks ran =>
      exact (registers registering).run lawful represents (by simp [looks]) ran
  | parks registering => exact registers registering
  | cancels => exact ⟨.of_stage (.inl rfl), vigilant.closed, by simp⟩
  | @channel action _ _ allowed ran =>
      refine vigilant.run lawful represents (fun waits => ?_) ran
      cases away : action.whileAway with
      | false => rfl
      | true => rcases waits with waits | waits <;> cases waits.symm.trans (allowed away)

/-- The channel of a polling receiver is a channel. -/
theorem Move.channel_step {action : RecvAction T E}
    (move : Move ops width recv action events next) :
    (next.channel = recv.channel ∧ events = []) ∨ ∃ base,
      ChannelCore.step width recv.channel base = some (next.channel, events) := by
  have ran {waiter : Waiter Cell} {base : Action T E}
      (ran : recv.run ops width waiter base = some (next, events)) :
      ChannelCore.step width recv.channel base = some (next.channel, events) := by
    unfold Recv.run at ran
    split at ran <;> cases ran
    assumption
  cases move with
  | polls made | notified _ _ made | channel _ made => exact .inr ⟨_, ran made⟩
  | parks | cancels => exact .inl ⟨rfl, rfl⟩

theorem vigilant_run (lawful : ops.Lawful) (capacityLe : capacity ≤ maxCapacity width)
    {final : Recv T E Cell}
    (run : Run (Recv.step ops width) anyStep (Recv.new ops width capacity) history final) :
    Vigilant ops width final := by
  refine (run.invariant (fun history recv =>
    Run (ChannelCore.step width) anyStep (Channel.new width capacity) history recv.channel ∧
      Vigilant ops width recv) ⟨.refl, ?_⟩ ?_).2
  · exact ⟨.of_stage (.inl rfl), fun isClosed => absurd (show HasClosed 0 from isClosed)
      (by decide), fun _ => rfl⟩
  · rintro past events recv next action ⟨channelRun, vigilant⟩ _ stepTo
    have move := step_move stepTo
    refine ⟨?_, vigilant.move lawful (represents_run capacityLe channelRun) move⟩
    rcases move.channel_step with ⟨same, rfl⟩ | ⟨base, ran⟩
    · rwa [same, List.append_nil]
    · exact channelRun.tail trivial ran

end Vigilant

end Recv

/-- An idle receiver of a channel that is not ready gets `Empty`. -/
theorem exec_tryRecv_empty {channel : Channel T E} (idle : channel.rx = .idle)
    (notReady : ¬ channel.Ready width) :
    ∃ next, exec (ChannelCore.step width) anyStep channel [.tryRecv, .runRx, .runRx] =
      some (next, [.empty]) := by
  simp only [Channel.Ready, not_or, not_not, hasClosed_iff_ne_zero] at notReady
  refine ⟨{ channel with rx := .idle }, ?_⟩
  simp [exec, anyStep, step, runRx, idle, notReady.1, notReady.2]

/-- Whenever the receiver of a polled channel is parked and no sender or closer
is between publishing and waking, `try_dequeue` answers `Empty`. -/
theorem parked_only_when_empty {history : List (Event T E)} {final : Recv T E Cell}
    (lawful : ops.Lawful) (capacityLe : capacity ≤ maxCapacity width)
    (run : Run (Recv.step ops width) anyStep (Recv.new ops width capacity) history final)
    (parked : final.waiter.Parked) (settled : ¬ final.channel.OwesWake) :
    ∃ next, exec (ChannelCore.step width) anyStep final.channel [.tryRecv, .runRx, .runRx] =
      some (next, [.empty]) := by
  have vigilant := Recv.vigilant_run lawful capacityLe run
  refine exec_tryRecv_empty (vigilant.idle (.inr parked.1)) fun isReady => ?_
  exact settled (vigilant.alert.parked parked isReady)

/-- A receiver that parked, was woken by a message, took it and parked again. -/
theorem parked_only_when_empty_after_one :
    ∃ (history : List (Event Nat Nat)) (final : Recv Nat Nat Slot),
      received history = [(0, some 7)] ∧ final.waiter.Parked ∧
      ∃ next, exec (ChannelCore.step .bits64) anyStep final.channel
        [.tryRecv, .runRx, .runRx] = some (next, [.empty]) := by
  obtain ⟨history, final, run, seen⟩ :=
    exists_run_of_exec (Recv.step WaitCell.storing .bits64) anyStep
      (Recv.new WaitCell.storing .bits64 1 : Recv Nat Nat Slot)
      [.poll, .base .runRx, .base .runRx, .pollWait, .base (.reserve 0 false),
        .base (.run 0), .base (.allocate 0 0), .base (.write 0 7), .base (.commit 0),
        .base (.run 0), .base (.run 0), .base (.run 0), .base (.run 0), .base (.run 0),
        .poll, .base .runRx, .base .runRx, .base .runRx, .base .runRx, .poll,
        .base .runRx, .base .runRx, .pollWait]
      (fun reached => (received reached.2, (reached.1.waiter.stage, reached.1.waiter.woken),
        reached.1.channel.tasks.all fun task => task.pc.done || task.pc.borrowsRx))
      (show _ = some ([(0, some 7)], (.pending, false), true) by decide +kernel)
  obtain ⟨taken, parked, settled⟩ := Prod.mk.injEq .. ▸ Prod.mk.injEq .. ▸ seen
  obtain ⟨stage, woken⟩ := Prod.mk.injEq .. ▸ parked
  refine ⟨history, final, taken, ⟨stage, woken⟩, parked_only_when_empty
    WaitCell.storing_lawful (by decide) run ⟨stage, woken⟩ ?_⟩
  rintro ⟨i, task, at_i, owes⟩
  have settledTask := List.all_eq_true.mp settled task (List.mem_of_getElem? at_i)
  cases pc : task.pc with
  | waking | closingConsWait _ => simp [pc, Pc.done, Pc.borrowsRx] at settledTask
  | _ => simp [pc, Pc.OwesWake] at owes

end ChannelCore

end Mgnp
