import Mgnp.ChannelTransitions
import Mgnp.ChannelTasks
import Mgnp.WaitQueue

/-!
# Senders waiting for capacity

`reserve` tries to reserve, waits in `prod_wait` when the channel is full, and
tries again when it is woken.  The state of this file is a channel with its
`prod_wait`; beginning to wait, being woken and trying again are steps of
their own.  Two fields record what the order of the calls is about and are
read by no step.
-/

namespace Mgnp

namespace ChannelCore

open LabelledRuns PositionWord

variable {T E Queue : Type*} {width : PointerWidth} {capacity : Nat}
  {ops : WaitQueue Queue Nat}

/-- A channel with the queue in which its senders wait. -/
structure Senders (T E Queue : Type*) where
  channel : Channel T E
  queue : Queue
  /-- The calls that `wake` has woken and that have not gone on since. -/
  woken : List Nat
  /-- The calls that have waited and not been answered since, in the order in
  which they began to wait. -/
  line : List Nat
  /-- For each call of `reserve` or `send` the calls that waited in the queue when
  it was made. -/
  ahead : Nat → List Nat

def Senders.new (ops : WaitQueue Queue Nat) (width : PointerWidth) (capacity : Nat) :
    Senders T E Queue where
  channel := .new width capacity
  queue := ops.new
  woken := []
  line := []
  ahead _ := []

inductive SendersAction (T E : Type*)
  /-- A call that found no index calls `prod_wait.wait()`. -/
  | await (task : Nat)
  /-- A call that has been woken goes on. -/
  | resume (task : Nat)
  /-- A step of the channel. -/
  | base (action : Action T E)

/-- `reserve` is at `prod_wait.wait()`. -/
def Pc.waits : Pc E → Bool
  | .waiting => true
  | _ => false

/-- Whether task `i` is at `prod_wait.wait()`. -/
def Channel.waitsAt (channel : Channel T E) (i : Nat) : Bool :=
  match channel.tasks[i]? with
  | some task => task.pc.waits
  | none => false

namespace Senders

/-- What an event of the channel does to `prod_wait` and to the line. -/
def hear (ops : WaitQueue Queue Nat) (senders : Senders T E Queue) :
    Event T E → Senders T E Queue
  | .wakeProd =>
      { senders with
        queue := (ops.wake senders.queue).1
        woken := senders.woken ++ (ops.wake senders.queue).2.toList }
  | .closeProd => { senders with queue := ops.close senders.queue }
  | .reserved i _ | .sendClosed i _ => { senders with line := senders.line.erase i }
  | _ => senders

/-- Record the calls in the queue when a call is made that may wait itself. -/
def recordCall (waiters : List Nat) (senders : Senders T E Queue) (blocking : Bool) :
    Senders T E Queue :=
  { senders with
    ahead := Function.update senders.ahead senders.channel.tasks.length
      (if blocking then waiters else []) }

/-- A step of the channel, heard by `prod_wait`. -/
def run (ops : WaitQueue Queue Nat) (width : PointerWidth) (senders : Senders T E Queue)
    (action : Action T E) : Option (Senders T E Queue × List (Event T E)) :=
  match ChannelCore.step width senders.channel action with
  | some (next, events) =>
      some (events.foldl (hear ops) { senders with channel := next }, events)
  | none => none

/-- The waiters of `prod_wait`. -/
def waiters (ops : WaitQueue Queue Nat) (senders : Senders T E Queue) : List Nat :=
  (ops.view senders.queue).waiters

def step (ops : WaitQueue Queue Nat) (width : PointerWidth) (senders : Senders T E Queue) :
    SendersAction T E → Option (Senders T E Queue × List (Event T E))
  | .await i =>
      if senders.channel.waitsAt i = true ∧ i ∉ senders.waiters ops ++ senders.woken then
        let next := { senders with queue := (ops.wait senders.queue i).1 }
        match (ops.wait senders.queue i).2 with
        | .ready => next.run ops width (.woken i)
        | .registered => some ({ next with line := senders.line.erase i ++ [i] }, [])
        | .closed => next.run ops width (.run i)
      else none
  | .resume i =>
      if i ∈ senders.woken then
        { senders with woken := senders.woken.erase i }.run ops width (.woken i)
      else none
  | .base action =>
      match action with
      | .woken _ => none
      | .run i => if senders.channel.waitsAt i then none else senders.run ops width (.run i)
      | .reserve handle blocking =>
          (senders.recordCall (senders.waiters ops) blocking).run ops width
            (.reserve handle blocking)
      | _ => senders.run ops width action

end Senders

/-- Whether an event is a call of `prod_wait`. -/
def Event.callsProd : Event T E → Bool
  | .wakeProd | .closeProd => true
  | _ => false

section Steps

variable {channel next : Channel T E} {events : List (Event T E)} {i : Nat}

theorem Channel.waitsAt_iff :
    channel.waitsAt i = true ↔ TaskAt channel.tasks i (fun pc => pc.waits = true) := by
  unfold Channel.waitsAt TaskAt
  cases channel.tasks[i]? <;> simp

theorem LocalMove.callsProd {core : Core E} {pc pc' : Pc E}
    (move : LocalMove width core i pc pc' events) :
    (∀ event ∈ events, event.callsProd = false) ∨ events = [.wakeProd] := by
  cases move with
  | wakeSender => exact .inr rfl
  | @closeConsWait byError => exact .inl (by cases byError <;> simp [Event.callsProd])
  | _ => exact .inl (by simp [Event.callsProd])

theorem StateMove.callsProd {core core' : Core E} {pc pc' : Pc E}
    (move : StateMove core i pc pc' core' events) :
    (∀ event ∈ events, event.callsProd = false) ∨ events = [.closeProd] := by
  cases move with
  | closeProdWait => exact .inr rfl
  | _ => exact .inl (by simp [Event.callsProd])

/-- A step calls `prod_wait` at most once and then reports nothing else. -/
theorem Transition.callsProd (transition : Transition width channel events next) :
    (∀ event ∈ events, event.callsProd = false) ∨ events = [.wakeProd] ∨
      events = [.closeProd] := by
  cases transition with
  | taskLocal _ move => exact move.callsProd.imp_right .inl
  | taskState _ move => exact move.callsProd.imp_right .inr
  | rxLocal _ move => exact .inl (by cases move <;> simp [Event.callsProd])
  | _ => exact .inl (by simp [Event.callsProd])

/-- Only two actions move a task that waits. -/
theorem step_of_waits {action : Action T E}
    (stepTo : step width channel action = some (next, events))
    (waits : TaskAt channel.tasks i fun pc => pc.waits = true)
    (moves : action.task = some i) : action = .run i ∨ action = .woken i := by
  obtain ⟨⟨handle, pc⟩, at_i, isWaiting⟩ := waits
  cases pc with
  | waiting =>
      cases action with
      | run k => exact .inl (by cases moves; rfl)
      | woken k => exact .inr (by cases moves; rfl)
      | allocate k | spurious k | write k | commit k | release k =>
          cases moves
          simp [step, at_i] at stepTo
      | _ => cases moves
  | _ => cases isWaiting

end Steps

namespace Senders

variable {senders next : Senders T E Queue} {events history : List (Event T E)}

@[simp] theorem hear_channel (event : Event T E) :
    (senders.hear ops event).channel = senders.channel := by
  cases event <;> rfl

@[simp] theorem hear_ahead (event : Event T E) :
    (senders.hear ops event).ahead = senders.ahead := by
  cases event <;> rfl

theorem hear_quiet {event : Event T E} (quiet : event.callsProd = false) :
    (senders.hear ops event).queue = senders.queue ∧
      (senders.hear ops event).woken = senders.woken := by
  cases event with
  | wakeProd | closeProd => cases quiet
  | _ => exact ⟨rfl, rfl⟩

theorem hear_all :
    (events.foldl (hear ops) senders).channel = senders.channel ∧
      (events.foldl (hear ops) senders).ahead = senders.ahead := by
  induction events generalizing senders with
  | nil => exact ⟨rfl, rfl⟩
  | cons event later ih =>
      rw [List.foldl_cons]
      simpa using @ih (senders.hear ops event)

theorem hear_all_quiet (ops : WaitQueue Queue Nat) (senders : Senders T E Queue)
    (quiet : ∀ event ∈ events, event.callsProd = false) :
    (events.foldl (hear ops) senders).queue = senders.queue ∧
      (events.foldl (hear ops) senders).woken = senders.woken := by
  induction events generalizing senders with
  | nil => exact ⟨rfl, rfl⟩
  | cons event later ih =>
      obtain ⟨now, rest⟩ := List.forall_mem_cons.mp quiet
      obtain ⟨queue, woken⟩ := ih (senders.hear ops event) rest
      rw [List.foldl_cons, queue, woken]
      exact hear_quiet now

/-- A step of the channel under `prod_wait`. -/
theorem run_step {action : Action T E}
    (ran : senders.run ops width action = some (next, events)) :
    ∃ after, ChannelCore.step width senders.channel action = some (after, events) ∧
      next = events.foldl (hear ops) { senders with channel := after } := by
  unfold run at ran
  split at ran
  · cases ran
    exact ⟨_, ‹_›, rfl⟩
  · cases ran

/-- Calls wait in one place at a time. -/
structure Placed (ops : WaitQueue Queue Nat) (senders : Senders T E Queue) : Prop where
  waits : ∀ i ∈ senders.waiters ops ++ senders.woken,
    TaskAt senders.channel.tasks i fun pc => pc.waits = true
  nodup : (senders.waiters ops ++ senders.woken).Nodup

/-- The waiters and the woken calls after `wake`. -/
theorem woken_perm (lawful : ops.Lawful) (queue : Queue) (woken : List Nat) :
    ((ops.view (ops.wake queue).1).waiters ++ (woken ++ (ops.wake queue).2.toList)).Perm
      ((ops.view queue).waiters ++ woken) := by
  rw [lawful.view_wake, lawful.woken]
  cases woke : (ops.view queue).wake.2 with
  | some key =>
      rw [(QueueView.wake_some woke).1]
      simp only [Option.toList_some, ← List.append_assoc, List.cons_append]
      exact List.perm_append_singleton _ _
  | none =>
      obtain ⟨before, after, _⟩ := QueueView.wake_none woke
      simp [before, after]

theorem Placed.of_subperm {after : Senders T E Queue} (placed : Placed ops senders)
    (subperm : (after.waiters ops ++ after.woken).Subperm
      (senders.waiters ops ++ senders.woken))
    (kept : ∀ i ∈ senders.waiters ops ++ senders.woken,
      TaskAt after.channel.tasks i fun pc => pc.waits = true) : Placed ops after where
  waits i member := kept i (subperm.subset member)
  nodup := by
    obtain ⟨list, perm, sublist⟩ := subperm
    exact perm.nodup_iff.mp (sublist.nodup placed.nodup)

/-- A step that moves no call in the queue keeps the calls in their places. -/
theorem Placed.run (lawful : ops.Lawful) (placed : Placed ops senders) {action : Action T E}
    (others : ∀ i ∈ senders.waiters ops ++ senders.woken, action.task ≠ some i)
    (ran : senders.run ops width action = some (next, events)) : Placed ops next := by
  obtain ⟨after, stepTo, rfl⟩ := run_step ran
  have kept : ∀ i ∈ senders.waiters ops ++ senders.woken,
      TaskAt after.tasks i fun pc => pc.waits = true := by
    intro i member
    obtain ⟨task, at_i, waits⟩ := placed.waits i member
    exact ⟨task, step_others stepTo (others i member) at_i, waits⟩
  rcases (step_transition stepTo).callsProd with quiet | rfl | rfl
  · obtain ⟨queue, woken⟩ :=
      hear_all_quiet ops { senders with channel := after } quiet
    refine placed.of_subperm ?_ (by rwa [hear_all.1])
    rw [waiters, queue, woken]
    exact .refl _
  · exact placed.of_subperm (woken_perm lawful senders.queue senders.woken).subperm kept
  · refine placed.of_subperm ?_ kept
    have emptied : (ops.view (ops.close senders.queue)).waiters = [] := by
      rw [lawful.close]
      rfl
    simp only [List.foldl_cons, List.foldl_nil, hear, waiters, emptied, List.nil_append]
    exact (List.sublist_append_right _ _).subperm

theorem placed_new (lawful : ops.Lawful) :
    Placed ops (Senders.new ops width capacity : Senders T E Queue) := by
  have nobody : (ops.view ops.new).waiters = [] := by rw [lawful.new]; rfl
  constructor <;> simp [waiters, nobody, Senders.new]

/-- What one step can do to the queue and to the calls that wait. -/
inductive Move (ops : WaitQueue Queue Nat) (width : PointerWidth)
    (senders : Senders T E Queue) :
    SendersAction T E → List (Event T E) → Senders T E Queue → Prop
  | registers {i : Nat} {queue : Queue}
      (waits : TaskAt senders.channel.tasks i fun pc => pc.waits = true)
      (absent : i ∉ senders.waiters ops ++ senders.woken)
      (plain : ((ops.view senders.queue).stored || (ops.view senders.queue).closed) = false)
      (grown : (ops.view queue).waiters = senders.waiters ops ++ [i])
      (stored : (ops.view queue).stored = false)
      (closed : (ops.view queue).closed = (ops.view senders.queue).closed) :
      Move ops width senders (.await i) []
        { senders with queue := queue, line := senders.line.erase i ++ [i] }
  | consumes {i : Nat} {queue : Queue} {events next}
      (absent : i ∉ senders.waiters ops ++ senders.woken)
      (notified : (ops.view senders.queue).stored = true)
      (kept : (ops.view queue).waiters = senders.waiters ops)
      (stored : (ops.view queue).stored = false)
      (closed : (ops.view queue).closed = (ops.view senders.queue).closed)
      (ran : { senders with queue := queue }.run ops width (.woken i) =
        some (next, events)) : Move ops width senders (.await i) events next
  | seesClosed {i : Nat} {queue : Queue} {events next}
      (absent : i ∉ senders.waiters ops ++ senders.woken)
      (isClosed : (ops.view senders.queue).closed = true)
      (kept : ops.view queue = ops.view senders.queue)
      (ran : { senders with queue := queue }.run ops width (.run i) =
        some (next, events)) : Move ops width senders (.await i) events next
  | resumes {i : Nat} {events next} (member : i ∈ senders.woken)
      (ran : { senders with woken := senders.woken.erase i }.run ops width (.woken i) =
        some (next, events)) : Move ops width senders (.resume i) events next
  | calls {handle : Nat} {blocking : Bool} {events next}
      (ran : (senders.recordCall (senders.waiters ops) blocking).run ops width
        (.reserve handle blocking) = some (next, events)) :
      Move ops width senders (.base (.reserve handle blocking)) events next
  | moves {action : Action T E} {events next}
      (notWoken : ∀ i, action ≠ .woken i)
      (notWaiting : ∀ i, action = .run i → senders.channel.waitsAt i = false)
      (ran : senders.run ops width action = some (next, events)) :
      Move ops width senders (.base action) events next

theorem step_move (lawful : ops.Lawful) {action : SendersAction T E}
    (stepTo : senders.step ops width action = some (next, events)) :
    Move ops width senders action events next := by
  cases action with
  | await i =>
      simp only [Senders.step] at stepTo
      split at stepTo
      · rename_i called
        split at stepTo <;> rename_i answer <;> rw [lawful.answer_wait] at answer
        · obtain ⟨notified, kept, stored, closed⟩ := QueueView.wait_ready answer
          rw [← lawful.view_wait] at kept stored closed
          exact .consumes called.2 notified kept stored closed stepTo
        · obtain ⟨plain, grown, stored, closed⟩ := QueueView.wait_registered answer
          rw [← lawful.view_wait] at grown stored closed
          cases stepTo
          exact .registers (Channel.waitsAt_iff.mp called.1) called.2 plain grown stored closed
        · obtain ⟨isClosed, kept⟩ := QueueView.wait_closed answer
          rw [← lawful.view_wait] at kept
          exact .seesClosed called.2 isClosed kept stepTo
      · cases stepTo
  | resume i =>
      simp only [Senders.step] at stepTo
      split at stepTo
      · rename_i member
        exact .resumes member stepTo
      · cases stepTo
  | base action =>
      cases action with
      | woken i => cases stepTo
      | run i =>
          simp only [Senders.step] at stepTo
          split at stepTo
          · cases stepTo
          · rename_i moving
            refine .moves (by simp) ?_ stepTo
            rintro k ⟨⟩
            simpa using moving
      | reserve handle blocking => exact .calls stepTo
      | _ => exact .moves (by simp) (by simp) stepTo

theorem run_channel {before : Senders T E Queue} {base : Action T E}
    (ran : before.run ops width base = some (next, events))
    (same : before.channel = senders.channel) :
    ChannelCore.step width senders.channel base = some (next.channel, events) := by
  obtain ⟨after, stepTo, rfl⟩ := run_step ran
  rw [hear_all.1, ← same]
  exact stepTo

/-- A step of the senders is a step of the channel, or leaves it alone. -/
theorem Move.channel {action : SendersAction T E}
    (move : Move ops width senders action events next) :
    (next.channel = senders.channel ∧ events = []) ∨ ∃ base,
      ChannelCore.step width senders.channel base = some (next.channel, events) := by
  cases move with
  | registers => exact .inl ⟨rfl, rfl⟩
  | consumes _ _ _ _ _ ran => exact .inr ⟨_, run_channel ran rfl⟩
  | seesClosed _ _ _ ran => exact .inr ⟨_, run_channel ran rfl⟩
  | resumes _ ran => exact .inr ⟨_, run_channel ran rfl⟩
  | calls ran => exact .inr ⟨_, run_channel ran rfl⟩
  | moves _ _ ran => exact .inr ⟨_, run_channel ran rfl⟩

theorem Placed.requeue (placed : Placed ops senders) {queue : Queue}
    (kept : (ops.view queue).waiters = senders.waiters ops) :
    Placed ops { senders with queue := queue } := by
  refine placed.of_subperm ?_ placed.waits
  rw [waiters, kept]

theorem Placed.resume (placed : Placed ops senders) (i : Nat) :
    Placed ops { senders with woken := senders.woken.erase i } := by
  have fewer : (senders.waiters ops ++ senders.woken.erase i).Sublist
      (senders.waiters ops ++ senders.woken) :=
    (List.Sublist.refl _).append List.erase_sublist
  exact placed.of_subperm fewer.subperm placed.waits

theorem Placed.step (lawful : ops.Lawful) (placed : Placed ops senders)
    {action : SendersAction T E}
    (stepTo : senders.step ops width action = some (next, events)) : Placed ops next := by
  cases step_move lawful stepTo with
  | @registers i queue waits absent _ grown =>
      have perm : ((ops.view queue).waiters ++ senders.woken).Perm
          (i :: (senders.waiters ops ++ senders.woken)) := by
        rw [grown, List.append_assoc]
        exact List.perm_middle
      constructor
      · intro k member
        rcases List.mem_cons.mp (perm.subset member) with rfl | before
        · exact waits
        · exact placed.waits k before
      · exact perm.nodup_iff.mpr (List.nodup_cons.mpr ⟨absent, placed.nodup⟩)
  | @consumes i queue _ _ absent _ kept _ _ ran =>
      refine (placed.requeue kept).run lawful ?_ ran
      rintro k member ⟨⟩
      exact absent (kept ▸ member)
  | @seesClosed i queue _ _ absent _ kept ran =>
      have same : (ops.view queue).waiters = senders.waiters ops := by rw [kept]; rfl
      refine (placed.requeue same).run lawful ?_ ran
      rintro k member ⟨⟩
      exact absent (same ▸ member)
  | @resumes i _ _ member ran =>
      refine (placed.resume i).run lawful ?_ ran
      obtain ⟨_, wokenNodup, apart⟩ := List.nodup_append.mp placed.nodup
      rintro k found ⟨⟩
      rcases List.mem_append.mp found with waiting | woken
      · exact apart _ waiting _ member rfl
      · exact wokenNodup.not_mem_erase woken
  | @calls handle blocking _ _ ran =>
      have before : Placed ops (senders.recordCall (senders.waiters ops) blocking) :=
        ⟨placed.waits, placed.nodup⟩
      refine before.run lawful ?_ ran
      rintro k _ ⟨⟩
  | @moves action _ _ notWoken notWaiting ran =>
      refine placed.run lawful (fun i member task => ?_) ran
      obtain ⟨after, stepTo, _⟩ := run_step ran
      have waits := placed.waits i member
      rcases step_of_waits stepTo waits task with runs | wakes
      · have moving := notWaiting i runs
        rw [Channel.waitsAt_iff.mpr waits] at moving
        cases moving
      · exact notWoken i wakes

end Senders

end ChannelCore

end Mgnp
