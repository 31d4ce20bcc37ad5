import Mgnp.ChannelClosing
import Mgnp.ChannelQueueing

/-!
# Whether senders sleep while there is capacity

A dropped reservation frees its index and then wakes one sender.  A wakeup that
finds nobody in the queue is stored, and a second one is merged into it.  The
free indices are compared with the wakeups that are still to have an effect and
with the calls that are still to wait.
-/

namespace Mgnp

namespace ChannelCore

open LabelledRuns PositionWord

variable {T E Queue : Type*} {width : PointerWidth} {capacity : Nat}
  {ops : WaitQueue Queue Nat}

/-- The task is going to look for a free index, or to wake a call that does. -/
def Pc.seeks : Pc E → Bool
  | .freed | .reserving true | .allocating true => true
  | _ => false

def Channel.seeking (channel : Channel T E) : Nat :=
  channel.tasks.countP fun task => task.pc.seeks

/-- How many calls are at `prod_wait.wait()`, in the queue or not. -/
def Channel.waiting (channel : Channel T E) : Nat :=
  channel.tasks.countP fun task => task.pc.waits

/-- What a step of an open channel does to its capacity. -/
inductive Shift (channel next : Channel T E) : List (Event T E) → Prop
  /-- No index is freed without somebody to look for it. -/
  | keeps {events}
      (free : next.core.indices.length + channel.seeking ≤
        channel.core.indices.length + next.seeking)
      (waiting : next.waiting ≤ channel.waiting)
      (quiet : ∀ event ∈ events, event.callsProd = false) : Shift channel next events
  /-- A call found no index and is going to wait. -/
  | parks {events} (exhausted : next.core.indices = [])
      (quiet : ∀ event ∈ events, event.callsProd = false) : Shift channel next events
  /-- A dropped reservation wakes a sender. -/
  | wakes (indices : next.core.indices = channel.core.indices)
      (seeking : next.seeking + 1 = channel.seeking)
      (waiting : next.waiting = channel.waiting) : Shift channel next [.wakeProd]

section Shift

variable {channel next : Channel T E} {events : List (Event T E)} {i : Nat}
  {handle : Option Nat} {pc pc' : Pc E}

theorem seeking_goto (at_pc : channel.tasks[i]? = some ⟨handle, pc⟩) (pc' : Pc E) :
    (channel.goto i handle pc').seeking + pc.seeks.toNat =
      channel.seeking + pc'.seeks.toNat :=
  countP_set Pc.seeks at_pc ⟨handle, pc'⟩

theorem waiting_goto (at_pc : channel.tasks[i]? = some ⟨handle, pc⟩) (pc' : Pc E) :
    (channel.goto i handle pc').waiting + pc.waits.toNat =
      channel.waiting + pc'.waits.toNat :=
  countP_set Pc.waits at_pc ⟨handle, pc'⟩

/-- A task moves that looks for no index before or after, beside other changes of
the channel. -/
theorem Shift.of_goto (core : Core E) (at_pc : channel.tasks[i]? = some ⟨handle, pc⟩)
    (free : core.indices.length + pc.seeks.toNat ≤
      channel.core.indices.length + pc'.seeks.toNat)
    (waits : pc'.waits = false) (quiet : ∀ event ∈ events, event.callsProd = false) :
    Shift channel { channel.goto i handle pc' with core := core } events := by
  have seeking := seeking_goto at_pc pc'
  have waiting := waiting_goto at_pc pc'
  rw [waits] at waiting
  exact .keeps (show core.indices.length + channel.seeking ≤ channel.core.indices.length +
    (channel.goto i handle pc').seeking by omega)
    (show (channel.goto i handle pc').waiting ≤ channel.waiting by
      simp only [Bool.toNat_false] at waiting; omega) quiet

theorem Shift.of_spawn {task : Task E} (tasks : next.tasks = channel.tasks ++ [task])
    (indices : next.core.indices = channel.core.indices) (waits : task.pc.waits = false)
    (quiet : ∀ event ∈ events, event.callsProd = false) : Shift channel next events := by
  refine .keeps ?_ ?_ quiet
  · rw [indices, Channel.seeking, Channel.seeking, tasks, List.countP_append]
    omega
  · rw [Channel.waiting, Channel.waiting, tasks, List.countP_append, List.countP_singleton, waits]
    simp

theorem Shift.of_tasks (tasks : next.tasks = channel.tasks)
    (indices : next.core.indices = channel.core.indices)
    (quiet : ∀ event ∈ events, event.callsProd = false) : Shift channel next events := by
  refine .keeps ?_ ?_ quiet
  · rw [indices, Channel.seeking, Channel.seeking, tasks]
  · rw [Channel.waiting, Channel.waiting, tasks]

/-- A call goes to wait only when it has found no free index. -/
theorem exhausted_of_park {action : Action T E}
    (at_pc : channel.tasks[i]? = some ⟨handle, .allocating true⟩)
    (stepTo : step width channel action = some (next, events))
    (parks : TaskAt next.tasks i fun pc => pc.waits = true) : channel.core.indices = [] := by
  have moves : action.task = some i := by
    by_contra other
    have kept := step_others stepTo other at_pc
    cases (taskAt_iff_of_pc kept).mp parks
  cases action with
  | run k =>
      cases moves
      simp only [step, at_pc, runTask] at stepTo
      split at stepTo
      · assumption
      · cases stepTo
  | allocate k idx =>
      cases moves
      simp only [step, at_pc] at stepTo
      split at stepTo <;> cases stepTo
      cases (taskAt_set_self at_pc).mp parks
  | spurious k | woken k | write k | commit k | release k =>
      cases moves
      simp [step, at_pc] at stepTo
  | _ => cases moves

theorem LocalMove.shift (closing : ClosingInv channel)
    (isOpen : ¬ HasClosed channel.core.enqueuePos)
    (at_pc : channel.tasks[i]? = some ⟨handle, pc⟩)
    (move : LocalMove width channel.core i pc pc' events)
    (exhausted : pc = .allocating true → pc' = .waiting → channel.core.indices = []) :
    Shift channel (channel.goto i handle pc') events := by
  have quietly (quiet : ∀ event ∈ events, event.callsProd = false)
      (seeks : pc.seeks.toNat ≤ pc'.seeks.toNat) (waits : pc'.waits = false) :
      Shift channel (channel.goto i handle pc') events :=
    .of_goto channel.core at_pc (Nat.add_le_add_left seeks _) waits quiet
  cases move with
  | sawClosed isClosed => exact absurd isClosed isOpen
  | waitClosed isClosed => exact absurd (closing.prodWait isClosed) isOpen
  | park => exact .parks (exhausted rfl rfl) (by simp)
  | wakeSender =>
      have seeking := seeking_goto at_pc .finished
      have waiting := waiting_goto at_pc .finished
      exact .wakes rfl seeking waiting
  | @sawOpen blocking => exact quietly (by simp) (by cases blocking <;> simp [Pc.seeks]) rfl
  | @closeConsWait byError =>
      exact quietly (by cases byError <;> simp [Event.callsProd]) (Nat.le_refl _) rfl
  | woken => exact quietly (by simp) (by simp [Pc.seeks]) rfl
  | _ => exact quietly (by simp [Event.callsProd]) (Nat.le_refl _) rfl

theorem StateMove.shift {core : Core E} (closing : ClosingInv channel)
    (isOpen : ¬ HasClosed channel.core.enqueuePos)
    (at_pc : channel.tasks[i]? = some ⟨handle, pc⟩)
    (move : StateMove channel.core i pc pc' core events) :
    Shift channel { channel.goto i handle pc' with core := core } events := by
  have indices := move.queue_unchanged.2.2.1
  have quietly (quiet : ∀ event ∈ events, event.callsProd = false)
      (seeks : pc.seeks.toNat ≤ pc'.seeks.toNat) (waits : pc'.waits = false) :
      Shift channel { channel.goto i handle pc' with core := core } events :=
    .of_goto core at_pc (by rw [indices]; exact Nat.add_le_add_left seeks _) waits quiet
  cases move with
  | closeProdWait => exact absurd (closing.tasks _ (List.mem_of_getElem? at_pc)) isOpen
  | dropTx =>
      refine quietly (by simp) (Nat.zero_le _) ?_
      split <;> rfl
  | _ => exact quietly (by simp [Event.callsProd]) (Nat.le_refl _) rfl

/-- Every step of an open channel is one of the shifts. -/
theorem step_shift {action : Action T E} (closing : ClosingInv channel)
    (isOpen : ¬ HasClosed next.core.enqueuePos)
    (stepTo : step width channel action = some (next, events)) : Shift channel next events := by
  have transition := step_transition stepTo
  have wasOpen : ¬ HasClosed channel.core.enqueuePos := fun isClosed =>
    isOpen (transition.enqueue_closed isClosed)
  cases transition with
  | @taskLocal i handle pc pc' _ at_pc move =>
      refine move.shift closing wasOpen at_pc ?_
      rintro rfl rfl
      exact exhausted_of_park at_pc stepTo ((taskAt_set_self at_pc).mpr rfl)
  | taskState at_pc move => exact move.shift closing wasOpen at_pc
  | call called =>
      refine .of_spawn rfl rfl ?_ (by simp)
      cases called <;> rfl
  | dropTx | dropRx => exact .of_spawn rfl rfl rfl (by simp)
  | release => exact .of_spawn rfl rfl rfl (by simp [Event.callsProd])
  | cloneTx | write | dequeueWon => exact .of_tasks rfl rfl (by simp)
  | rxLocal _ move =>
      refine .of_tasks rfl rfl ?_
      cases move <;> simp [Event.callsProd]
  | @allocate i handle blocking idx at_pc free =>
      refine .of_goto _ at_pc ?_ rfl (by simp [Event.callsProd])
      have erased := List.length_erase_of_mem free
      have some := List.length_pos_of_mem free
      cases blocking <;> simp [Pc.seeks] <;> omega
  | @free i handle fromReceiver idx at_pc =>
      refine .of_goto _ at_pc ?_ rfl (by simp)
      simp [Pc.seeks]
  | commitWon at_pc | store at_pc =>
      exact .of_goto _ at_pc (Nat.le_refl _) rfl (by simp [Event.callsProd])
  | closeRx at_pc | closeTx at_pc => exact .of_goto _ at_pc (Nat.le_refl _) rfl (by simp)

/-- A woken call looks for an index again. -/
theorem woken_shift (stepTo : step width channel (.woken i) = some (next, events)) :
    events = [] ∧ next.core = channel.core ∧ next.seeking = channel.seeking + 1 ∧
      next.waiting + 1 = channel.waiting := by
  simp only [step] at stepTo
  split at stepTo <;> cases stepTo
  rename_i at_pc
  exact ⟨rfl, rfl, seeking_goto at_pc _, waiting_goto at_pc _⟩

theorem runTask_wakeProd {task : Task E}
    (ran : runTask width channel i task = some (next, events)) (woke : .wakeProd ∈ events) :
    task.pc = .freed := by
  obtain ⟨handle, pc⟩ := task
  cases pc <;> simp only [runTask] at ran
  case freed => rfl
  all_goals
    repeat' split at ran
    all_goals cases ran
    all_goals simp at woke

/-- The wakeup of a dropped reservation. -/
theorem run_of_wakeProd {action : Action T E}
    (stepTo : step width channel action = some (next, events)) (woke : .wakeProd ∈ events) :
    ∃ i, action = .run i ∧ TaskAt channel.tasks i fun pc => pc = .freed := by
  cases action with
  | run i =>
      simp only [step] at stepTo
      split at stepTo
      · rename_i task at_i
        exact ⟨i, rfl, task, at_i, runTask_wakeProd stepTo woke⟩
      · cases stepTo
  | runRx =>
      simp only [step, runRx] at stepTo
      repeat' split at stepTo
      all_goals cases stepTo
      all_goals simp at woke
  | _ =>
      simp only [step] at stepTo
      repeat' split at stepTo
      all_goals cases stepTo
      all_goals simp at woke

end Shift

namespace Senders

variable {senders next : Senders T E Queue} {events history : List (Event T E)}

/-- The wakeups that have not had an effect yet. -/
def wakeups (ops : WaitQueue Queue Nat) (senders : Senders T E Queue) : Nat :=
  (ops.view senders.queue).stored.toNat + senders.woken.length

/-- Every free index has somebody coming for it, unless every call that is
going to wait will find a wakeup. -/
def Covers (ops : WaitQueue Queue Nat) (senders : Senders T E Queue) : Prop :=
  senders.channel.core.indices.length ≤ senders.wakeups ops + senders.channel.seeking ∨
    senders.channel.waiting ≤ senders.wakeups ops

/-- The free indices of an open channel are looked after. -/
structure Covered (ops : WaitQueue Queue Nat) (senders : Senders T E Queue) : Prop where
  placed : Placed ops senders
  closing : ClosingInv senders.channel
  queueOpen : ¬ HasClosed senders.channel.core.enqueuePos →
    (ops.view senders.queue).closed = false
  covers : ¬ HasClosed senders.channel.core.enqueuePos → Covers ops senders

/-- The step does not merge a wakeup that is needed: when it is merged, at most
one call is at `wait()`, or enough others are coming for the free indices. -/
def Heeded (ops : WaitQueue Queue Nat) (senders : Senders T E Queue) :
    SendersAction T E → Prop
  | .base (.run i) =>
      TaskAt senders.channel.tasks i (fun pc => pc = .freed) → senders.waiters ops = [] →
        (ops.view senders.queue).stored = true →
          senders.channel.core.indices.length < senders.wakeups ops + senders.channel.seeking ∨
            senders.channel.waiting ≤ senders.wakeups ops
  | _ => True

/-- What a step of an open channel does to its queue. -/
theorem run_shift {action : Action T E} (closing : ClosingInv senders.channel)
    (ran : senders.run ops width action = some (next, events))
    (isOpen : ¬ HasClosed next.channel.core.enqueuePos) :
    Shift senders.channel next.channel events ∧
      ((∀ event ∈ events, event.callsProd = false) →
        next.queue = senders.queue ∧ next.woken = senders.woken) := by
  obtain ⟨after, stepTo, rfl⟩ := run_step ran
  rw [hear_all.1] at isOpen ⊢
  refine ⟨step_shift closing isOpen stepTo, fun quiet => ?_⟩
  exact hear_all_quiet ops _ quiet

/-- A merged wakeup is the only one that can be missed. -/
theorem Covered.run (lawful : ops.Lawful) {action : Action T E}
    (covered : Covered ops senders) (heeded : Heeded ops senders (.base action))
    (ran : senders.run ops width action = some (next, events))
    (isOpen : ¬ HasClosed next.channel.core.enqueuePos)
    (wasOpen : ¬ HasClosed senders.channel.core.enqueuePos) :
    (ops.view next.queue).closed = false ∧ Covers ops next := by
  obtain ⟨shift, quietly⟩ := run_shift covered.closing ran isOpen
  have queueOpen := covered.queueOpen wasOpen
  have covers := covered.covers wasOpen
  cases shift with
  | keeps free waiting quiet =>
      obtain ⟨queue, woken⟩ := quietly quiet
      refine ⟨by rw [queue, queueOpen], ?_⟩
      unfold Covers wakeups at covers ⊢
      rw [queue, woken]
      omega
  | parks exhausted quiet =>
      obtain ⟨queue, woken⟩ := quietly quiet
      refine ⟨by rw [queue, queueOpen], .inl ?_⟩
      rw [exhausted]
      exact Nat.zero_le _
  | wakes indices seeking waiting =>
      obtain ⟨after, stepTo, rfl⟩ := run_step ran
      obtain ⟨i, rfl, freed⟩ := run_of_wakeProd stepTo (by simp)
      unfold Covers wakeups at covers ⊢
      simp only [List.foldl_cons, List.foldl_nil, hear, lawful.view_wake, lawful.woken,
        List.length_append] at indices seeking waiting ⊢
      rw [indices]
      cases woke : (ops.view senders.queue).wake.2 with
      | some key =>
          obtain ⟨_, unstored, stored, closed⟩ := QueueView.wake_some woke
          rw [closed, stored, queueOpen]
          rw [unstored] at covers
          refine ⟨rfl, ?_⟩
          simp only [Bool.toNat_false, Option.toList_some, List.length_singleton] at covers ⊢
          omega
      | none =>
          obtain ⟨nobody, _, stored, closed⟩ := QueueView.wake_none woke
          rw [closed, stored, queueOpen]
          refine ⟨rfl, ?_⟩
          simp only [Bool.not_false, Bool.toNat_true, Option.toList_none, List.length_nil]
          cases already : (ops.view senders.queue).stored with
          | false =>
              simp only [already, Bool.toNat_false] at covers
              omega
          | true =>
              have needless := heeded freed nobody already
              simp only [wakeups, already, Bool.toNat_true] at needless
              omega

/-- A call that begins to wait is not among the woken ones. -/
theorem Placed.woken_lt (placed : Placed ops senders) {i : Nat}
    (waits : TaskAt senders.channel.tasks i fun pc => pc.waits = true)
    (absent : i ∉ senders.woken) : senders.woken.length < senders.channel.waiting := by
  have nodup : (i :: senders.woken).Nodup :=
    List.nodup_cons.mpr ⟨absent, (List.nodup_append.mp placed.nodup).2.1⟩
  refine length_le_countP nodup fun k member => ?_
  rcases List.mem_cons.mp member with rfl | woken
  · exact waits
  · exact placed.waits k (List.mem_append_right _ woken)

/-- A woken call, or one that consumed a stored wakeup, looks for an index. -/
theorem Covers.woken {before : Senders T E Queue} {i : Nat} (covers : Covers ops senders)
    (ran : before.run ops width (.woken i) = some (next, events))
    (channel : before.channel = senders.channel)
    (spent : before.wakeups ops + 1 = senders.wakeups ops) :
    Covers ops next ∧ next.queue = before.queue := by
  obtain ⟨after, stepTo, rfl⟩ := run_step ran
  obtain ⟨rfl, core, seeking, waiting⟩ := woken_shift stepTo
  refine ⟨?_, rfl⟩
  unfold Covers at covers ⊢
  simp only [List.foldl_nil, core]
  rw [channel] at seeking waiting ⊢
  change _ ≤ before.wakeups ops + _ ∨ _ ≤ before.wakeups ops
  omega

/-- A step that begins in the queue, or leads out of it. -/
theorem Covered.move (lawful : ops.Lawful) {action : SendersAction T E}
    (covered : Covered ops senders) (heeded : Heeded ops senders action)
    (move : Move ops width senders action events next)
    (isOpen : ¬ HasClosed next.channel.core.enqueuePos)
    (wasOpen : ¬ HasClosed senders.channel.core.enqueuePos) :
    (ops.view next.queue).closed = false ∧ Covers ops next := by
  have queueOpen := covered.queueOpen wasOpen
  have covers := covered.covers wasOpen
  cases move with
  | @registers i queue waits absent plain _ stored closed =>
      refine ⟨by rw [closed, queueOpen], ?_⟩
      have unwoken : i ∉ senders.woken := fun woken => absent (List.mem_append_right _ woken)
      have fewer := covered.placed.woken_lt waits unwoken
      unfold Covers wakeups at covers ⊢
      rw [(Bool.or_eq_false_iff.mp plain).1] at covers
      rw [stored]
      simp only [Bool.toNat_false, Nat.zero_add] at covers ⊢
      exact .inl (covers.resolve_right (Nat.not_le.mpr fewer))
  | @consumes i queue _ _ _ notified _ stored closed ran =>
      have spent : { senders with queue := queue }.wakeups ops + 1 = senders.wakeups ops := by
        simp only [wakeups, stored, notified, Bool.toNat_false, Bool.toNat_true]
        omega
      obtain ⟨after, same⟩ := covers.woken ran rfl spent
      exact ⟨by rw [same, closed, queueOpen], after⟩
  | seesClosed _ isClosed =>
      rw [queueOpen] at isClosed
      cases isClosed
  | @resumes i _ _ member ran =>
      have some := List.length_pos_of_mem member
      have spent : { senders with woken := senders.woken.erase i }.wakeups ops + 1 =
          senders.wakeups ops := by
        simp only [wakeups, List.length_erase_of_mem member]
        omega
      obtain ⟨after, same⟩ := covers.woken ran rfl spent
      exact ⟨by rw [same, queueOpen], after⟩
  | @calls handle blocking _ _ ran =>
      have before : Covered ops (senders.recordCall (senders.waiters ops) blocking) :=
        ⟨⟨covered.placed.waits, covered.placed.nodup⟩, covered.closing, covered.queueOpen,
          covered.covers⟩
      refine before.run lawful ?_ ran isOpen wasOpen
      trivial
  | moves _ _ ran => exact covered.run lawful heeded ran isOpen wasOpen

theorem Covered.step (lawful : ops.Lawful) {action : SendersAction T E}
    (covered : Covered ops senders) (heeded : Heeded ops senders action)
    (stepTo : senders.step ops width action = some (next, events)) : Covered ops next := by
  have move := step_move lawful stepTo
  have kept : ClosingInv next.channel ∧ (HasClosed senders.channel.core.enqueuePos →
      HasClosed next.channel.core.enqueuePos) := by
    rcases move.channel with ⟨same, _⟩ | ⟨base, baseStep⟩
    · rw [same]
      exact ⟨covered.closing, id⟩
    · have transition := step_transition baseStep
      exact ⟨closingInv_transition covered.closing transition, transition.enqueue_closed⟩
  have effect (isOpen : ¬ HasClosed next.channel.core.enqueuePos) :
      (ops.view next.queue).closed = false ∧ Covers ops next :=
    covered.move lawful heeded move isOpen fun isClosed => isOpen (kept.2 isClosed)
  exact ⟨covered.placed.step lawful stepTo, kept.1, fun isOpen => (effect isOpen).1,
    fun isOpen => (effect isOpen).2⟩

theorem covered_new (lawful : ops.Lawful) :
    Covered ops (Senders.new ops width capacity : Senders T E Queue) where
  placed := placed_new lawful
  closing := closingInv_new
  queueOpen _ := by
    simp only [Senders.new, lawful.new]
    rfl
  covers _ := .inr (Nat.zero_le _)

theorem covered_run (lawful : ops.Lawful) {final : Senders T E Queue}
    (run : Run (Senders.step ops width) (Heeded ops) (Senders.new ops width capacity)
      history final) : Covered ops final :=
  run.stateInvariant (Covered ops) (covered_new lawful)
    fun covered heeded stepTo => covered.step lawful heeded stepTo

end Senders

/-- The call has ended or holds a reservation. -/
def Pc.settled : Pc E → Bool
  | .permit _ | .received _ | .retired _ | .finished => true
  | _ => false

namespace Senders

/-- No call is part-way through an operation or has a wakeup to act on. -/
def Quiet (ops : WaitQueue Queue Nat) (senders : Senders T E Queue) : Prop :=
  senders.woken = [] ∧ ∀ (i : Nat) (task : Task E), senders.channel.tasks[i]? = some task →
    task.pc.settled = true ∨ i ∈ senders.waiters ops

/-- When a call is parked in an open channel and nothing else is going on, no
index is free. -/
def NoneFree (ops : WaitQueue Queue Nat) (senders : Senders T E Queue) : Prop :=
  ¬ HasClosed senders.channel.core.enqueuePos → senders.waiters ops ≠ [] →
    senders.Quiet ops → senders.channel.core.indices = []

theorem Covered.noneFree {senders : Senders T E Queue} (covered : Covered ops senders) :
    NoneFree ops senders := by
  intro isOpen waits ⟨unwoken, quiet⟩
  have nothing : senders.wakeups ops = 0 := by
    simp [wakeups, unwoken, QueueView.stored_of_waiters waits]
  rcases covered.covers isOpen with free | waiting
  · have nobody : senders.channel.seeking = 0 := by
      refine List.countP_eq_zero.mpr fun task member => ?_
      obtain ⟨i, at_i⟩ := List.mem_iff_getElem?.mp member
      rcases quiet i task at_i with settled | parked
      · revert settled
        cases task.pc <;> simp [Pc.settled, Pc.seeks]
      · have isWaiting := (taskAt_iff_of_pc at_i).mp
          (covered.placed.waits i (List.mem_append_left _ parked))
        revert isWaiting
        cases task.pc <;> simp [Pc.waits, Pc.seeks]
    rw [nothing, nobody] at free
    exact List.length_eq_zero_iff.mp (Nat.le_zero.mp free)
  · obtain ⟨i, member⟩ := List.exists_mem_of_ne_nil _ waits
    have parked := covered.placed.waits i (List.mem_append_left _ member)
    have counted := covered.placed.woken_lt parked (by simp [unwoken])
    omega

end Senders

/-- When no needed wakeup is merged into a stored one, a call is parked in an
open channel only while no index is free. -/
theorem none_free_while_parked (lawful : ops.Lawful) {history : List (Event T E)}
    {final : Senders T E Queue}
    (run : Run (Senders.step ops width) (Senders.Heeded ops) (Senders.new ops width capacity)
      history final) : final.NoneFree ops :=
  (Senders.covered_run lawful run).noneFree

/-- Three calls for two indices.  The third waits, and one index is freed for it. -/
def thirdServed : List (SendersAction Nat Nat) :=
  [.base (.reserve 0 true), .base (.run 0), .base (.allocate 0 0),
    .base (.reserve 0 true), .base (.run 1), .base (.allocate 1 1),
    .base (.reserve 0 true), .base (.run 2), .base (.run 2), .await 2,
    .base (.reserve 0 true), .base (.run 3), .base (.run 3), .await 3,
    .base (.release 0), .base (.run 0), .base (.run 0), .resume 2, .base (.run 2),
    .base (.allocate 2 0)]

theorem none_free_thirdServed :
    ∃ (history : List (Event Nat Nat)) (final : Senders Nat Nat (QueueView Nat)),
      .reserved 2 0 ∈ history ∧ final.waiters (WaitQueue.plain Nat) = [3] ∧
        final.NoneFree (WaitQueue.plain Nat) := by
  obtain ⟨history, final, run, seen⟩ :=
    exists_run_of_exec (Senders.step (WaitQueue.plain Nat) .bits64)
      (fun senders _ => senders.queue.stored = false)
      (Senders.new (WaitQueue.plain Nat) .bits64 2) thirdServed
      (fun reached => (decide (.reserved 2 0 ∈ reached.2),
        reached.1.waiters (WaitQueue.plain Nat)))
      (show _ = some (true, [3]) by decide +kernel)
  simp only [Prod.mk.injEq, decide_eq_true_eq] at seen
  refine ⟨history, final, seen.1, seen.2,
    none_free_while_parked (WaitQueue.plain_lawful Nat) (run.mono ?_)⟩
  intro senders action unstored
  cases action with
  | base base =>
      cases base with
      | run i =>
          intro _ _ stored
          cases unstored.symm.trans stored
      | _ => trivial
  | _ => trivial

/-- Two calls find the channel full and are going to wait.  Both indices are freed
before either of them calls `wait()`. -/
def bothFreed : List (SendersAction Nat Nat) :=
  [.base (.reserve 0 true), .base (.run 0), .base (.allocate 0 0),
    .base (.reserve 0 true), .base (.run 1), .base (.allocate 1 1),
    .base (.reserve 0 true), .base (.run 2), .base (.run 2),
    .base (.reserve 0 true), .base (.run 3), .base (.run 3),
    .base (.release 0), .base (.run 0), .base (.run 0),
    .base (.release 1), .base (.run 1), .base (.run 1),
    .await 2, .base (.run 2), .base (.allocate 2 1), .await 3]

/-- The second wakeup is merged into the first, and the second call sleeps beside
a free index. -/
theorem not_noneFree_bothFreed :
    ¬ ∀ (history : List (Event Nat Nat)) (final : Senders Nat Nat (QueueView Nat)),
      Run (Senders.step (WaitQueue.plain Nat) .bits64) anyStep
        (Senders.new (WaitQueue.plain Nat) .bits64 2) history final →
          final.NoneFree (WaitQueue.plain Nat) := by
  intro always
  obtain ⟨history, final, run, seen⟩ :=
    exists_run_of_exec (Senders.step (WaitQueue.plain Nat) .bits64) anyStep
      (Senders.new (WaitQueue.plain Nat) .bits64 2) bothFreed
      (fun reached => (decide (HasClosed reached.1.channel.core.enqueuePos),
        reached.1.waiters (WaitQueue.plain Nat), reached.1.woken,
        reached.1.channel.tasks.map (fun task => task.pc.settled),
        reached.1.channel.core.indices))
      (show _ = some (false, [3], [], [true, true, true, false], [0]) by decide +kernel)
  simp only [Prod.mk.injEq, decide_eq_false_iff_not] at seen
  obtain ⟨isOpen, waiters, woken, settled, indices⟩ := seen
  have quiet : final.Quiet (WaitQueue.plain Nat) := by
    refine ⟨woken, fun i task at_i => ?_⟩
    have listed : (final.channel.tasks.map fun task => task.pc.settled)[i]? =
        some task.pc.settled := by rw [List.getElem?_map, at_i]; rfl
    rw [settled] at listed
    rw [waiters]
    match i, listed with
    | 0, listed | 1, listed | 2, listed => exact .inl (Option.some.inj listed).symm
    | 3, _ => exact .inr (by simp)
  have none := always history final run isOpen (by simp [waiters]) quiet
  rw [indices] at none
  cases none

end ChannelCore

end Mgnp
