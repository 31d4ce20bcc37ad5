import Mgnp.ChannelOvertaking
import Mgnp.Potential

/-!
# How long the calls of a channel can take

The loop of `commit_send` goes round when `enqueue_pos` has changed since it was
loaded, and only then: a `tail` that is still current has a slot that waits for a
message.  So every retry is paid by the compare-exchange of another sender, or by the
call that closed the channel.  The work of a channel counts the atomic steps that its
calls have before them when nobody interferes, and sets aside what each of them may
cost the others.
-/

namespace Mgnp

namespace ChannelCore

open LabelledRuns PositionWord

variable {T E : Type*} {width : PointerWidth} {capacity most : Nat}

/-- An atomic step of a task or of the receiver. -/
def Action.isAtomic : Action T E → Bool
  | .run _ | .allocate _ _ | .runRx => true
  | .reserve _ _ | .closeWithError _ _ | .cloneTx _ _ | .dropTx _ | .dropRx | .tryRecv
  | .spurious _ | .woken _ | .write _ _ | .commit _ | .release _ | .spuriousRx => false

/-- A call, or what makes a call go on or go back without an atomic step of its own: a
wakeup, or a compare-exchange that fails for no reason. -/
def Action.isCall : Action T E → Bool
  | .reserve _ _ | .closeWithError _ _ | .dropTx _ | .dropRx | .tryRecv
  | .spurious _ | .woken _ | .commit _ | .release _ | .spuriousRx => true
  | .cloneTx _ _ | .write _ _ | .run _ | .allocate _ _ | .runRx => false

/-- A call that may change `enqueue_pos`. -/
def Action.movesTail : Action T E → Bool
  | .commit _ | .closeWithError _ _ | .dropRx => true
  | _ => false

/-- In the loop of `commit_send`. -/
def Pc.inLoop : Pc E → Bool
  | .committing _ | .examining _ _ | .claiming _ _ => true
  | _ => false

/-- The `commit_send` calls that have not won a position yet. -/
def Channel.committers (channel : Channel T E) : Nat :=
  channel.tasks.countP fun task => task.pc.inLoop

/-- At most so many `commit_send` calls are in their loop at any time. -/
def AtMost (most : Nat) (channel : Channel T E) : Action T E → Prop
  | .commit _ => channel.committers < most
  | _ => True

instance (most : Nat) (channel : Channel T E) (action : Action T E) :
    Decidable (AtMost most channel action) :=
  match action with
  | .commit _ => inferInstanceAs (Decidable (_ < _))
  | .reserve _ _ | .closeWithError _ _ | .cloneTx _ _ | .dropTx _ | .dropRx | .tryRecv
  | .run _ | .allocate _ _ | .spurious _ | .woken _ | .write _ _ | .release _ | .runRx
  | .spuriousRx => isTrue trivial

/-- The atomic steps that a call has before it when nobody interferes.  A `tail` that
is not current costs two more, and so may a `head` that `close_tx` changes. -/
def Pc.work (enqueuePos : UInt16) : Pc E → Nat
  | .reserving _ => 4
  | .allocating _ => 3
  | .waiting => 2
  | .reserveClosed => 1
  | .committing _ => 5
  | .examining _ tail => if tail = enqueuePos then 4 else 6
  | .claiming _ tail => if tail = enqueuePos then 3 else 5
  | .commitClosed _ => 1
  | .storing _ _ => 2
  | .waking => 1
  | .freeing _ _ => 2
  | .freed => 1
  | .erroring _ => 9
  | .writingError _ => 8
  | .settingErrored => 7
  | .closingRx thenTx => if thenTx then 6 else 2
  | .closingProdWait thenTx => if thenTx then 5 else 1
  | .closingTx _ => 4
  | .closingConsWait _ => 1
  | .droppingTx => 6
  | .lastTxDropped => 5
  | .permit _ | .received _ | .retired _ | .finished => 0

/-- The call has yet to change `enqueue_pos`. -/
def Pc.movesTail : Pc E → Bool
  | .committing _ | .examining _ _ | .claiming _ _ | .erroring _ | .writingError _
  | .settingErrored | .closingRx _ => true
  | _ => false

/-- What a task has before it, with two steps for each `commit_send` that it may send
back into its loop. -/
def Task.worth (most : Nat) (enqueuePos : UInt16) (task : Task E) : Nat :=
  task.pc.work enqueuePos + 2 * most * task.pc.movesTail.toNat

def RxPc.work (dequeuePos : UInt16) : RxPc → Nat
  | .loading => 4
  | .examining head => if head = dequeuePos then 3 else 5
  | .claiming head _ => if head = dequeuePos then 2 else 4
  | .releasing _ _ => 1
  | .closing => 1
  | .idle | .dropped => 0

def Channel.work (most : Nat) (channel : Channel T E) : Nat :=
  pooled (Task.worth most channel.core.enqueuePos) channel.tasks +
    channel.rx.work channel.core.dequeuePos

section Interference

theorem Task.worth_le (most : Nat) (before after : UInt16) (task : Task E) :
    task.worth most after ≤ task.worth most before + 2 * task.pc.inLoop.toNat := by
  obtain ⟨handle, pc⟩ := task
  cases pc with
  | examining idx tail | claiming idx tail =>
      simp only [Task.worth, Pc.work, Pc.inLoop, Bool.toNat_true]
      split <;> split <;> omega
  | _ => exact Nat.le_add_right _ _

theorem RxPc.work_le (before after : UInt16) (rx : RxPc) :
    rx.work after ≤ rx.work before + 2 := by
  cases rx with
  | examining head | claiming head val =>
      simp only [RxPc.work]
      split <;> split <;> omega
  | _ => exact Nat.le_add_right _ _

end Interference

section Fresh

variable {ledger : Ledger T} {ops : List (TicketQueue.Op Nat (Nat × Option T))}
  {channel : Channel T E}

/-- A `tail` that is still current names a slot that waits for a message. -/
theorem RingInv.commitOrder_current (inv : RingInv width ledger channel)
    (replays : TicketQueue.Replays ops ledger) (owned : Owned width capacity channel)
    (capacityLe : capacity ≤ maxCapacity width) {i idx : Nat} {handle : Option Nat}
    (at_pc : channel.tasks[i]? = some ⟨handle, .examining idx channel.core.enqueuePos⟩) :
    channel.core.commitOrder width channel.core.enqueuePos = .eq := by
  have held : TaskHolds channel.tasks i .sending idx := ⟨_, at_pc, rfl⟩
  have room := inv.room replays owned capacityLe held (inv.tasks i _ at_pc)
  obtain ⟨flag, enqueueEq⟩ := inv.enqueuePos
  obtain ⟨low, lowLt, at_slot⟩ := inv.vacant (Nat.le_refl _) room
  have slotEq : slotOf width (channel.core.enqueuePos >>> posShift width) =
      ledger.issued.length % maxCapacity width := by
    rw [enqueueEq, slotOf_word (flag_lt width flag)]
  have same : (channel.core.queue (slotOf width (channel.core.enqueuePos >>> posShift width)) >>>
      posShift width).toNat = (channel.core.enqueuePos >>> posShift width).toNat := by
    rw [slotEq, at_slot, word_shift_toNat lowLt, enqueueEq,
      word_shift_toNat (flag_lt width flag)]
  have bound : positions width ≤ 2048 := by cases width <;> decide
  have small : (channel.core.enqueuePos >>> posShift width).toNat < positions width := by
    rw [enqueueEq, word_shift_toNat (flag_lt width flag)]
    exact Nat.mod_lt _ (positions_pos width)
  rw [Core.commitOrder, signedDif_eq width (by omega) (by omega), same, compare_eq_iff_eq]
  omega

end Fresh

/-- What an atomic step of task `i` takes from its work.  A step that changes a position
has been set aside for. -/
inductive Spends (channel : Channel T E) (i : Nat) (handle : Option Nat) (pc : Pc E) :
    Channel T E → Prop
  | still {next pc'} (tasks : next.tasks = channel.tasks.set i ⟨handle, pc'⟩)
      (rx : next.rx = channel.rx) (enqueuePos : next.core.enqueuePos = channel.core.enqueuePos)
      (dequeuePos : next.core.dequeuePos = channel.core.dequeuePos)
      (loop : pc'.inLoop = true → pc.inLoop = true)
      (moves : pc'.movesTail = true → pc.movesTail = true)
      (spent : 1 + pc'.work channel.core.enqueuePos ≤ pc.work channel.core.enqueuePos) :
      Spends channel i handle pc next
  | tail {next pc'} (tasks : next.tasks = channel.tasks.set i ⟨handle, pc'⟩)
      (rx : next.rx = channel.rx)
      (dequeuePos : next.core.dequeuePos = channel.core.dequeuePos)
      (loop : pc'.inLoop = false) (moves : pc'.movesTail = false ∧ pc.movesTail = true)
      (spent : 1 + pc'.work channel.core.enqueuePos ≤ pc.work channel.core.enqueuePos) :
      Spends channel i handle pc next
  | head {next pc'} (tasks : next.tasks = channel.tasks.set i ⟨handle, pc'⟩)
      (rx : next.rx = channel.rx) (enqueuePos : next.core.enqueuePos = channel.core.enqueuePos)
      (loop : pc'.inLoop = false) (moves : pc'.movesTail = false)
      (spent : 3 + pc'.work channel.core.enqueuePos ≤ pc.work channel.core.enqueuePos) :
      Spends channel i handle pc next

section Spends

variable {channel next : Channel T E} {events : List (Event T E)} {i : Nat}
  {handle : Option Nat} {pc : Pc E}

theorem runTask_spends
    (current : ∀ idx, pc = .examining idx channel.core.enqueuePos →
      channel.core.commitOrder width channel.core.enqueuePos = .eq)
    (ran : runTask width channel i ⟨handle, pc⟩ = some (next, events)) :
    Spends channel i handle pc next := by
  cases pc with
  | reserving blocking =>
      simp only [runTask] at ran
      split at ran <;> cases ran
      · exact .still rfl rfl rfl rfl (by simp [Pc.inLoop]) (by simp [Pc.movesTail])
          (by simp [Pc.work])
      · exact .still rfl rfl rfl rfl (by simp [Pc.inLoop]) (by simp [Pc.movesTail])
          (by simp [Pc.work])
  | allocating blocking =>
      simp only [runTask] at ran
      split at ran
      · split at ran <;> cases ran
        · exact .still rfl rfl rfl rfl (by simp [Pc.inLoop]) (by simp [Pc.movesTail])
            (by simp [Pc.work])
        · exact .still rfl rfl rfl rfl (by simp [Pc.inLoop]) (by simp [Pc.movesTail])
            (by simp [Pc.work])
      · cases ran
  | waiting =>
      simp only [runTask] at ran
      split at ran <;> cases ran
      exact .still rfl rfl rfl rfl (by simp [Pc.inLoop]) (by simp [Pc.movesTail])
        (by simp [Pc.work])
  | committing idx =>
      cases ran
      exact .still rfl rfl rfl rfl (fun _ => rfl) (fun _ => rfl) (by simp [Pc.work])
  | examining idx tail =>
      simp only [runTask] at ran
      split at ran
      · cases ran
        refine .still rfl rfl rfl rfl (fun _ => rfl) (fun _ => rfl) ?_
        simp only [Pc.work]
        split <;> omega
      · split at ran <;> rename_i order <;> cases ran
        · refine .still rfl rfl rfl rfl (fun _ => rfl) (fun _ => rfl) ?_
          simp only [Pc.work]
          split <;> omega
        · refine .still rfl rfl rfl rfl (fun _ => rfl) (fun _ => rfl) ?_
          simp only [Pc.work]
          split <;> omega
        · -- A sender goes round only with a `tail` that is not current.
          have stale : tail ≠ channel.core.enqueuePos := by
            rintro rfl
            rw [current idx rfl] at order
            cases order
          refine .still rfl rfl rfl rfl (fun _ => rfl) (fun _ => rfl) ?_
          simp [Pc.work, stale]
  | claiming idx tail =>
      simp only [runTask] at ran
      split at ran <;> rename_i won <;> cases ran
      · exact .tail rfl rfl rfl rfl ⟨rfl, rfl⟩ (by simp [Pc.work, won])
      · refine .still rfl rfl rfl rfl (fun _ => rfl) (fun _ => rfl) ?_
        simp [Pc.work, Ne.symm won]
  | closingRx thenTx =>
      cases ran
      exact .tail rfl rfl rfl rfl ⟨rfl, rfl⟩ (by cases thenTx <;> simp [Pc.work])
  | closingTx byError =>
      cases ran
      exact .head rfl rfl rfl rfl rfl (by simp [Pc.work])
  | erroring error =>
      simp only [runTask] at ran
      split at ran <;> cases ran
      · exact .still rfl rfl rfl rfl (by simp [Pc.inLoop]) (fun _ => rfl) (by simp [Pc.work])
      · exact .still rfl rfl rfl rfl (by simp [Pc.inLoop]) (fun _ => rfl) (by simp [Pc.work])
  | closingProdWait thenTx =>
      cases ran
      refine .still rfl rfl rfl rfl ?_ ?_ ?_
      all_goals cases thenTx <;> simp [Pc.inLoop, Pc.movesTail, Pc.work]
  | droppingTx =>
      cases ran
      refine .still rfl rfl rfl rfl ?_ ?_ ?_
      all_goals split <;> simp [Pc.inLoop, Pc.movesTail, Pc.work]
  | reserveClosed | commitClosed | storing | waking | freeing | freed | writingError
  | settingErrored | closingConsWait | lastTxDropped =>
      cases ran
      exact .still rfl rfl rfl rfl (by simp [Pc.inLoop]) (by simp [Pc.movesTail])
        (by simp [Pc.work])
  | permit | received | retired | finished => cases ran

/-- A task exchanges what it has before it. -/
theorem worth_set (most : Nat) (enqueuePos : UInt16) (pc' : Pc E) {tasks : List (Task E)}
    (at_pc : tasks[i]? = some ⟨handle, pc⟩) :
    pooled (Task.worth most enqueuePos) (tasks.set i ⟨handle, pc'⟩) +
        (pc.work enqueuePos + 2 * most * pc.movesTail.toNat) =
      pooled (Task.worth most enqueuePos) tasks +
        (pc'.work enqueuePos + 2 * most * pc'.movesTail.toNat) :=
  pooled_set _ _ at_pc

theorem committers_goto (pc' : Pc E) {tasks : List (Task E)}
    (at_pc : tasks[i]? = some ⟨handle, pc⟩)
    (loop : pc'.inLoop = true → pc.inLoop = true) :
    (tasks.set i ⟨handle, pc'⟩).countP (fun task => task.pc.inLoop) ≤
      tasks.countP fun task => task.pc.inLoop := by
  have exchanged := pooled_set (fun task => task.pc.inLoop.toNat) ⟨handle, pc'⟩ at_pc
  rw [← countP_eq_pooled, ← countP_eq_pooled] at exchanged
  have le := Bool.toNat_le_toNat loop
  simp only at exchanged
  omega

/-- Every atomic step of a task is paid, whatever it does to the loops of the others. -/
theorem Spends.paid (spends : Spends channel i handle pc next)
    (at_pc : channel.tasks[i]? = some ⟨handle, pc⟩) (few : channel.committers ≤ most) :
    next.committers ≤ most ∧ 1 + next.work most ≤ channel.work most := by
  have exchanged (pc' : Pc E) := worth_set most channel.core.enqueuePos pc' at_pc
  unfold Channel.committers at few ⊢
  unfold Channel.work
  cases spends with
  | @still pc' tasks rx enqueuePos dequeuePos loop moves spent =>
      have moved := exchanged pc'
      have held := Nat.mul_le_mul_left (2 * most) (Bool.toNat_le_toNat moves)
      rw [tasks, rx, enqueuePos, dequeuePos]
      refine ⟨(committers_goto _ at_pc loop).trans few, ?_⟩
      omega
  | @tail pc' tasks rx dequeuePos loop moves spent =>
      -- The others in the loop have lost their `tail`.
      have moved := exchanged pc'
      have committers := (committers_goto pc' at_pc (by simp [loop])).trans few
      have raised := pooled_le_of_raised (channel.tasks.set i ⟨handle, pc'⟩)
        (Task.worth_le most channel.core.enqueuePos next.core.enqueuePos)
      rw [moves.1, moves.2, Bool.toNat_false, Bool.toNat_true, Nat.mul_zero, Nat.mul_one]
        at moved
      rw [tasks, rx, dequeuePos]
      refine ⟨committers, ?_⟩
      omega
  | @head pc' tasks rx enqueuePos loop moves spent =>
      have moved := exchanged pc'
      have committers := (committers_goto pc' at_pc (by simp [loop])).trans few
      have raised := channel.rx.work_le channel.core.dequeuePos next.core.dequeuePos
      rw [moves, Bool.toNat_false, Nat.mul_zero] at moved
      rw [tasks, rx, enqueuePos]
      refine ⟨committers, ?_⟩
      omega

/-- Every atomic step of the receiver is paid. -/
theorem runRx_paid
    (notAhead : ∀ head, channel.rx = .examining head →
      channel.core.dequeueOrder width head ≠ .gt)
    (ran : runRx width channel = some (next, events)) (few : channel.committers ≤ most) :
    next.committers ≤ most ∧ 1 + next.work most ≤ channel.work most := by
  unfold Channel.work
  cases at_rx : channel.rx with
  | loading =>
      simp only [runRx, at_rx] at ran
      cases ran
      exact ⟨few, by simp [RxPc.work]; omega⟩
  | examining head =>
      simp only [runRx, at_rx] at ran
      split at ran
      · split at ran <;> cases ran
        · refine ⟨few, ?_⟩
          simp only [RxPc.work]
          split <;> omega
        · refine ⟨few, ?_⟩
          simp only [RxPc.work]
          split <;> omega
      · cases ran
        refine ⟨few, ?_⟩
        simp only [RxPc.work]
        split <;> omega
      · rename_i ahead
        exact absurd ahead (notAhead head at_rx)
  | claiming head val =>
      simp only [runRx, at_rx] at ran
      split at ran <;> rename_i won <;> cases ran
      · refine ⟨few, ?_⟩
        simp only [RxPc.work, won, if_true]
        omega
      · refine ⟨few, ?_⟩
        simp only [RxPc.work, if_true, Ne.symm won, if_false]
        omega
  | releasing head val =>
      simp only [runRx, at_rx] at ran
      cases ran
      refine ⟨?_, ?_⟩
      · unfold Channel.committers at few ⊢
        simpa [Channel.spawn, Pc.inLoop] using few
      · simp only [Channel.spawn, pooled_append, pooled_cons, pooled_nil, RxPc.work, Task.worth,
          Pc.work, Pc.movesTail, Bool.toNat_false]
        omega
  | closing =>
      simp only [runRx, at_rx] at ran
      cases ran
      exact ⟨few, by simp [RxPc.work]; omega⟩
  | idle | dropped => simp [runRx, at_rx] at ran

/-- A new task outside the loop of `commit_send`. -/
theorem spawn_paid (task : Task E) (few : channel.committers ≤ most)
    (loop : task.pc.inLoop = false) :
    (channel.spawn task).committers ≤ most ∧
      (channel.spawn task).work most =
        channel.work most + task.worth most channel.core.enqueuePos := by
  unfold Channel.committers at few ⊢
  unfold Channel.work
  simp only [Channel.spawn, List.countP_append, List.countP_singleton, loop, pooled_append,
    pooled_cons, pooled_nil]
  exact ⟨by simpa using few, by omega⟩

/-- A task is given something to do. -/
theorem goto_work (most : Nat) (pc' : Pc E) (at_pc : channel.tasks[i]? = some ⟨handle, pc⟩) :
    (channel.goto i handle pc').work most +
        (pc.work channel.core.enqueuePos + 2 * most * pc.movesTail.toNat) =
      channel.work most +
        (pc'.work channel.core.enqueuePos + 2 * most * pc'.movesTail.toNat) := by
  have exchanged := worth_set most channel.core.enqueuePos pc' at_pc
  unfold Channel.work
  simp only [Channel.goto]
  omega

theorem commit_committers {idx : Nat}
    (at_pc : channel.tasks[i]? = some ⟨handle, .permit idx⟩) :
    (channel.goto i handle (.committing idx)).committers = channel.committers + 1 := by
  have exchanged := pooled_set (fun task => task.pc.inLoop.toNat)
    ⟨handle, .committing idx⟩ at_pc
  rw [← countP_eq_pooled, ← countP_eq_pooled] at exchanged
  simpa [Pc.inLoop, Channel.committers, Channel.goto] using exchanged

/-- A call brings in no more than nine steps of its own and what it may cost others. -/
theorem call_paid {action : Action T E} (calls : action.isCall = true)
    (few : channel.committers ≤ most) (admitted : AtMost most channel action)
    (stepTo : step width channel action = some (next, events)) :
    next.committers ≤ most ∧
      next.work most ≤ channel.work most + 9 + 2 * most * action.movesTail.toNat := by
  cases action with
  | reserve handle blocking =>
      simp only [step] at stepTo
      split at stepTo <;> cases stepTo
      obtain ⟨committers, work⟩ := spawn_paid ⟨some handle, .reserving blocking⟩ few rfl
      refine ⟨committers, ?_⟩
      rw [work]
      simp only [Task.worth, Pc.work, Pc.movesTail, Bool.toNat_false]
      omega
  | closeWithError handle error =>
      have opened (borrowed : Option Nat) :
          (channel.spawn ⟨borrowed, .erroring error⟩).committers ≤ most ∧
            (channel.spawn ⟨borrowed, .erroring error⟩).work most ≤
              channel.work most + 9 + 2 * most * (true).toNat := by
        obtain ⟨committers, work⟩ := spawn_paid ⟨borrowed, .erroring error⟩ few rfl
        refine ⟨committers, ?_⟩
        rw [work]
        simp only [Task.worth, Pc.work, Pc.movesTail]
        omega
      cases handle <;> simp only [step] at stepTo <;> split at stepTo <;> cases stepTo
      · exact opened none
      · exact opened (some _)
  | dropTx handle =>
      simp only [step] at stepTo
      split at stepTo <;> cases stepTo
      obtain ⟨committers, work⟩ :=
        spawn_paid ⟨none, .droppingTx⟩ few rfl
      refine ⟨committers, ?_⟩
      change (channel.spawn ⟨none, .droppingTx⟩).work most ≤ _
      rw [work]
      simp only [Task.worth, Pc.work, Pc.movesTail, Bool.toNat_false]
      omega
  | dropRx =>
      simp only [step] at stepTo
      split at stepTo
      · rename_i idle
        split at stepTo <;> cases stepTo
        obtain ⟨committers, work⟩ :=
          spawn_paid ⟨none, .closingRx false⟩ few rfl
        refine ⟨committers, ?_⟩
        simp only [Channel.work, Channel.spawn, idle, RxPc.work, Task.worth, Pc.work,
          Pc.movesTail, Action.movesTail, Bool.false_eq_true, if_false] at work ⊢
        omega
      · cases stepTo
  | tryRecv =>
      simp only [step] at stepTo
      split at stepTo <;> cases stepTo
      rename_i idle
      refine ⟨few, ?_⟩
      simp only [Channel.work, idle, RxPc.work]
      omega
  | spurious i =>
      simp only [step] at stepTo
      split at stepTo <;> cases stepTo
      rename_i idx tail at_pc
      have moved := goto_work most (.examining idx channel.core.enqueuePos) at_pc
      refine ⟨(committers_goto _ at_pc fun _ => rfl).trans few, ?_⟩
      simp only [Pc.work, Pc.movesTail, if_true] at moved
      split at moved <;> omega
  | woken i =>
      simp only [step] at stepTo
      split at stepTo <;> cases stepTo
      rename_i at_pc
      have moved := goto_work most (.reserving true) at_pc
      refine ⟨(committers_goto _ at_pc (by simp [Pc.inLoop])).trans few, ?_⟩
      simp only [Pc.work, Pc.movesTail] at moved
      omega
  | commit i =>
      simp only [step] at stepTo
      split at stepTo <;> cases stepTo
      rename_i idx at_pc
      have moved := goto_work most (.committing idx) at_pc
      have entered := commit_committers at_pc
      have room : channel.committers < most := admitted
      refine ⟨by omega, ?_⟩
      simp only [Pc.work, Pc.movesTail, Bool.toNat_false, Nat.mul_zero] at moved
      simp only [Action.movesTail]
      omega
  | release i =>
      simp only [step] at stepTo
      split at stepTo <;> cases stepTo
      · rename_i idx at_pc
        have moved := goto_work most (.freeing false idx) at_pc
        refine ⟨(committers_goto _ at_pc (by simp [Pc.inLoop])).trans few, ?_⟩
        simp only [Pc.work, Pc.movesTail] at moved
        omega
      · rename_i idx at_pc
        have moved := goto_work most (.freeing true idx) at_pc
        refine ⟨(committers_goto _ at_pc (by simp [Pc.inLoop])).trans few, ?_⟩
        simp only [Pc.work, Pc.movesTail] at moved
        omega
  | spuriousRx =>
      simp only [step] at stepTo
      split at stepTo <;> cases stepTo
      rename_i head val at_rx
      refine ⟨few, ?_⟩
      simp only [Channel.work, at_rx, RxPc.work, if_true]
      split <;> omega
  | cloneTx | write | run | allocate | runRx => cases calls

/-- What one step costs, what it leaves and what it brings in. -/
theorem step_paid {history : List (Event T E)} {action : Action T E}
    (represents : Represents width capacity history channel)
    (capacityLe : capacity ≤ maxCapacity width) (few : channel.committers ≤ most)
    (admitted : AtMost most channel action)
    (stepTo : step width channel action = some (next, events)) :
    next.committers ≤ most ∧
      action.isAtomic.toNat + next.work most ≤
        channel.work most + (9 * action.isCall.toNat + 2 * most * action.movesTail.toNat) := by
  obtain ⟨ledger, replays, inv, owned⟩ := represents
  cases calls : action.isCall with
  | true =>
      have own : action.isAtomic = false := by cases action <;> first | rfl | cases calls
      obtain ⟨committers, work⟩ := call_paid calls few admitted stepTo
      rw [own, Bool.toNat_false, Bool.toNat_true]
      exact ⟨committers, by omega⟩
  | false =>
      cases action with
      | run i =>
          simp only [step] at stepTo
          split at stepTo
          · rename_i task at_pc
            obtain ⟨handle, pc⟩ := task
            refine (runTask_spends (fun idx at_tail => ?_) stepTo).paid at_pc few
            exact inv.commitOrder_current replays owned capacityLe (at_tail ▸ at_pc)
          · cases stepTo
      | allocate i idx =>
          simp only [step] at stepTo
          split at stepTo
          · rename_i at_pc
            split at stepTo <;> cases stepTo
            exact Spends.paid (.still rfl rfl rfl rfl (by simp [Pc.inLoop])
              (by simp [Pc.movesTail]) (by simp [Pc.work])) at_pc few
          · cases stepTo
      | runRx =>
          refine runRx_paid (fun head at_rx => ?_) stepTo few
          rcases inv.dequeueOrder at_rx with ⟨order, _⟩ | ⟨order, _⟩ <;> rw [order] <;> decide
      | cloneTx handle copy =>
          simp only [step] at stepTo
          split at stepTo <;> cases stepTo
          exact ⟨few, Nat.le_of_eq (Nat.zero_add _)⟩
      | write i value =>
          simp only [step] at stepTo
          split at stepTo <;> cases stepTo
          exact ⟨few, Nat.le_of_eq (Nat.zero_add _)⟩
      | _ => cases calls

end Spends

section Bound

/-- The calls of a channel pay for its atomic steps. -/
def workPotential (T E : Type*) (capacityLe : capacity ≤ maxCapacity width) (most : Nat) :
    Potential (step width : Channel T E → Action T E → _) (AtMost most) where
  worth channel held := (∃ history, Represents width capacity history channel) ∧
    channel.committers ≤ most ∧ channel.work most = held
  cost action := action.isAtomic.toNat
  credit action := 9 * action.isCall.toNat + 2 * most * action.movesTail.toNat
  pays := by
    rintro channel action next events held ⟨⟨history, represents⟩, few, rfl⟩ admitted stepTo
    obtain ⟨committers, paid⟩ := step_paid represents capacityLe few admitted stepTo
    exact ⟨_, ⟨⟨_, represents.transition capacityLe (step_transition stepTo)⟩, committers, rfl⟩,
      paid⟩

/-- The channel is lock-free.  However its calls are interleaved, with at most so many
`commit_send` calls in their loop at any time, they take no more than nine atomic steps
each, and two for each of those `commit_send` calls whenever one may change
`enqueue_pos`. -/
theorem atomic_steps_bounded (capacityLe : capacity ≤ maxCapacity width)
    {actions : List (Action T E)} {final : Channel T E} {history : List (Event T E)}
    (ran : exec (step width) (AtMost most) (Channel.new width capacity) actions =
      some (final, history)) :
    actions.countP Action.isAtomic ≤
      9 * actions.countP Action.isCall + 2 * most * actions.countP Action.movesTail := by
  have starts : (workPotential T E capacityLe most).worth (Channel.new width capacity) 0 :=
    ⟨⟨[], represents_new⟩, Nat.zero_le _, rfl⟩
  obtain ⟨left, _, paid⟩ := (workPotential T E capacityLe most).exec starts ran
  have costs : pooled (workPotential T E capacityLe most).cost actions = _ :=
    (countP_eq_pooled Action.isAtomic).symm
  have credits : pooled (workPotential T E capacityLe most).credit actions = _ :=
    pooled_linear 9 (2 * most)
  rw [costs, credits, ← countP_eq_pooled, ← countP_eq_pooled] at paid
  omega

/-- Two senders load the same `tail`, and the one that loses its compare-exchange goes
round. -/
def losesTail : List (Action Nat Nat) :=
  [.reserve 0 false, .run 0, .allocate 0 0, .reserve 0 false, .run 1, .allocate 1 1,
    .commit 0, .commit 1, .run 0, .run 1, .run 0, .run 1, .run 0, .run 1, .run 1, .run 1]

theorem atomic_steps_bounded_losesTail :
    ∃ history final,
      exec (step .bits64) (AtMost 2) (Channel.new .bits64 2) losesTail =
        some (final, history) ∧
      losesTail.countP Action.isAtomic = 12 ∧
      losesTail.countP Action.isAtomic ≤ 44 := by
  obtain ⟨⟨final, history⟩, ran⟩ := Option.isSome_iff_exists.mp
    (show (exec (step .bits64) (AtMost 2) (Channel.new .bits64 2) losesTail).isSome = true
      by decide +kernel)
  exact ⟨history, final, ran, rfl, atomic_steps_bounded (by decide) ran⟩

end Bound

end ChannelCore

end Mgnp
