import Mathlib.Logic.Basic

/-!
# Waiting in a cell

A task polls for a condition.  When the condition does not hold it registers
in a cell, and whoever makes the condition true wakes the cell afterwards.
This file says what such a cell must do, and shows that the task does not
sleep through the condition: while it is parked and the condition holds,
somebody still owes it a wakeup.
-/

namespace Mgnp

/-- A cell in which one task waits.  `pollWait` answers whether the task may go
on, `wake` and `close` whether they woke it. -/
structure WaitCell (Cell : Type*) where
  new : Cell
  pollWait : Cell → Cell × Bool
  wake : Cell → Cell × Bool
  close : Cell → Cell × Bool
  /-- A waker is registered. -/
  registered : Cell → Prop
  /-- The next `pollWait` lets the task go on. -/
  notified : Cell → Prop
  closed : Cell → Prop

namespace WaitCell

variable {Cell : Type*}

/-- What users of the cell rely on. -/
structure Lawful (ops : WaitCell Cell) : Prop where
  poll_pending : ∀ cell, (ops.pollWait cell).2 = false →
    ops.registered (ops.pollWait cell).1
  poll_notified : ∀ cell, ops.notified cell → (ops.pollWait cell).2 = true
  wake_registered : ∀ cell, ops.registered cell → (ops.wake cell).2 = true
  wake_stored : ∀ cell, (ops.wake cell).2 = true ∨ ops.notified (ops.wake cell).1
  close_registered : ∀ cell, ops.registered cell → (ops.close cell).2 = true
  close_closed : ∀ cell, ops.closed (ops.close cell).1
  closed_notified : ∀ cell, ops.closed cell → ops.notified cell
  wake_closed : ∀ cell, ops.closed cell → ops.closed (ops.wake cell).1
  poll_closed : ∀ cell, ops.closed cell → ops.closed (ops.pollWait cell).1

/-- Where the waiting task stands. -/
inductive PollStage
  /-- Not in a poll, and its last poll has not returned `Pending`. -/
  | away
  /-- In a poll, looking for its condition. -/
  | checking
  /-- In a poll that did not find the condition, before `pollWait`. -/
  | registering
  /-- Its last poll has returned `Pending`. -/
  | pending
  deriving DecidableEq

/-- The cell and the task that waits in it.  `woken` says whether its waker has
been woken since its last poll began, so that it will be polled again. -/
structure Waiter (Cell : Type*) where
  cell : Cell
  stage : PollStage
  woken : Bool

namespace Waiter

def new (ops : WaitCell Cell) : Waiter Cell := ⟨ops.new, .away, false⟩

/-- The task sleeps: its last poll returned `Pending`, and nobody has woken it. -/
def Parked (waiter : Waiter Cell) : Prop :=
  waiter.stage = .pending ∧ waiter.woken = false

/-- A new poll begins. -/
def poll (waiter : Waiter Cell) : Waiter Cell :=
  { waiter with stage := .checking, woken := false }

/-- The poll goes on to another stage. -/
def turn (waiter : Waiter Cell) (stage : PollStage) : Waiter Cell :=
  if waiter.stage = .checking then { waiter with stage := stage } else waiter

/-- The task calls `pollWait`. -/
def register (ops : WaitCell Cell) (waiter : Waiter Cell) : Waiter Cell :=
  { waiter with
    cell := (ops.pollWait waiter.cell).1
    stage := if (ops.pollWait waiter.cell).2 then .checking else .pending }

def wake (ops : WaitCell Cell) (waiter : Waiter Cell) : Waiter Cell :=
  { waiter with
    cell := (ops.wake waiter.cell).1
    woken := waiter.woken || (ops.wake waiter.cell).2 }

def close (ops : WaitCell Cell) (waiter : Waiter Cell) : Waiter Cell :=
  { waiter with
    cell := (ops.close waiter.cell).1
    woken := waiter.woken || (ops.close waiter.cell).2 }

/-- A task that is about to register or has registered cannot miss that it is
`ready`: a wakeup is still `due`, is stored, or has been delivered. -/
def Alert (ops : WaitCell Cell) (ready due : Prop) (waiter : Waiter Cell) : Prop :=
  match waiter.stage with
  | .away | .checking => True
  | .registering => ready → due ∨ ops.notified waiter.cell ∨ waiter.woken = true
  | .pending => waiter.woken = false → ops.registered waiter.cell ∧ (ready → due)

section Rules

variable {ops : WaitCell Cell} {waiter : Waiter Cell} {ready due ready' due' : Prop}

/-- Nothing is missed while nobody becomes ready unnoticed. -/
theorem Alert.mono (alert : waiter.Alert ops ready due)
    (readies : ready' → ready ∨ due') (owes : due → due') :
    waiter.Alert ops ready' due' := by
  unfold Alert at alert ⊢
  cases stage : waiter.stage <;> simp only [stage] at alert ⊢
  case registering =>
    intro isReady
    rcases readies isReady with before | owed
    · exact (alert before).imp_left owes
    · exact .inl owed
  case pending =>
    intro asleep
    refine ⟨(alert asleep).1, fun isReady => ?_⟩
    rcases readies isReady with before | owed
    · exact owes ((alert asleep).2 before)
    · exact owed

/-- A wakeup pays whatever was due. -/
theorem Alert.wake (lawful : ops.Lawful) (alert : waiter.Alert ops ready due)
    (ready' due' : Prop) : (waiter.wake ops).Alert ops ready' due' := by
  unfold Alert at alert ⊢
  cases stage : waiter.stage <;> simp only [stage, Waiter.wake] at alert ⊢
  case registering =>
    intro _
    rcases lawful.wake_stored waiter.cell with woke | stored
    · exact .inr (.inr (by simp [woke]))
    · exact .inr (.inl stored)
  case pending =>
    intro asleep
    obtain ⟨before, unwoken⟩ := Bool.or_eq_false_iff.mp asleep
    rw [lawful.wake_registered _ (alert before).1] at unwoken
    cases unwoken

theorem Alert.close (lawful : ops.Lawful) (alert : waiter.Alert ops ready due)
    (ready' due' : Prop) : (waiter.close ops).Alert ops ready' due' := by
  unfold Alert at alert ⊢
  cases stage : waiter.stage <;> simp only [stage, Waiter.close] at alert ⊢
  case registering =>
    exact fun _ => .inr (.inl (lawful.closed_notified _ (lawful.close_closed _)))
  case pending =>
    intro asleep
    obtain ⟨before, unwoken⟩ := Bool.or_eq_false_iff.mp asleep
    rw [lawful.close_registered _ (alert before).1] at unwoken
    cases unwoken

/-- Registering keeps the task alert: a stored wakeup lets it go on. -/
theorem Alert.register (lawful : ops.Lawful) (alert : waiter.Alert ops ready due)
    (registering : waiter.stage = .registering) :
    (waiter.register ops).Alert ops ready due := by
  unfold Alert at alert ⊢
  simp only [registering] at alert
  simp only [Waiter.register]
  cases polled : (ops.pollWait waiter.cell).2 with
  | true => trivial
  | false =>
      intro asleep
      refine ⟨lawful.poll_pending _ polled, fun isReady => ?_⟩
      rcases alert isReady with owed | notified | woken
      · exact owed
      · rw [lawful.poll_notified _ notified] at polled
        cases polled
      · rw [asleep] at woken
        cases woken

/-- A parked task is owed a wakeup as soon as it is ready. -/
theorem Alert.parked (alert : waiter.Alert ops ready due) (parked : waiter.Parked)
    (isReady : ready) : due := by
  unfold Alert at alert
  rw [parked.1] at alert
  exact (alert parked.2).2 isReady

/-- A wakeup reaches a parked task. -/
theorem Alert.woken_wake (lawful : ops.Lawful) (alert : waiter.Alert ops ready due)
    (parked : waiter.Parked) : (waiter.wake ops).woken = true := by
  unfold Alert at alert
  rw [parked.1] at alert
  have wakes := lawful.wake_registered _ (alert parked.2).1
  simp [Waiter.wake, wakes]

theorem Alert.of_stage (stage : waiter.stage = .away ∨ waiter.stage = .checking) :
    waiter.Alert ops ready due := by
  unfold Alert
  rcases stage with at_stage | at_stage <;> rw [at_stage] <;> trivial

end Rules

end Waiter

/-- The states of a cell that stores one wakeup. -/
inductive Slot
  | empty
  | registered
  | woken
  | closed
  deriving DecidableEq

/-- A cell that stores one wakeup. -/
def storing : WaitCell Slot where
  new := .empty
  pollWait
    | .empty | .registered => (.registered, false)
    | .woken => (.empty, true)
    | .closed => (.closed, true)
  wake
    | .empty | .woken => (.woken, false)
    | .registered => (.empty, true)
    | .closed => (.closed, false)
  close
    | .registered => (.closed, true)
    | .empty | .woken | .closed => (.closed, false)
  registered slot := slot = .registered
  notified slot := slot = .woken ∨ slot = .closed
  closed slot := slot = .closed

theorem storing_lawful : storing.Lawful where
  poll_pending slot := by cases slot <;> simp [storing]
  poll_notified slot := by cases slot <;> simp [storing]
  wake_registered slot := by cases slot <;> simp [storing]
  wake_stored slot := by cases slot <;> simp [storing]
  close_registered slot := by cases slot <;> simp [storing]
  close_closed slot := by cases slot <;> simp [storing]
  closed_notified slot := by cases slot <;> simp [storing]
  wake_closed slot := by cases slot <;> simp [storing]
  poll_closed slot := by cases slot <;> simp [storing]

/-- A wakeup stays in the cell until a `pollWait` takes it, also when it has woken a
task, so that a future which polls the cell again after it was woken goes on. -/
def Remembers (ops : WaitCell Cell) : Prop :=
  ∀ cell, ops.notified (ops.wake cell).1

/-- A task that goes on by polling the cell finds a wakeup that it has not taken. -/
def Waiter.Kept (ops : WaitCell Cell) (ready due : Prop) (waiter : Waiter Cell) : Prop :=
  waiter.stage = .registering ∨ waiter.stage = .pending →
    ready → due ∨ ops.notified waiter.cell

section Kept

variable {ops : WaitCell Cell} {waiter : Waiter Cell} {ready due ready' due' : Prop}

theorem Waiter.Kept.of_stage (stage : waiter.stage = .away ∨ waiter.stage = .checking) :
    waiter.Kept ops ready due := by
  rintro (at_stage | at_stage) <;> rw [at_stage] at stage <;> simp at stage

theorem Waiter.Kept.mono (kept : waiter.Kept ops ready due)
    (readies : ready' → ready ∨ due') (owes : due → due') : waiter.Kept ops ready' due' := by
  intro stage isReady
  rcases readies isReady with before | owed
  · exact (kept stage before).imp_left owes
  · exact .inl owed

theorem Waiter.Kept.wake (remembers : ops.Remembers) (waiter : Waiter Cell)
    (ready due : Prop) : (waiter.wake ops).Kept ops ready due :=
  fun _ _ => .inr (remembers waiter.cell)

theorem Waiter.Kept.register (lawful : ops.Lawful) (kept : waiter.Kept ops ready due)
    (registering : waiter.stage = .registering) :
    (waiter.register ops).Kept ops ready due := by
  cases polled : (ops.pollWait waiter.cell).2 with
  | true => exact .of_stage (.inr (by simp [Waiter.register, polled]))
  | false =>
      intro _ isReady
      rcases kept (.inl registering) isReady with owed | notified
      · exact .inl owed
      · rw [lawful.poll_notified _ notified] at polled
        cases polled

/-- A pending future is polled again, and polls the cell. -/
def Waiter.repoll (waiter : Waiter Cell) : Waiter Cell :=
  { waiter with stage := .registering, woken := false }

theorem Waiter.Kept.repoll (kept : waiter.Kept ops ready due)
    (pending : waiter.stage = .pending) : waiter.repoll.Kept ops ready due :=
  fun _ isReady => kept (.inr pending) isReady

theorem Waiter.Kept.alert_repoll (kept : waiter.Kept ops ready due)
    (pending : waiter.stage = .pending) : waiter.repoll.Alert ops ready due :=
  fun isReady => (kept (.inr pending) isReady).imp_right .inl

end Kept

/-- A cell that stores a wakeup also when it wakes a task. -/
def remembering : WaitCell Slot :=
  { storing with
    wake := fun slot =>
      match slot with
      | .empty | .woken => (.woken, false)
      | .registered => (.woken, true)
      | .closed => (.closed, false) }

theorem remembering_lawful : remembering.Lawful where
  poll_pending slot := by cases slot <;> simp [remembering, storing]
  poll_notified slot := by cases slot <;> simp [remembering, storing]
  wake_registered slot := by cases slot <;> simp [remembering, storing]
  wake_stored slot := by cases slot <;> simp [remembering, storing]
  close_registered slot := by cases slot <;> simp [remembering, storing]
  close_closed slot := by cases slot <;> simp [remembering, storing]
  closed_notified slot := by cases slot <;> simp [remembering, storing]
  wake_closed slot := by cases slot <;> simp [remembering, storing]
  poll_closed slot := by cases slot <;> simp [remembering, storing]

theorem remembering_remembers : remembering.Remembers := by
  intro slot
  cases slot <;> simp [remembering, storing]

end WaitCell

end Mgnp
