import Mathlib.Data.List.Basic

/-!
# First-in first-out wait queues

A wait queue lets tasks wait for a wakeup.  A wakeup goes to the task that has
waited longest; when nobody waits it is stored as a flag, which the next task
that wants to wait consumes.  Users see such a queue through its view, and an
implementation is lawful when its operations act on the view as they should.
-/

namespace Mgnp

/-- What a wait queue looks like to its users. -/
structure QueueView (Key : Type*) where
  /-- The registered waiters, the longest waiting first. -/
  waiters : List Key
  /-- A wakeup is stored. -/
  stored : Bool
  closed : Bool
  /-- Nobody waits beside a stored wakeup or in a closed queue. -/
  exclusive : (stored || closed) = true → waiters = []

namespace QueueView

variable {Key : Type*} {view : QueueView Key} {key : Key}

/-- How a call of `wait` begins. -/
inductive Answer
  /-- A stored wakeup lets the caller go on. -/
  | ready
  /-- The caller waits in the queue. -/
  | registered
  | closed
  deriving DecidableEq

def empty : QueueView Key := ⟨[], false, false, fun _ => rfl⟩

def wait (view : QueueView Key) (key : Key) : QueueView Key × Answer :=
  if view.closed then (view, .closed)
  else if stored : view.stored then
    (⟨view.waiters, false, false, fun _ => view.exclusive (by simp [stored])⟩, .ready)
  else (⟨view.waiters ++ [key], false, false, nofun⟩, .registered)

/-- The wakeup goes to the first waiter. -/
def wake (view : QueueView Key) : QueueView Key × Option Key :=
  match view.waiters with
  | key :: later => (⟨later, false, false, nofun⟩, some key)
  | [] => (⟨[], !view.closed, view.closed, fun _ => rfl⟩, none)

/-- Everybody is woken and finds the queue closed. -/
def close (_ : QueueView Key) : QueueView Key := ⟨[], false, true, fun _ => rfl⟩

theorem stored_of_waiters (waits : view.waiters ≠ []) : view.stored = false := by
  by_contra stored
  exact waits (view.exclusive (by simp [stored]))

theorem open_of_waiters (waits : view.waiters ≠ []) : view.closed = false := by
  by_contra isClosed
  exact waits (view.exclusive (by simp [isClosed]))

theorem wait_closed (answered : (view.wait key).2 = .closed) :
    view.closed = true ∧ (view.wait key).1 = view := by
  unfold wait at answered ⊢
  split
  · rename_i isClosed
    exact ⟨isClosed, rfl⟩
  · rename_i isOpen
    rw [if_neg isOpen] at answered
    split at answered <;> cases answered

theorem wait_ready (answered : (view.wait key).2 = .ready) :
    view.stored = true ∧ (view.wait key).1.waiters = view.waiters ∧
      (view.wait key).1.stored = false ∧ (view.wait key).1.closed = view.closed := by
  unfold wait at answered ⊢
  by_cases isClosed : view.closed = true
  · rw [if_pos isClosed] at answered
    cases answered
  · by_cases stored : view.stored = true
    · simp [isClosed, stored]
    · rw [if_neg isClosed, dif_neg stored] at answered
      cases answered

theorem wait_registered (answered : (view.wait key).2 = .registered) :
    (view.stored || view.closed) = false ∧ (view.wait key).1.waiters = view.waiters ++ [key] ∧
      (view.wait key).1.stored = false ∧ (view.wait key).1.closed = view.closed := by
  unfold wait at answered ⊢
  by_cases isClosed : view.closed = true
  · rw [if_pos isClosed] at answered
    cases answered
  · by_cases stored : view.stored = true
    · rw [if_neg isClosed, dif_pos stored] at answered
      cases answered
    · simp [isClosed, stored]

theorem wake_some (woke : view.wake.2 = some key) :
    view.waiters = key :: view.wake.1.waiters ∧ view.stored = false ∧
      view.wake.1.stored = false ∧ view.wake.1.closed = view.closed := by
  unfold wake at woke ⊢
  cases waiters : view.waiters with
  | nil => simp [waiters] at woke
  | cons first later =>
      simp only [waiters, Option.some.injEq] at woke
      have waits : view.waiters ≠ [] := by simp [waiters]
      simp [woke, stored_of_waiters waits, open_of_waiters waits]

theorem wake_none (woke : view.wake.2 = none) :
    view.waiters = [] ∧ view.wake.1.waiters = [] ∧
      view.wake.1.stored = !view.closed ∧ view.wake.1.closed = view.closed := by
  unfold wake at woke ⊢
  cases waiters : view.waiters with
  | nil => simp
  | cons first later => simp [waiters] at woke

end QueueView

/-- An implementation of wait queues. -/
structure WaitQueue (Queue Key : Type*) where
  new : Queue
  /-- Begin to wait. -/
  wait : Queue → Key → Queue × QueueView.Answer
  /-- Wake somebody, and say whom. -/
  wake : Queue → Queue × Option Key
  close : Queue → Queue
  view : Queue → QueueView Key

namespace WaitQueue

/-- What the users of a wait queue rely on. -/
structure Lawful {Queue Key : Type*} (ops : WaitQueue Queue Key) : Prop where
  new : ops.view ops.new = .empty
  wait : ∀ queue key, (ops.wait queue key).map ops.view id = (ops.view queue).wait key
  wake : ∀ queue, (ops.wake queue).map ops.view id = (ops.view queue).wake
  close : ∀ queue, ops.view (ops.close queue) = (ops.view queue).close

/-- A queue that is its own view. -/
def plain (Key : Type*) : WaitQueue (QueueView Key) Key where
  new := .empty
  wait := QueueView.wait
  wake := QueueView.wake
  close := QueueView.close
  view := id

theorem plain_lawful (Key : Type*) : (plain Key).Lawful where
  new := rfl
  wait _ _ := rfl
  wake _ := rfl
  close _ := rfl

section Rules

variable {Queue Key : Type*} {ops : WaitQueue Queue Key} {queue : Queue} {key : Key}

theorem Lawful.view_wait (lawful : ops.Lawful) :
    ops.view (ops.wait queue key).1 = ((ops.view queue).wait key).1 :=
  congrArg Prod.fst (lawful.wait queue key)

theorem Lawful.answer_wait (lawful : ops.Lawful) :
    (ops.wait queue key).2 = ((ops.view queue).wait key).2 :=
  congrArg Prod.snd (lawful.wait queue key)

theorem Lawful.view_wake (lawful : ops.Lawful) :
    ops.view (ops.wake queue).1 = (ops.view queue).wake.1 :=
  congrArg Prod.fst (lawful.wake queue)

theorem Lawful.woken (lawful : ops.Lawful) :
    (ops.wake queue).2 = (ops.view queue).wake.2 :=
  congrArg Prod.snd (lawful.wake queue)

end Rules

end WaitQueue

end Mgnp
