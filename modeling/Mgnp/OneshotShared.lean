import Mgnp.OneshotAnswers

/-!
# A oneshot receiver that several tasks use

`Receiver` and `ErasedReceiver` are `Sync`, and the methods that use the channel take
`&self`.  So any number of their calls may be in progress at once.  Each call takes the
steps of a receiver that is alone; the calls share the state byte, the cell, the senders
and the received references.
-/

namespace Mgnp

namespace Oneshot

open LabelledRuns

variable {T : Type*} {channel after : Channel T} {events : List (Event T)}

/-- A channel with the calls of its receiver. -/
structure Shared (T : Type*) where
  /-- Its `rx` is where the call stands that makes a step, and idle between the steps. -/
  channel : Channel T
  /-- Where each call stands. -/
  calls : Nat → RxPc T
  callCount : Nat

/-- The methods of the receiver that take `&self`. -/
inductive Method
  /-- `sender`, `deser_sender` or `downcast_sender`. -/
  | sender
  /-- `recv` or `recv_erased`. -/
  | recv
  | close

def Method.action : Method → Action T
  | .sender => .sender
  | .recv => .recv
  | .close => .close

/-- How a call goes on. -/
inductive CallMove
  | run
  /-- `poll_wait` succeeds, or the future is polled again. -/
  | woken
  /-- `poll_wait` finds the wait cell closed. -/
  | waitClosed
  /-- The waiting future is dropped. -/
  | cancel

def CallMove.action : CallMove → Action T
  | .run => .runRx
  | .woken => .woken
  | .waitClosed => .waitClosed
  | .cancel => .cancel

inductive SharedAction (T : Type*)
  /-- One more call begins. -/
  | begin (method : Method)
  | call (call : Nat) (move : CallMove)
  | intoErased
  /-- A step of a sender or of an `ErasedRecvRef`. -/
  | use (action : Action T)

/-- The receiver makes the step. -/
def Action.byReceiver : Action T → Bool
  | .sender | .recv | .close | .intoErased | .runRx | .woken | .waitClosed | .cancel => true
  | .send _ _ _ | .dropSender _ | .runSender _ | .downcast _ | .dropRef _ | .runRef _ => false

namespace Shared

def new (T : Type*) : Shared T where
  channel := .new T
  calls _ := .idle
  callCount := 0

/-- The channel as a call sees it. -/
def focus (shared : Shared T) (call : Nat) : Channel T :=
  { shared.channel with rx := shared.calls call }

/-- What a step of a call leaves. -/
def unfocus (shared : Shared T) (call : Nat) (channel : Channel T) : Shared T :=
  { shared with
    channel := { channel with rx := .idle }
    calls := Function.update shared.calls call channel.rx }

/-- No call is in progress. -/
def Quiet (shared : Shared T) : Prop :=
  ∀ call < shared.callCount, (shared.calls call).isIdle = true

instance (shared : Shared T) : Decidable shared.Quiet :=
  inferInstanceAs (Decidable (∀ call < shared.callCount, (shared.calls call).isIdle = true))

def run (shared : Shared T) (call : Nat) (action : Action T) :
    Option (Shared T × List (Event T)) :=
  ((shared.focus call).step action).map fun outcome =>
    (shared.unfocus call outcome.1, outcome.2)

/-- A step beside the calls. -/
def beside (shared : Shared T) (action : Action T) : Option (Shared T × List (Event T)) :=
  (shared.channel.step action).map fun outcome =>
    ({ shared with channel := outcome.1 }, outcome.2)

/-- `into_erased` takes the receiver by value, so no call borrows it. -/
def step (shared : Shared T) : SharedAction T → Option (Shared T × List (Event T))
  | .begin method =>
      (shared.run shared.callCount method.action).map fun outcome =>
        ({ outcome.1 with callCount := shared.callCount + 1 }, outcome.2)
  | .call call move => shared.run call move.action
  | .intoErased => if shared.Quiet then shared.beside .intoErased else none
  | .use action => if action.byReceiver then none else shared.beside action

end Shared

namespace SharedAction

/-- The step of the channel. -/
def base : SharedAction T → Action T
  | .begin method => method.action
  | .call _ move => move.action
  | .intoErased => .intoErased
  | .use action => action

end SharedAction

namespace Shared

/-- The call that makes a step, or the next one to begin. -/
def caller (shared : Shared T) : SharedAction T → Nat
  | .call call _ => call
  | .begin _ | .intoErased | .use _ => shared.callCount

/-- What the step returns to its caller. -/
def answer (shared : Shared T) (action : SharedAction T) : Option (Answer T) :=
  (shared.focus (shared.caller action)).answer action.base

/-- The calls that have begun are numbered, and a step leaves no call in `channel`. -/
structure Placed (shared : Shared T) : Prop where
  idle : shared.channel.rx = .idle
  fresh : ∀ call, shared.callCount ≤ call → shared.calls call = .idle

theorem placed_new : Placed (Shared.new T) where
  idle := rfl
  fresh _ _ := rfl

section Steps

variable {shared next : Shared T} {action : SharedAction T}

/-- A step of a sender or of a reference moves no call. -/
theorem step_rx_of_beside {base : Action T} (beside : base.byReceiver = false)
    (stepTo : channel.step base = some (after, events)) : after.rx = channel.rx := by
  cases base with
  | send | dropSender | downcast | dropRef =>
      simp only [Channel.step] at stepTo
      split at stepTo <;> cases stepTo
      rfl
  | runSender sender =>
      simp only [Channel.step, Channel.runSender] at stepTo
      repeat' split at stepTo
      all_goals cases stepTo
      all_goals rfl
  | runRef ref =>
      simp only [Channel.step, Channel.runRef] at stepTo
      split at stepTo <;> cases stepTo <;> rfl
  | _ => cases beside

theorem step_rx_of_intoErased (idle : channel.rx = .idle)
    (stepTo : channel.step .intoErased = some (after, events)) : after.rx = .idle := by
  simp only [Channel.step, Channel.start, idle] at stepTo
  split at stepTo
  · cases stepTo
  · cases stepTo
    rfl

/-- A call that is not in progress does not go on. -/
theorem not_moves_of_idle (idle : channel.rx = .idle) (move : CallMove) :
    channel.step move.action = none := by
  cases move <;> simp [CallMove.action, Channel.step, Channel.runRx, idle]

theorem Placed.focus_fresh (placed : Placed shared) : shared.focus shared.callCount =
    shared.channel := by
  have fresh := placed.fresh shared.callCount (Nat.le_refl _)
  rw [focus, fresh, ← placed.idle]

theorem Placed.beside (placed : Placed shared) {base : Action T}
    (kept : ∀ {after events}, shared.channel.step base = some (after, events) →
      after.rx = .idle)
    (stepTo : shared.beside base = some (next, events)) :
    ∃ focused, (shared.focus shared.callCount).step base = some (focused, events) ∧
      next = shared.unfocus shared.callCount focused := by
  obtain ⟨outcome, stepsTo, found⟩ := Option.map_eq_some_iff.mp stepTo
  cases found
  have idle : outcome.1.rx = .idle := kept stepsTo
  refine ⟨outcome.1, by rw [placed.focus_fresh]; exact stepsTo, ?_⟩
  have fresh := placed.fresh shared.callCount (Nat.le_refl _)
  simp only [unfocus, idle, ← fresh, Function.update_eq_self]
  rw [fresh, ← idle]

/-- Every step is one of the channel, as the call sees it that makes it. -/
theorem Placed.step_focus (placed : Placed shared)
    (stepTo : shared.step action = some (next, events)) :
    ∃ focused count,
      (shared.focus (shared.caller action)).step action.base = some (focused, events) ∧
      next = { shared.unfocus (shared.caller action) focused with callCount := count } ∧
      shared.callCount ≤ count := by
  cases action with
  | begin method =>
      obtain ⟨outcome, ran, found⟩ := Option.map_eq_some_iff.mp stepTo
      obtain ⟨focused, stepsTo, rfl⟩ := Option.map_eq_some_iff.mp ran
      cases found
      exact ⟨focused.1, _, stepsTo, rfl, Nat.le_succ _⟩
  | call call move =>
      obtain ⟨focused, stepsTo, found⟩ := Option.map_eq_some_iff.mp stepTo
      cases found
      exact ⟨focused.1, _, stepsTo, rfl, Nat.le_refl _⟩
  | intoErased =>
      simp only [Shared.step] at stepTo
      split at stepTo
      · obtain ⟨focused, stepsTo, rfl⟩ :=
          placed.beside (step_rx_of_intoErased placed.idle) stepTo
        exact ⟨focused, _, stepsTo, rfl, Nat.le_refl _⟩
      · cases stepTo
  | use base =>
      simp only [Shared.step] at stepTo
      split at stepTo
      · cases stepTo
      · rename_i besides
        have kept {after events} (stepsTo : shared.channel.step base = some (after, events)) :
            after.rx = .idle :=
          (step_rx_of_beside (by simpa using besides) stepsTo).trans placed.idle
        obtain ⟨focused, stepsTo, rfl⟩ := placed.beside kept stepTo
        exact ⟨focused, _, stepsTo, rfl, Nat.le_refl _⟩

theorem Placed.step (placed : Placed shared)
    (stepTo : shared.step action = some (next, events)) : Placed next := by
  cases action with
  | begin method =>
      obtain ⟨outcome, ran, found⟩ := Option.map_eq_some_iff.mp stepTo
      obtain ⟨focused, stepsTo, rfl⟩ := Option.map_eq_some_iff.mp ran
      cases found
      refine ⟨rfl, fun call later => ?_⟩
      have ne : call ≠ shared.callCount := Nat.ne_of_gt later
      exact (Function.update_of_ne ne ..).trans (placed.fresh call (Nat.le_of_succ_le later))
  | call call move =>
      obtain ⟨focused, stepsTo, found⟩ := Option.map_eq_some_iff.mp stepTo
      cases found
      refine ⟨rfl, fun other later => ?_⟩
      have ne : other ≠ call := by
        rintro rfl
        cases (not_moves_of_idle (placed.fresh other later) move).symm.trans stepsTo
      exact (Function.update_of_ne ne ..).trans (placed.fresh other later)
  | intoErased =>
      simp only [Shared.step] at stepTo
      split at stepTo
      · obtain ⟨outcome, stepsTo, found⟩ := Option.map_eq_some_iff.mp stepTo
        cases found
        exact ⟨step_rx_of_intoErased placed.idle stepsTo, placed.fresh⟩
      · cases stepTo
  | use base =>
      simp only [Shared.step] at stepTo
      split at stepTo
      · cases stepTo
      · rename_i besides
        obtain ⟨outcome, stepsTo, found⟩ := Option.map_eq_some_iff.mp stepTo
        cases found
        have kept := step_rx_of_beside (by simpa using besides) stepsTo
        exact ⟨kept.trans placed.idle, placed.fresh⟩

end Steps

end Shared

end Oneshot

end Mgnp
