import Mathlib.Data.List.Perm.Basic
import Mgnp.PipeHandles

/-!
# What one call does to a pipe

Whatever handle a call goes through, it adds a sender, adds a deserializing
sender to a static pipe, claims the receiver, converts a handle, fails a
downcast, closes the channel with an error, or drops a handle.
-/

namespace Mgnp

namespace PipeHandles

open PositionWord

variable {width : PointerWidth} {Ty E : Type*} {pipe next : Pipe width Ty E}
  {action : Action Ty E} {events : List Event}

/-- The count that a static pipe holds for itself. -/
def Backing.standing : Backing → Nat
  | .arc => 0
  | .static => 1

/-- The handles that can send, with the standing count of a static pipe. -/
def Pipe.senders (pipe : Pipe width Ty E) : Nat :=
  pipe.handles.countP Handle.sends + pipe.backing.standing

section Counting

variable (pipe : Pipe width Ty E)

@[simp] theorem Pipe.erasedClone_core : pipe.erasedClone.core = pipe.core := by
  rw [Pipe.erasedClone]
  split <;> rfl

@[simp] theorem Pipe.erasedClone_backing : pipe.erasedClone.backing = pipe.backing := by
  rw [Pipe.erasedClone]
  split <;> rfl

@[simp] theorem Pipe.erasedDrop_core : pipe.erasedDrop.core = pipe.core := by
  rw [Pipe.erasedDrop]
  split <;> rfl

@[simp] theorem Pipe.erasedDrop_backing : pipe.erasedDrop.backing = pipe.backing := by
  rw [Pipe.erasedDrop]
  split <;> rfl

@[simp] theorem Pipe.erasedDrop_handles : pipe.erasedDrop.handles = pipe.handles := by
  rw [Pipe.erasedDrop]
  split <;> rfl

@[simp] theorem Pipe.grant_core (kind : Handle) : (pipe.grant kind).core = pipe.core :=
  pipe.erasedClone_core

@[simp] theorem Pipe.release_core (handle : Nat) : (pipe.release handle).core = pipe.core :=
  pipe.erasedDrop_core

@[simp] theorem Pipe.senders_setCore (core : Core width E) :
    ({ pipe with core := core } : Pipe width Ty E).senders = pipe.senders :=
  rfl

theorem Pipe.senders_grant (kind : Handle) :
    (pipe.grant kind).senders = pipe.senders + kind.sends.toNat := by
  cases sends : kind.sends <;>
    simp [Pipe.senders, Pipe.grant, sends, Nat.add_right_comm]

variable {pipe}

theorem Pipe.senders_convert {handle : Nat} {old into : Handle}
    (found : pipe.handles[handle]? = some old) (same : into.sends = old.sends) :
    (pipe.convert handle into).senders = pipe.senders := by
  obtain ⟨inside, rfl⟩ := List.getElem?_eq_some_iff.mp found
  have counted : pipe.handles[handle].sends = true → 0 < pipe.handles.countP Handle.sends :=
    fun sends => List.countP_pos_iff.mpr ⟨_, List.getElem_mem inside, sends⟩
  rw [Pipe.senders, Pipe.convert, List.countP_set inside, same, Pipe.senders]
  cases sends : pipe.handles[handle].sends with
  | false => simp
  | true =>
      have positive := counted sends
      simp only [if_true]
      omega

theorem Pipe.senders_release {handle : Nat} {kind : Handle}
    (found : pipe.handles[handle]? = some kind) :
    (pipe.release handle).senders + kind.sends.toNat = pipe.senders := by
  obtain ⟨inside, rfl⟩ := List.getElem?_eq_some_iff.mp found
  have split := (List.getElem_cons_eraseIdx_perm inside).countP_eq Handle.sends
  rw [List.countP_cons] at split
  simp only [Pipe.senders, Pipe.release, Pipe.erasedDrop_backing, ← split]
  cases pipe.handles[handle].sends <;> simp [Nat.add_right_comm]

end Counting

/-- The calls that make a handle that sends. -/
def Action.addsSender : Action Ty E → Bool
  | .sender _ | .deserSender _ | .clone _ => true
  | _ => false

/-- The effect of one call. -/
inductive Pipe.Move (pipe : Pipe width Ty E) (action : Action Ty E) :
    Pipe width Ty E → List Event → Prop
  | added (kind : Handle) (sends : kind.sends = true) (adds : action.addsSender = true)
      (reached : 0 < pipe.senders) : Move pipe action (pipe.addSender kind) []
  | uncounted (through : Option Nat) (called : action = .deserSender through)
      (isStatic : pipe.backing = .static) : Move pipe action (pipe.grant .deserSender) []
  | claimed (kind : Handle) (receives : kind.sends = false) :
      Move pipe action (pipe.claimReceiver kind).1 (pipe.claimReceiver kind).2
  | converted (handle : Nat) (old into : Handle) (found : pipe.handles[handle]? = some old)
      (same : into.sends = old.sends) : Move pipe action (pipe.convert handle into) []
  | downcastFailed (handle : Nat) (typ : Ty) (called : action = .downcast handle typ)
      (mismatch : typ ≠ pipe.typeId) : Move pipe action pipe.erasedDrop [.downcastFailed]
  | erred (error : E) :
      Move pipe action (pipe.closeWithError error).1 (pipe.closeWithError error).2
  | droppedSender (handle : Nat) (kind : Handle) (found : pipe.handles[handle]? = some kind)
      (sends : kind.sends = true) :
      Move pipe action (pipe.dropSender handle).1 (pipe.dropSender handle).2
  | droppedReceiver (handle : Nat) (kind : Handle) (found : pipe.handles[handle]? = some kind)
      (receives : kind.sends = false) :
      Move pipe action (pipe.dropReceiver handle).1 (pipe.dropReceiver handle).2

theorem Pipe.senders_pos {handle : Nat} {kind : Handle}
    (found : pipe.handles[handle]? = some kind) (sends : kind.sends = true) :
    0 < pipe.senders := by
  have counted : 0 < pipe.handles.countP Handle.sends :=
    List.countP_pos_iff.mpr ⟨kind, List.mem_of_getElem? found, sends⟩
  rw [Pipe.senders]
  omega

theorem Pipe.Reaches.senders_pos {through : Option Nat} (reaches : pipe.Reaches through) :
    0 < pipe.senders := by
  cases backing : pipe.backing with
  | arc =>
      cases through with
      | none => simp [Pipe.Reaches, backing] at reaches
      | some handle =>
          simp only [Pipe.Reaches, backing] at reaches
          exact Pipe.senders_pos reaches rfl
  | static => simp [Pipe.senders, backing, Backing.standing]

/-- A move named by its outcome. -/
theorem Pipe.Move.of_eq {outcome : Pipe width Ty E × List Event}
    (made : outcome = (next, events)) (move : pipe.Move action outcome.1 outcome.2) :
    pipe.Move action next events := by
  subst made
  exact move

section Step

variable [DecidableEq Ty]

theorem Pipe.downcast_move {handle : Nat} {old into : Handle} {typ : Ty}
    (called : action = .downcast handle typ) (found : pipe.handles[handle]? = some old)
    (same : into.sends = old.sends) :
    pipe.Move action (pipe.downcast handle into typ).1 (pipe.downcast handle into typ).2 := by
  rw [Pipe.downcast]
  split
  · exact .converted handle old into found same
  · rename_i mismatch
    exact .downcastFailed handle typ called mismatch

/-- Every step of a pipe that has not been freed is one of the moves. -/
theorem Pipe.step_move (stepTo : pipe.step action = some (next, events)) :
    pipe.freed = false ∧ pipe.Move action next events := by
  unfold Pipe.step at stepTo
  cases isFreed : pipe.freed with
  | true => simp [isFreed] at stepTo
  | false =>
      simp only [isFreed, Bool.false_eq_true, if_false] at stepTo
      refine ⟨rfl, ?_⟩
      cases action with
      | sender through =>
          obtain ⟨reaches, made⟩ := Option.ite_none_right_eq_some.mp stepTo
          cases made
          exact .added .sender rfl rfl reaches.senders_pos
      | deserSender through =>
          obtain ⟨reaches, made⟩ := Option.ite_none_right_eq_some.mp stepTo
          cases made
          cases backing : pipe.backing with
          | arc =>
              simp only [Pipe.deserSender, backing]
              exact .added .deserSender rfl rfl reaches.senders_pos
          | static =>
              simp only [Pipe.deserSender, backing]
              exact .uncounted through rfl backing
      | receiver through =>
          obtain ⟨reaches, made⟩ := Option.ite_none_right_eq_some.mp stepTo
          exact .of_eq (Option.some.inj made) (.claimed .receiver rfl)
      | serReceiver through =>
          obtain ⟨reaches, made⟩ := Option.ite_none_right_eq_some.mp stepTo
          exact .of_eq (Option.some.inj made) (.claimed .serReceiver rfl)
      | clone handle =>
          dsimp only at stepTo
          split at stepTo
          · rename_i kind found
            obtain ⟨sends, made⟩ := Option.ite_none_right_eq_some.mp stepTo
            cases made
            exact .added kind sends rfl (Pipe.senders_pos found sends)
          · contradiction
      | intoSerde handle =>
          dsimp only at stepTo
          split at stepTo
          · cases stepTo
            exact .converted handle .sender .deserSender ‹_› rfl
          · cases stepTo
            exact .converted handle .receiver .serReceiver ‹_› rfl
          · contradiction
      | intoErased handle =>
          dsimp only at stepTo
          split at stepTo
          · cases stepTo
            exact .converted handle .sender .erasedSender ‹_› rfl
          · contradiction
      | downcast handle typ =>
          dsimp only at stepTo
          split at stepTo
          · exact .of_eq (Option.some.inj stepTo)
              (Pipe.downcast_move rfl ‹pipe.handles[handle]? = some .deserSender› rfl)
          · exact .of_eq (Option.some.inj stepTo)
              (Pipe.downcast_move rfl ‹pipe.handles[handle]? = some .serReceiver› rfl)
          · contradiction
      | closeWithError handle error =>
          dsimp only at stepTo
          split at stepTo
          · contradiction
          · contradiction
          · exact .of_eq (Option.some.inj stepTo) (.erred error)
      | drop handle =>
          dsimp only at stepTo
          split at stepTo
          · rename_i kind found
            cases sends : kind.sends with
            | true =>
                simp only [sends, if_true, Option.some.injEq] at stepTo
                exact .of_eq stepTo (.droppedSender handle kind found sends)
            | false =>
                simp only [sends, Bool.false_eq_true, if_false, Option.some.injEq] at stepTo
                exact .of_eq stepTo (.droppedReceiver handle kind found sends)
          · contradiction

end Step

end PipeHandles

end Mgnp
