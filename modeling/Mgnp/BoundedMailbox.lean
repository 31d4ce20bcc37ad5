import Mathlib.Tactic.Common

/-!
# Mailboxes of bounded capacity

A mailbox has a fixed number of places.  A sender reserves a place before it
commits a message, and a receiver that takes a message keeps its place until it
releases it.  The places held are not in the queue.
-/

namespace Mgnp

structure Mailbox (Message : Type*) (capacity : Nat) where
  queue : List Message
  held : Nat
  bounded : queue.length + held ≤ capacity

namespace Mailbox

variable {Message : Type*} {capacity : Nat} {mailbox next : Mailbox Message capacity}
  {message : Message}

def empty (Message : Type*) (capacity : Nat) : Mailbox Message capacity :=
  ⟨[], 0, Nat.zero_le capacity⟩

/-- Every place is held or has a message. -/
def Full (mailbox : Mailbox Message capacity) : Prop :=
  mailbox.queue.length + mailbox.held = capacity

instance (mailbox : Mailbox Message capacity) : Decidable mailbox.Full :=
  inferInstanceAs (Decidable (mailbox.queue.length + mailbox.held = capacity))

def reserve (mailbox : Mailbox Message capacity) : Option (Mailbox Message capacity) :=
  if room : mailbox.queue.length + mailbox.held < capacity then
    some ⟨mailbox.queue, mailbox.held + 1, room⟩
  else none

def commit (mailbox : Mailbox Message capacity) (message : Message) :
    Option (Mailbox Message capacity) :=
  if holds : 0 < mailbox.held then
    some ⟨mailbox.queue ++ [message], mailbox.held - 1, by
      have bounded := mailbox.bounded
      rw [List.length_append, List.length_singleton]
      omega⟩
  else none

def take (mailbox : Mailbox Message capacity) :
    Option (Message × Mailbox Message capacity) :=
  match inside : mailbox.queue with
  | [] => none
  | message :: rest =>
      some (message, ⟨rest, mailbox.held + 1, by
        have bounded := mailbox.bounded
        rw [inside, List.length_cons] at bounded
        omega⟩)

def release (mailbox : Mailbox Message capacity) : Option (Mailbox Message capacity) :=
  if 0 < mailbox.held then
    some ⟨mailbox.queue, mailbox.held - 1, by
      have bounded := mailbox.bounded
      omega⟩
  else none

theorem of_reserve (reserved : mailbox.reserve = some next) :
    next.queue = mailbox.queue ∧ next.held = mailbox.held + 1 := by
  unfold reserve at reserved
  split at reserved <;> cases reserved
  exact ⟨rfl, rfl⟩

theorem of_commit (committed : mailbox.commit message = some next) :
    next.queue = mailbox.queue ++ [message] ∧ next.held + 1 = mailbox.held := by
  unfold commit at committed
  split at committed <;> cases committed
  rename_i holds
  exact ⟨rfl, Nat.sub_add_cancel holds⟩

theorem of_take (taken : mailbox.take = some (message, next)) :
    mailbox.queue = message :: next.queue ∧ next.held = mailbox.held + 1 := by
  unfold take at taken
  split at taken <;> cases taken
  rename_i inside
  exact ⟨inside, rfl⟩

theorem of_release (released : mailbox.release = some next) :
    next.queue = mailbox.queue ∧ next.held + 1 = mailbox.held := by
  unfold release at released
  split at released <;> cases released
  rename_i holds
  exact ⟨rfl, Nat.sub_add_cancel holds⟩

/-- Only a full mailbox refuses a reservation. -/
theorem reserve_eq_none_iff : mailbox.reserve = none ↔ mailbox.Full := by
  have bounded := mailbox.bounded
  unfold reserve Full
  split <;> simp <;> omega

theorem exists_reserve (room : mailbox.queue.length + mailbox.held < capacity) :
    ∃ next, mailbox.reserve = some next := by
  rw [← Option.isSome_iff_exists, reserve, dif_pos room]
  rfl

theorem exists_commit (holds : 0 < mailbox.held) (message : Message) :
    ∃ next, mailbox.commit message = some next := by
  rw [← Option.isSome_iff_exists, commit, dif_pos holds]
  rfl

theorem exists_take {rest : List Message} (inside : mailbox.queue = message :: rest) :
    ∃ next, mailbox.take = some (message, next) := by
  unfold take
  split
  · rename_i none
    cases inside.symm.trans none
  · rename_i found
    cases inside.symm.trans found
    exact ⟨_, rfl⟩

theorem exists_release (holds : 0 < mailbox.held) :
    ∃ next, mailbox.release = some next := by
  rw [← Option.isSome_iff_exists, release, if_pos holds]
  rfl

end Mailbox

end Mgnp
