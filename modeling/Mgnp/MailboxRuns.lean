import Mgnp.BoundedMailbox
import Mgnp.Simulation

/-!
# Runs of a bounded mailbox

The operations of a mailbox as one step function, with a report of what each of them
did.  In every run the messages that came out are the first that went in, in the same
order, and the others are still inside.
-/

namespace Mgnp

namespace Mailbox

open LabelledRuns

variable {Message : Type*} {capacity : Nat} {mailbox next : Mailbox Message capacity}

inductive Operation (Message : Type*)
  | reserve
  /-- Refuse a reservation. -/
  | refuse
  | commit (message : Message)
  | take
  | release

inductive Report (Message : Type*)
  | reserved
  | refused
  | committed (message : Message)
  | taken (message : Message)
  deriving DecidableEq

def step (mailbox : Mailbox Message capacity) :
    Operation Message → Option (Mailbox Message capacity × List (Report Message))
  | .reserve => mailbox.reserve.map fun next => (next, [.reserved])
  | .refuse => if mailbox.Full then some (mailbox, [.refused]) else none
  | .commit message => (mailbox.commit message).map fun next => (next, [.committed message])
  | .take => mailbox.take.map fun outcome => (outcome.2, [.taken outcome.1])
  | .release => mailbox.release.map fun next => (next, [])

/-- The messages that went in. -/
def entered (history : List (Report Message)) : List Message :=
  history.filterMap fun
    | .committed message => some message
    | _ => none

/-- The messages that came out. -/
def left (history : List (Report Message)) : List Message :=
  history.filterMap fun
    | .taken message => some message
    | _ => none

theorem entered_append (first second : List (Report Message)) :
    entered (first ++ second) = entered first ++ entered second :=
  List.filterMap_append

theorem left_append (first second : List (Report Message)) :
    left (first ++ second) = left first ++ left second :=
  List.filterMap_append

section Runs

variable {history : List (Report Message)}

/-- What an operation puts in or takes out, and what is inside afterwards. -/
theorem step_queue {operation : Operation Message} {reports : List (Report Message)}
    (stepTo : mailbox.step operation = some (next, reports)) :
    mailbox.queue ++ entered reports = left reports ++ next.queue := by
  cases operation with
  | reserve =>
      obtain ⟨after, reserved, stepEq⟩ := Option.map_eq_some_iff.mp stepTo
      cases stepEq
      rw [(of_reserve reserved).1]
      exact List.append_nil _
  | refuse =>
      simp only [step] at stepTo
      split at stepTo <;> cases stepTo
      exact List.append_nil _
  | commit message =>
      obtain ⟨after, committed, stepEq⟩ := Option.map_eq_some_iff.mp stepTo
      cases stepEq
      rw [(of_commit committed).1]
      rfl
  | take =>
      obtain ⟨⟨message, after⟩, taken, stepEq⟩ := Option.map_eq_some_iff.mp stepTo
      cases stepEq
      rw [(of_take taken).1]
      exact List.append_nil _
  | release =>
      obtain ⟨after, released, stepEq⟩ := Option.map_eq_some_iff.mp stepTo
      cases stepEq
      rw [(of_release released).1]
      exact List.append_nil _

/-- In every run, what went in is what came out, followed by what is still inside. -/
theorem run_queue {admits : Mailbox Message capacity → Operation Message → Prop}
    (run : Run step admits (empty Message capacity) history mailbox) :
    entered history = left history ++ mailbox.queue := by
  apply run.invariant fun past mailbox => entered past = left past ++ mailbox.queue
  · rfl
  · intro past reports mailbox operation next inside _ stepTo
    rw [entered_append, left_append, inside, List.append_assoc, List.append_assoc,
      step_queue stepTo]

end Runs

section Steps

/-! One operation, as a run. -/

theorem run_reserve (room : mailbox.queue.length + mailbox.held < capacity) :
    ∃ next, Run step anyStep mailbox [.reserved] next ∧
      next.queue = mailbox.queue ∧ next.held = mailbox.held + 1 := by
  obtain ⟨next, reserved⟩ := exists_reserve room
  have stepTo : mailbox.step .reserve = some (next, [.reserved]) := by
    rw [step, reserved, Option.map_some]
  exact ⟨next, .single trivial stepTo, of_reserve reserved⟩

theorem run_refuse (full : mailbox.Full) :
    Run step anyStep mailbox [.refused] mailbox := by
  have stepTo : mailbox.step .refuse = some (mailbox, [.refused]) := if_pos full
  exact .single trivial stepTo

theorem run_commit (holds : 0 < mailbox.held) (message : Message) :
    ∃ next, Run step anyStep mailbox [.committed message] next ∧
      next.queue = mailbox.queue ++ [message] ∧ next.held + 1 = mailbox.held := by
  obtain ⟨next, committed⟩ := exists_commit holds message
  have stepTo : mailbox.step (.commit message) = some (next, [.committed message]) := by
    rw [step, committed, Option.map_some]
  exact ⟨next, .single trivial stepTo, of_commit committed⟩

theorem run_take {message : Message} {rest : List Message}
    (inside : mailbox.queue = message :: rest) :
    ∃ next, Run step anyStep mailbox [.taken message] next ∧
      next.queue = rest ∧ next.held = mailbox.held + 1 := by
  obtain ⟨next, taken⟩ := exists_take inside
  have stepTo : mailbox.step .take = some (next, [.taken message]) := by
    rw [step, taken, Option.map_some]
  obtain ⟨queue, held⟩ := of_take taken
  cases inside.symm.trans queue
  exact ⟨next, .single trivial stepTo, rfl, held⟩

theorem run_release (holds : 0 < mailbox.held) :
    ∃ next, Run step anyStep mailbox [] next ∧
      next.queue = mailbox.queue ∧ next.held + 1 = mailbox.held := by
  obtain ⟨next, released⟩ := exists_release holds
  have stepTo : mailbox.step .release = some (next, []) := by
    rw [step, released, Option.map_some]
  exact ⟨next, .single trivial stepTo, of_release released⟩

end Steps

end Mailbox

end Mgnp
