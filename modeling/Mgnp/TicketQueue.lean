import Mathlib.Data.List.Nodup

/-!
# Queues whose items are published out of order

Producers take tickets in some order, publish their items in any order, and
one consumer takes items in ticket order.  An item can be taken once it is at
the front and published.  This is the abstract behaviour of a bounded ring in
which claiming a position and filling its slot are separate steps.
-/

namespace Mgnp

/-- A queue of items issued in ticket order.  Each ticket has a key, by which
its producer publishes it later. -/
structure TicketQueue (κ α : Type*) where
  issued : List (κ × α)
  published : List κ
  taken : Nat

namespace TicketQueue

variable {κ α : Type*}

def empty : TicketQueue κ α := ⟨[], [], 0⟩

inductive Op (κ α : Type*)
  | issue (key : κ) (item : α)
  | publish (key : κ)
  | take (item : α)

/-- The item at the front may be taken. -/
def Ready (queue : TicketQueue κ α) (item : α) : Prop :=
  ∃ key, queue.issued[queue.taken]? = some (key, item) ∧ key ∈ queue.published

inductive Step : TicketQueue κ α → Op κ α → TicketQueue κ α → Prop
  | issue {queue : TicketQueue κ α} {key : κ} {item : α}
      (fresh : key ∉ queue.issued.map Prod.fst) :
      Step queue (.issue key item)
        { queue with issued := queue.issued ++ [(key, item)] }
  | publish {queue : TicketQueue κ α} {key : κ}
      (holds : key ∈ queue.issued.map Prod.fst)
      (pending : key ∉ queue.published) :
      Step queue (.publish key)
        { queue with published := key :: queue.published }
  | take {queue : TicketQueue κ α} {item : α} (ready : queue.Ready item) :
      Step queue (.take item) { queue with taken := queue.taken + 1 }

/-- The operations lead from the empty queue to `queue`. -/
inductive Replays : List (Op κ α) → TicketQueue κ α → Prop
  | empty : Replays [] empty
  | step {ops : List (Op κ α)} {op : Op κ α} {queue next : TicketQueue κ α} :
      Replays ops queue → Step queue op next → Replays (ops ++ [op]) next

/-- At most one operation. -/
inductive Advance (queue : TicketQueue κ α) :
    List (Op κ α) → TicketQueue κ α → Prop
  | idle : Advance queue [] queue
  | step {op : Op κ α} {next : TicketQueue κ α} :
      Step queue op next → Advance queue [op] next

/-- The items issued by a list of operations, with their keys. -/
def issues : List (Op κ α) → List (κ × α) :=
  List.filterMap fun
    | .issue key item => some (key, item)
    | _ => none

/-- The items taken by a list of operations. -/
def takes : List (Op κ α) → List α :=
  List.filterMap fun
    | .take item => some item
    | _ => none

variable {ops : List (Op κ α)} {queue : TicketQueue κ α}

theorem Replays.advance {later : List (Op κ α)} {next : TicketQueue κ α}
    (replays : Replays ops queue) (advance : Advance queue later next) :
    Replays (ops ++ later) next := by
  cases advance with
  | idle => rwa [List.append_nil]
  | step step => exact .step replays step

theorem Replays.issued_eq (replays : Replays ops queue) :
    queue.issued = issues ops := by
  induction replays with
  | empty => rfl
  | step _ step ih =>
      cases step <;> simp_all [issues, List.filterMap_append]

theorem Replays.mem_published (replays : Replays ops queue) (key : κ) :
    key ∈ queue.published ↔ .publish key ∈ ops := by
  induction replays with
  | empty => simp [TicketQueue.empty]
  | step _ step ih =>
      cases step <;> simp [ih, or_comm]

theorem Replays.keys_nodup (replays : Replays ops queue) :
    (queue.issued.map Prod.fst).Nodup := by
  induction replays with
  | empty => exact List.nodup_nil
  | step _ step ih =>
      cases step with
      | issue fresh =>
          rw [List.map_append]
          exact List.Nodup.append ih (List.nodup_singleton _)
            (List.disjoint_singleton.mpr fresh)
      | publish | take => exact ih

theorem Replays.taken_le (replays : Replays ops queue) :
    queue.taken ≤ queue.issued.length := by
  induction replays with
  | empty => exact Nat.le_refl 0
  | step _ step ih =>
      cases step with
      | issue => exact Nat.le_trans ih (by simp)
      | publish => exact ih
      | take ready =>
          obtain ⟨key, front, _⟩ := ready
          obtain ⟨inside, _⟩ := List.getElem?_eq_some_iff.mp front
          exact inside

/-- The items taken are exactly the first items issued, in order. -/
theorem Replays.takes_eq (replays : Replays ops queue) :
    takes ops = (queue.issued.take queue.taken).map Prod.snd := by
  induction replays with
  | empty => rfl
  | @step ops op queue next before step ih =>
      rw [takes, List.filterMap_append, ← takes, ih]
      cases step with
      | issue =>
          rw [List.take_append_of_le_length before.taken_le]
          exact List.append_nil _
      | publish => exact List.append_nil _
      | take ready =>
          obtain ⟨key, front, _⟩ := ready
          simp only [List.take_add_one, front, List.map_append]
          rfl

theorem Replays.taken_eq (replays : Replays ops queue) :
    queue.taken = (takes ops).length := by
  rw [replays.takes_eq, List.length_map, List.length_take,
    Nat.min_eq_left replays.taken_le]

/-- Nothing is lost, duplicated or reordered. -/
theorem Replays.takes_in_order (replays : Replays ops queue) :
    takes ops <+: (issues ops).map Prod.snd := by
  rw [replays.takes_eq, ← replays.issued_eq]
  exact (List.take_prefix _ _).map _

/-- Only issued tickets are published. -/
theorem Replays.issued_of_published (replays : Replays ops queue) {key : κ}
    (published : key ∈ queue.published) : key ∈ queue.issued.map Prod.fst := by
  induction replays with
  | empty => cases published
  | step _ step ih =>
      cases step with
      | issue =>
          rw [List.map_append]
          exact List.mem_append_left _ (ih published)
      | publish holds =>
          rcases List.mem_cons.mp published with rfl | before
          · exact holds
          · exact ih before
      | take => exact ih published

/-- Keys identify tickets. -/
theorem Replays.ticket_unique (replays : Replays ops queue) {first second : Nat}
    {key : κ} {item other : α}
    (atFirst : queue.issued[first]? = some (key, item))
    (atSecond : queue.issued[second]? = some (key, other)) : first = second := by
  have nodup := replays.keys_nodup
  have firstKey : (queue.issued.map Prod.fst)[first]? = some key := by
    simp [atFirst]
  have secondKey : (queue.issued.map Prod.fst)[second]? = some key := by
    simp [atSecond]
  obtain ⟨firstLt, firstEq⟩ := List.getElem?_eq_some_iff.mp firstKey
  obtain ⟨secondLt, secondEq⟩ := List.getElem?_eq_some_iff.mp secondKey
  exact (List.Nodup.getElem_inj_iff nodup).mp (firstEq.trans secondEq.symm)

end TicketQueue

end Mgnp
