import Mathlib.Data.List.Nodup
import Mathlib.Data.List.Range
import Mgnp.ReqRspTransitions

/-!
# Sequence numbers and waiters

As long as the sequence numbers have not wrapped around, a sequence number
belongs to the task that drew it, and the waiter under a key belongs to a call
that holds the key.
-/

namespace Mgnp

namespace Calliope

namespace ReqRsp

variable {waitMap : WaitMap} {Req Rsp : Type*} {bits : Nat} {build : Build}

theorem getElem?_append_of_some {α : Type*} {front back : List α} {i : Nat} {value : α}
    (found : front[i]? = some value) : (front ++ back)[i]? = some value := by
  rw [List.getElem?_append_left (List.getElem?_eq_some_iff.mp found).1, found]

section Histories

variable {history events : List (Event Rsp)}

/-- The sequence numbers drawn, each with the task that drew it. -/
def draws (history : List (Event Rsp)) : List (Nat × Nat) :=
  history.filterMap fun
    | .drew task seq => some (task, seq)
    | _ => none

/-- The responses that the server has sent. -/
def responses (history : List (Event Rsp)) : List (Response Rsp) :=
  history.filterMap fun
    | .responded response => some response
    | _ => none

/-- The numbers of the responses that woke a waiter, each with the waiter's task. -/
def wakes (history : List (Event Rsp)) : List (Nat × Nat) :=
  history.filterMap fun
    | .woke number task => some (number, task)
    | _ => none

@[simp] theorem draws_append : draws (history ++ events) = draws history ++ draws events :=
  List.filterMap_append

@[simp] theorem responses_append :
    responses (history ++ events) = responses history ++ responses events :=
  List.filterMap_append

@[simp] theorem wakes_append : wakes (history ++ events) = wakes history ++ wakes events :=
  List.filterMap_append

@[simp] theorem draws_drew (task seq : Nat) :
    draws [(.drew task seq : Event Rsp)] = [(task, seq)] := rfl

end Histories

section Draws

variable {client next : Client waitMap Req Rsp} {task : Nat}
  {history events : List (Event Rsp)}

@[simp] theorem Client.goto_tasks_self (client : Client waitMap Req Rsp) (task : Nat)
    (pc : TaskPc Req Rsp) : (client.goto task pc).tasks task = pc :=
  Function.update_self ..

theorem Client.goto_tasks_of_ne (client : Client waitMap Req Rsp) {task other : Nat}
    (pc : TaskPc Req Rsp) (ne : other ≠ task) :
    (client.goto task pc).tasks other = client.tasks other :=
  Function.update_of_ne ne ..

/-- A part of the tasks after one of them has moved. -/
theorem Client.of_goto {Part : Type*} {part : TaskPc Req Rsp → Option Part}
    {pc : TaskPc Req Rsp} {other : Nat} {value : Part}
    (found : part ((client.goto task pc).tasks other) = some value) :
    (other = task ∧ part pc = some value) ∨
      (other ≠ task ∧ part (client.tasks other) = some value) := by
  by_cases same : other = task
  · subst same
    rw [goto_tasks_self] at found
    exact .inl ⟨rfl, found⟩
  · rw [goto_tasks_of_ne client pc same] at found
    exact .inr ⟨same, found⟩

/-- A move that adds nothing to a part of the tasks. -/
theorem Client.part_of_goto {Part : Type*} {part : TaskPc Req Rsp → Option Part}
    {pc : TaskPc Req Rsp} {other : Nat} {value : Part}
    (keeps : ∀ {value}, part pc = some value → part (client.tasks task) = some value)
    (found : part ((client.goto task pc).tasks other) = some value) :
    part (client.tasks other) = some value := by
  rcases Client.of_goto found with ⟨rfl, own⟩ | ⟨-, before⟩
  · exact keeps own
  · exact before

/-- The counter has counted the draws, and a call holds a number that it drew. -/
structure Drawn (bits : Nat) (history : List (Event Rsp))
    (client : Client waitMap Req Rsp) : Prop where
  counter : client.seq = (draws history).length % 2 ^ bits
  seqs : (draws history).map Prod.snd =
    (List.range (draws history).length).map (· % 2 ^ bits)
  holds : ∀ {task seq}, (client.tasks task).outstanding = some seq →
    (task, seq) ∈ draws history
  requested : ∀ {task seq}, .requested task seq ∈ history → (task, seq) ∈ draws history

theorem drawn_new : Drawn bits [] (Client.new waitMap Req Rsp) where
  counter := (Nat.zero_mod _).symm
  seqs := rfl
  holds outstanding := by cases outstanding
  requested occurs := by cases occurs

/-- Before the counter wraps around, a number belongs to the task that drew it. -/
theorem Drawn.task_unique (drawn : Drawn bits history client)
    (few : (draws history).length ≤ 2 ^ bits) {first second seq : Nat}
    (firstDrew : (first, seq) ∈ draws history) (secondDrew : (second, seq) ∈ draws history) :
    first = second := by
  have unwrapped : (draws history).map Prod.snd = List.range (draws history).length := by
    rw [drawn.seqs]
    conv_rhs => rw [← List.map_id (List.range (draws history).length)]
    apply List.map_congr_left
    intro number member
    exact Nat.mod_eq_of_lt (Nat.lt_of_lt_of_le (List.mem_range.mp member) few)
  have nodup : ((draws history).map Prod.snd).Nodup := unwrapped ▸ List.nodup_range
  exact congrArg Prod.fst (List.inj_on_of_nodup_map nodup firstDrew secondDrew rfl)

/-- A step in which no call gets another number keeps the draws. -/
theorem Drawn.keep (drawn : Drawn bits history client) (seq : next.seq = client.seq)
    (silent : draws events = [])
    (holds : ∀ {task seq}, (next.tasks task).outstanding = some seq →
      (client.tasks task).outstanding = some seq)
    (requested : ∀ {task seq}, .requested task seq ∈ events →
      (client.tasks task).outstanding = some seq) :
    Drawn bits (history ++ events) next := by
  have same : draws (history ++ events) = draws history := by
    rw [draws_append, silent, List.append_nil]
  constructor
  · rw [same, seq, drawn.counter]
  · rw [same, drawn.seqs]
  · intro task number outstanding
    rw [same]
    exact drawn.holds (holds outstanding)
  · intro task number occurs
    rw [same]
    rcases List.mem_append.mp occurs with before | now
    · exact drawn.requested before
    · exact drawn.holds (requested now)

theorem Drawn.draw {body : Req} (drawn : Drawn bits history client) :
    Drawn bits (history ++ [.drew task client.seq])
      { client.goto task (.enqueuing body client.seq) with
        seq := (client.seq + 1) % 2 ^ bits } := by
  have drew : draws (history ++ [.drew task client.seq]) =
      draws history ++ [(task, client.seq)] := by
    rw [draws_append, draws_drew]
  constructor
  · rw [drew, List.length_append, List.length_singleton, drawn.counter, Nat.mod_add_mod]
  · rw [drew, List.map_append, List.length_append, List.length_singleton, List.range_succ,
      List.map_append, drawn.seqs, drawn.counter]
    rfl
  · intro other seq outstanding
    rw [drew]
    rcases Client.of_goto outstanding with ⟨rfl, own⟩ | ⟨-, before⟩
    · cases own
      simp
    · exact List.mem_append_left _ (drawn.holds before)
  · intro other seq occurs
    rw [drew]
    rcases List.mem_append.mp occurs with before | now
    · exact List.mem_append_left _ (drawn.requested before)
    · cases List.mem_singleton.mp now

theorem Drawn.transition (drawn : Drawn bits history client)
    (transition : Transition bits client next events) :
    Drawn bits (history ++ events) next := by
  cases transition with
  | drew at_task => exact drawn.draw
  | moved quiet keeps =>
      refine drawn.keep rfl rfl (Client.part_of_goto ?_) (by simp)
      intro seq own
      cases quiet.outstanding.symm.trans own
  | enqueued at_task enqueue =>
      refine drawn.keep rfl rfl (Client.part_of_goto ?_) (by simp)
      rw [at_task]
      exact id
  | sent at_task =>
      refine drawn.keep rfl rfl (Client.part_of_goto ?_) ?_
      · rw [at_task]
        exact id
      · intro other seq occurs
        cases List.mem_singleton.mp occurs
        rw [at_task]
        rfl
  | unsent at_task =>
      refine drawn.keep rfl rfl (Client.part_of_goto ?_) (by simp)
      rw [at_task]
      exact id
  | returned at_task =>
      refine drawn.keep rfl rfl (Client.part_of_goto ?_) (by simp)
      intro seq own
      cases own
  | received at_task oldest =>
      refine drawn.keep rfl rfl (Client.part_of_goto ?_) (by simp)
      intro seq own
      cases own
  | woke at_task wake =>
      refine drawn.keep rfl rfl ?_ (by simp)
      intro other seq outstanding
      have woken := Client.part_of_goto (fun own => by cases own) outstanding
      exact Client.part_of_goto (by simp) woken
  | responded member => exact drawn.keep rfl rfl id (by simp)
  | linked link => exact drawn.keep rfl rfl id (by simp)

end Draws

section Waits

variable {client next : Client waitMap Req Rsp} {events : List (Event Rsp)}

/-- A waiter in the map belongs to a call that holds its key. -/
structure Waits (client : Client waitMap Req Rsp) : Prop where
  registered : ∀ {key task}, waitMap.waiter client.map key = some task →
    (client.tasks task).registered = some key

theorem waits_new (lawful : waitMap.Lawful) : Waits (Client.new waitMap Req Rsp) where
  registered {key _} found := by cases (lawful.new key).symm.trans found

/-- A task moves, and the other waiters of the new map were in the old one. -/
theorem Waits.goto (waits : Waits client) {task : Nat} {pc : TaskPc Req Rsp}
    (tasks : next.tasks = (client.goto task pc).tasks)
    (own : ∀ {key}, waitMap.waiter next.map key = some task → pc.registered = some key)
    (others : ∀ {key other}, other ≠ task → waitMap.waiter next.map key = some other →
      waitMap.waiter client.map key = some other) : Waits next := by
  constructor
  intro key other found
  rw [tasks]
  by_cases same : other = task
  · subst same
    rw [Client.goto_tasks_self]
    exact own found
  · rw [Client.goto_tasks_of_ne client pc same]
    exact waits.registered (others same found)

/-- A task moves and keeps its registration, and the map stays as it is. -/
theorem Waits.stay (waits : Waits client) {task : Nat} {pc : TaskPc Req Rsp}
    (tasks : next.tasks = (client.goto task pc).tasks) (map : next.map = client.map)
    (keeps : ∀ {key}, (client.tasks task).registered = some key → pc.registered = some key) :
    Waits next := by
  apply waits.goto tasks
  · intro key found
    rw [map] at found
    exact keeps (waits.registered found)
  · intro key other _ found
    rwa [map] at found

theorem Waits.transition (waits : Waits client) (lawful : waitMap.Lawful)
    (transition : Transition bits client next events) : Waits next := by
  cases transition with
  | moved quiet keeps =>
      refine waits.goto rfl ?_ fun _ found => (keeps found).1
      intro key found
      obtain ⟨before, unregistered⟩ := keeps found
      cases (unregistered rfl).symm.trans (waits.registered before)
  | drew at_task =>
      refine waits.stay rfl rfl ?_
      rw [at_task]
      intro key registered
      cases registered
  | @enqueued task seq body map at_task enqueue =>
      obtain ⟨-, waiters⟩ := lawful.enqueue enqueue
      have at_key : ∀ {key other}, waitMap.waiter map key = some other →
          (key = seq ∧ other = task) ∨ waitMap.waiter client.map key = some other := by
        intro key other found
        rw [waiters] at found
        by_cases same : key = seq
        · subst same
          rw [Function.update_self] at found
          exact .inl ⟨rfl, (Option.some.inj found).symm⟩
        · rw [Function.update_of_ne same] at found
          exact .inr found
      refine waits.goto rfl ?_ ?_
      · intro key found
        rcases at_key found with ⟨rfl, -⟩ | before
        · rfl
        · have registered := waits.registered before
          rw [at_task] at registered
          cases registered
      · intro key other ne found
        rcases at_key found with ⟨-, rfl⟩ | before
        · exact absurd rfl ne
        · exact before
  | sent at_task =>
      refine waits.stay rfl rfl ?_
      rw [at_task]
      exact id
  | unsent at_task =>
      refine waits.stay rfl rfl ?_
      rw [at_task]
      exact id
  | @returned task seq body at_task =>
      have dropped : ∀ {key other},
          waitMap.waiter (waitMap.drop client.map task) key = some other →
          other ≠ task ∧ waitMap.waiter client.map key = some other := by
        intro key other found
        rw [lawful.drop] at found
        split_ifs at found with own
        refine ⟨?_, found⟩
        rintro rfl
        exact own found
      refine waits.goto rfl ?_ fun _ found => (dropped found).2
      intro key found
      exact absurd rfl (dropped found).1
  | received at_task oldest =>
      refine waits.stay rfl rfl ?_
      rw [at_task]
      intro key registered
      cases registered
  | @woke task number waiter response map at_task wake =>
      obtain ⟨-, waiters⟩ := lawful.wake wake
      have before : ∀ {key other}, waitMap.waiter map key = some other →
          waitMap.waiter client.map key = some other := by
        intro key other found
        rw [waiters] at found
        by_cases same : key = response.seq
        · subst same
          rw [Function.update_self] at found
          cases found
        · rwa [Function.update_of_ne same] at found
      have woken : Waits (client.goto waiter ((client.tasks waiter).answered response.body)) := by
        refine waits.stay rfl rfl ?_
        rw [TaskPc.registered_answered]
        exact id
      refine woken.goto rfl ?_ fun _ found => before found
      intro key found
      have registered := waits.registered (before found)
      rw [at_task] at registered
      cases registered
  | responded member => exact ⟨waits.registered⟩
  | linked link => exact ⟨waits.registered⟩

end Waits

end ReqRsp

end Calliope

end Mgnp
