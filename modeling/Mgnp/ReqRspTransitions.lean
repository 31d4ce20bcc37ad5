import Mgnp.ReqRsp

/-!
# The steps of the request/response client

Every step of a client is one of ten transitions.  Most of them move a task that
has nothing to do with requests and responses.
-/

namespace Mgnp

namespace Calliope

namespace ReqRsp

variable {waitMap : WaitMap} {Req Rsp : Type*} {bits : Nat} {build : Build}

namespace TaskPc

/-- The sequence number that the call holds. -/
def outstanding : TaskPc Req Rsp → Option Nat
  | .enqueuing _ seq | .sending _ seq _ | .waiting seq _ => some seq
  | _ => none

/-- The key under which the call has enqueued its waiter. -/
def registered : TaskPc Req Rsp → Option Nat
  | .sending _ seq _ | .waiting seq _ => some seq
  | _ => none

/-- What the call's waiter got, as the response it came from. -/
def answer : TaskPc Req Rsp → Option (Response Rsp)
  | .sending _ seq (some body) | .waiting seq (some body) => some ⟨seq, body⟩
  | _ => none

/-- The response that the dispatcher is about to hand over. -/
def handing : TaskPc Req Rsp → Option (Nat × Response Rsp)
  | .waking number response => some (number, response)
  | _ => none

/-- The task has nothing to do with requests and responses. -/
structure Quiet (pc : TaskPc Req Rsp) : Prop where
  outstanding : pc.outstanding = none
  handing : pc.handing = none

theorem outstanding_of_registered {pc : TaskPc Req Rsp} {seq : Nat}
    (registered : pc.registered = some seq) : pc.outstanding = some seq := by
  cases pc <;> first | exact registered | cases registered

theorem outstanding_of_answer {pc : TaskPc Req Rsp} {response : Response Rsp}
    (answer : pc.answer = some response) : pc.outstanding = some response.seq := by
  match pc with
  | .sending _ _ (some _) | .waiting _ (some _) =>
      cases answer
      rfl

@[simp] theorem outstanding_answered (pc : TaskPc Req Rsp) (body : Rsp) :
    (pc.answered body).outstanding = pc.outstanding := by
  cases pc <;> rfl

@[simp] theorem registered_answered (pc : TaskPc Req Rsp) (body : Rsp) :
    (pc.answered body).registered = pc.registered := by
  cases pc <;> rfl

@[simp] theorem handing_answered (pc : TaskPc Req Rsp) (body : Rsp) :
    (pc.answered body).handing = pc.handing := by
  cases pc <;> rfl

theorem answer_answered {pc : TaskPc Req Rsp} {body : Rsp} {response : Response Rsp}
    (answer : (pc.answered body).answer = some response) :
    pc.registered = some response.seq ∧ response.body = body := by
  cases pc <;> first | cases answer; exact ⟨rfl, rfl⟩ | cases answer

end TaskPc

/-- One step, as far as requests and responses are concerned. -/
inductive Transition (bits : Nat) (client : Client waitMap Req Rsp) :
    Client waitMap Req Rsp → List (Event Rsp) → Prop
  | moved {task : Nat} {pc : TaskPc Req Rsp} {map : waitMap.Map} {link : Link}
      (quiet : pc.Quiet)
      (keeps : ∀ {key waiter}, waitMap.waiter map key = some waiter →
        waitMap.waiter client.map key = some waiter ∧
          (waiter = task → (client.tasks task).registered = none)) :
      Transition bits client { client.goto task pc with map := map, link := link } []
  | drew {task : Nat} {body : Req} (at_task : client.tasks task = .drawing body) :
      Transition bits client
        { client.goto task (.enqueuing body client.seq) with
          seq := (client.seq + 1) % 2 ^ bits } [.drew task client.seq]
  | enqueued {task seq : Nat} {body : Req} {map : waitMap.Map}
      (at_task : client.tasks task = .enqueuing body seq)
      (enqueue : waitMap.enqueue client.map seq task = .ok map) :
      Transition bits client { client.goto task (.sending body seq none) with map := map } []
  | sent {task seq : Nat} {body : Req} {answer : Option Rsp}
      (at_task : client.tasks task = .sending body seq answer) :
      Transition bits client
        { client.goto task (.waiting seq answer) with
          requests := client.requests ++ [⟨seq, body⟩] } [.requested task seq]
  | unsent {task seq : Nat} {body : Req} {answer : Option Rsp}
      (at_task : client.tasks task = .sending body seq answer) :
      Transition bits client (client.goto task (.waiting seq answer)) []
  | returned {task seq : Nat} {body : Rsp}
      (at_task : client.tasks task = .waiting seq (some body)) :
      Transition bits client (client.leave task (.returned (.ok body)))
        [.returned task body]
  | received {task number : Nat} {response : Response Rsp}
      {rest : List (Nat × Response Rsp)} (at_task : client.tasks task = .dispatching)
      (oldest : client.responses = (number, response) :: rest) :
      Transition bits client
        { client.goto task (.waking number response) with responses := rest } []
  | woke {task number waiter : Nat} {response : Response Rsp} {map : waitMap.Map}
      (at_task : client.tasks task = .waking number response)
      (wake : waitMap.wake client.map response.seq = .woke waiter map) :
      Transition bits client
        { (client.goto waiter ((client.tasks waiter).answered response.body)).goto task
            .dispatching with map := map } [.woke number waiter]
  | responded {request : Request Req} {body : Rsp} (member : request ∈ client.requests) :
      Transition bits client
        { client with
          responses := client.responses ++
            if client.link.rx = none then [(client.responded, request.respond body)] else []
          responded := client.responded + 1 } [.responded (request.respond body)]
  | linked (link : Link) : Transition bits client { client with link := link } []

section Transitions

variable {client next : Client waitMap Req Rsp} {task : Nat} {events : List (Event Rsp)}

/-- A task without a waiter goes on and may close the channel. -/
theorem Transition.of_goto {pc : TaskPc Req Rsp} {link : Link} (quiet : pc.Quiet)
    (unregistered : (client.tasks task).registered = none) :
    Transition bits client { client.goto task pc with link := link } [] :=
  .moved quiet fun registered => ⟨registered, fun _ => unregistered⟩

theorem Transition.of_leave (lawful : waitMap.Lawful) {pc : TaskPc Req Rsp}
    (quiet : pc.Quiet) : Transition bits client (client.leave task pc) [] := by
  refine Transition.moved quiet ?_
  intro key waiter registered
  rw [lawful.drop] at registered
  split at registered
  · cases registered
  · rename_i others
    refine ⟨registered, ?_⟩
    rintro rfl
    exact absurd registered others

theorem Transition.of_close (lawful : waitMap.Lawful) {pc : TaskPc Req Rsp}
    (quiet : pc.Quiet) (unregistered : (client.tasks task).registered = none) :
    Transition bits client
      { client.goto task pc with map := waitMap.close client.map } [] :=
  .moved quiet fun registered =>
    ⟨lawful.close registered, fun _ => unregistered⟩

theorem Client.start_transition {pc : TaskPc Req Rsp} {link : Link} (quiet : pc.Quiet)
    (started : client.start task pc = some next) :
    Transition bits client { next with link := link } [] := by
  unfold Client.start at started
  split at started <;> cases started
  rename_i unstarted
  exact .of_goto quiet (by rw [unstarted]; rfl)

theorem Client.run_transition (lawful : waitMap.Lawful) {full : Bool}
    (ran : client.run bits build task full = some (next, events)) :
    Transition bits client next events := by
  have others : ∀ pc, client.tasks task = pc → pc.registered = none →
      (client.tasks task).registered = none := by
    rintro pc rfl unregistered
    exact unregistered
  unfold Client.run at ran
  split at ran
  · rename_i body at_task
    split at ran <;> cases ran
    · exact .of_goto ⟨rfl, rfl⟩ (others _ at_task rfl)
    · exact .of_goto ⟨rfl, rfl⟩ (others _ at_task rfl)
    · exact .of_goto ⟨rfl, rfl⟩ (others _ at_task rfl)
  · rename_i body at_task
    cases ran
    exact .drew at_task
  · rename_i body seq at_task
    split at ran
    · rename_i map enqueue
      cases ran
      exact .enqueued at_task enqueue
    · split at ran <;> cases ran
      · exact .of_leave lawful ⟨rfl, rfl⟩
      · exact .of_leave lawful ⟨rfl, rfl⟩
      · exact .of_leave lawful ⟨rfl, rfl⟩
  · rename_i body seq answer at_task
    split at ran <;> cases ran
    · exact .sent at_task
    · exact .unsent at_task
  · rename_i seq body at_task
    cases ran
    exact .returned at_task
  · split at ran
    · cases ran
    · split at ran <;> cases ran
      · exact .of_leave lawful ⟨rfl, rfl⟩
      · exact .of_leave lawful ⟨rfl, rfl⟩
      · exact .of_leave lawful ⟨rfl, rfl⟩
  · rename_i at_task
    split at ran
    · cases ran
      exact .of_goto ⟨rfl, rfl⟩ (others _ at_task rfl)
    · split at ran <;> cases ran
      · rename_i oldest
        exact .received at_task oldest
      · exact .of_goto ⟨rfl, rfl⟩ (others _ at_task rfl)
  · rename_i number response at_task
    split at ran
    · rename_i waiter map wake
      cases ran
      exact .woke at_task wake
    · cases ran
      exact .of_goto ⟨rfl, rfl⟩ (others _ at_task rfl)
    · split at ran <;> cases ran
      · exact .of_goto ⟨rfl, rfl⟩ (others _ at_task rfl)
      · exact .of_goto ⟨rfl, rfl⟩ (others _ at_task rfl)
  · rename_i reset at_task
    cases ran
    exact .of_goto ⟨rfl, rfl⟩ (others _ at_task rfl)
  · rename_i reset at_task
    cases ran
    exact .of_close lawful ⟨rfl, rfl⟩ (others _ at_task rfl)
  · rename_i at_task
    cases ran
    exact .of_goto ⟨rfl, rfl⟩ (others _ at_task rfl)
  · rename_i at_task
    cases ran
    exact .of_close lawful ⟨rfl, rfl⟩ (others _ at_task rfl)
  all_goals cases ran

theorem Client.cancel_transition (lawful : waitMap.Lawful)
    (cancelled : client.cancel task = some next) : Transition bits client next [] := by
  unfold Client.cancel at cancelled
  split at cancelled <;> cases cancelled
  · rename_i at_task
    exact .of_goto ⟨rfl, rfl⟩ (by rw [at_task]; rfl)
  · rename_i at_task
    exact .of_goto ⟨rfl, rfl⟩ (by rw [at_task]; rfl)
  · exact .of_leave lawful ⟨rfl, rfl⟩
  · exact .of_leave lawful ⟨rfl, rfl⟩

theorem Client.step_transition (lawful : waitMap.Lawful) {action : Action Req Rsp}
    (stepTo : client.step bits build action = some (next, events)) :
    Transition bits client next events := by
  cases action with
  | request task body =>
      simp only [Client.step, Option.map_eq_some_iff, Prod.mk.injEq] at stepTo
      obtain ⟨after, started, rfl, rfl⟩ := stepTo
      exact Client.start_transition ⟨rfl, rfl⟩ started
  | dispatch task =>
      simp only [Client.step] at stepTo
      split at stepTo
      · cases build with
        | debug =>
            simp only [Option.map_eq_some_iff, Prod.mk.injEq] at stepTo
            obtain ⟨after, started, rfl, rfl⟩ := stepTo
            exact Client.start_transition ⟨rfl, rfl⟩ started
        | release =>
            simp only [Option.map_eq_some_iff, Prod.mk.injEq] at stepTo
            obtain ⟨after, started, rfl, rfl⟩ := stepTo
            exact Client.start_transition ⟨rfl, rfl⟩ started
      · simp only [Option.map_eq_some_iff, Prod.mk.injEq] at stepTo
        obtain ⟨after, started, rfl, rfl⟩ := stepTo
        exact Client.start_transition ⟨rfl, rfl⟩ started
  | shutdown task =>
      simp only [Client.step, Option.map_eq_some_iff, Prod.mk.injEq] at stepTo
      obtain ⟨after, started, rfl, rfl⟩ := stepTo
      exact Client.start_transition ⟨rfl, rfl⟩ started
  | run task full => exact Client.run_transition lawful stepTo
  | cancel task =>
      simp only [Client.step, Option.map_eq_some_iff, Prod.mk.injEq] at stepTo
      obtain ⟨after, cancelled, rfl, rfl⟩ := stepTo
      exact Client.cancel_transition lawful cancelled
  | respond index body =>
      simp only [Client.step] at stepTo
      split at stepTo <;> cases stepTo
      rename_i found
      exact .responded (List.mem_of_getElem? found)
  | closeTx error =>
      cases stepTo
      exact .linked _
  | closeRx error =>
      cases stepTo
      exact .linked _

end Transitions

end ReqRsp

end Calliope

end Mgnp
