import Mgnp.ChannelCalls
import Mgnp.PipedClientPanics

/-!
# The channel calls of the requests

A request waits for the answer of one call of the request channel, or holds the permit
that such a call has got it.  No two requests wait for the same call, and nobody but its
request uses a permit.
-/

namespace Mgnp

namespace Calliope

namespace ReqRsp

open LabelledRuns PositionWord

variable {waitMap : WaitMap} {Req Rsp : Type*} {bits : Nat} {width : PointerWidth}
  {capacity : Nat}

namespace RequestPc

/-- The call of the request channel that a request waits for, or whose permit it
holds. -/
def task : RequestPc Req Rsp → Option Nat
  | .reserving _ call | .sending call _ | .refused _ call => some call
  | .drawing _ permit | .enqueuing _ permit _ | .writing _ permit _ | .committing permit _ =>
      some permit
  | .waiting _ | .refusal _ _ | .returned _ | .panicked _ | .cancelled => none

/-- Where that call stands. -/
def Stage : RequestPc Req Rsp → ChannelCore.Pc Reset → Prop
  | .reserving _ _ => ChannelCore.Pc.InReserve
  | .sending _ _ => ChannelCore.Pc.InCommit
  | .refused _ _ => ChannelCore.Pc.Refusing
  | _ => ChannelCore.Pc.Holding

/-- What a request asked for has been decided. -/
def ended : RequestPc Req Rsp → Bool
  | .returned _ | .panicked _ | .cancelled => true
  | _ => false

section Observing

variable {pc : RequestPc Req Rsp} {event : ChannelCore.Event (Request Req) Reset}
  {events : List (ChannelCore.Event (Request Req) Reset)} {call seq : Nat} {body : Req}

theorem reserveResult_of_other (other : event.answeree ≠ some call) :
    reserveResult call event = none := by
  have ne {task : Nat} (answers : event.answeree = some task) : task ≠ call := by
    rintro rfl
    exact other answers
  cases event with
  | reserved task idx => exact if_neg (ne rfl)
  | full task => exact if_neg (ne rfl)
  | sendClosed task reason => cases reason <;> exact if_neg (ne rfl)
  | _ => rfl

theorem sendReturns_of_other (other : event.answeree ≠ some call) :
    sendReturns call event = false := by
  have ne {task : Nat} (answers : event.answeree = some task) : (task == call) = false := by
    refine beq_eq_false_iff_ne.mpr ?_
    rintro rfl
    exact other answers
  cases event with
  | sendOk task => exact ne rfl
  | sendClosed task reason => exact ne rfl
  | panicked task => exact ne rfl
  | _ => rfl

/-- Only the answer of its call moves a request on. -/
theorem observe_of_others
    (others : ∀ event ∈ events, ∀ call, pc.task = some call → event.answeree ≠ some call) :
    events.foldl observe pc = pc := by
  induction events with
  | nil => rfl
  | cons event events ih =>
      have still : pc.observe event = pc := by
        have other := others event List.mem_cons_self
        cases pc with
        | reserving body call =>
            simp only [observe, reserveResult_of_other (other call rfl)]
        | refused permit call =>
            simp only [observe, reserveResult_of_other (other call rfl)]
        | sending call seq =>
            simp [observe, sendReturns_of_other (other call rfl)]
        | _ => rfl
      rw [List.foldl_cons, still]
      exact ih fun later member => others later (List.mem_cons_of_mem _ member)

theorem observe_sending (events : List (ChannelCore.Event (Request Req) Reset)) :
    events.foldl observe (.sending call seq : RequestPc Req Rsp) =
      if events.any (sendReturns call) then .waiting seq else .sending call seq := by
  induction events with
  | nil => rfl
  | cons event events ih =>
      rw [List.foldl_cons, List.any_cons]
      cases returns : sendReturns call event with
      | true =>
          have onward : (.sending call seq : RequestPc Req Rsp).observe event = .waiting seq := by
            simp [observe, returns]
          rw [onward]
          exact observe_of_others fun _ _ other task => by cases task
      | false =>
          have still : (.sending call seq : RequestPc Req Rsp).observe event =
              .sending call seq := by
            simp [observe, returns]
          rw [still, ih, Bool.false_or]

theorem observe_refused_or (Rsp : Type*) (permit : Option Nat) (call : Nat)
    (events : List (ChannelCore.Event (Request Req) Reset)) :
    events.foldl observe (.refused permit call : RequestPc Req Rsp) = .refused permit call ∨
      ∃ reserved, events.foldl observe (.refused permit call : RequestPc Req Rsp) =
        .refusal permit reserved := by
  induction events with
  | nil => exact .inl rfl
  | cons event events ih =>
      rw [List.foldl_cons]
      cases answered : reserveResult call event with
      | none =>
          have still : (.refused permit call : RequestPc Req Rsp).observe event =
              .refused permit call := by
            simp [observe, answered]
          rw [still]
          exact ih
      | some reserved =>
          have told : (.refused permit call : RequestPc Req Rsp).observe event =
              .refusal permit reserved := by
            simp [observe, answered]
          rw [told]
          exact .inr ⟨reserved, observe_refusal events⟩

/-- A request goes on to hold the permit of its call, or is done with it. -/
theorem task_observe (pc : RequestPc Req Rsp)
    (events : List (ChannelCore.Event (Request Req) Reset)) :
    (events.foldl observe pc).task = pc.task ∨ (events.foldl observe pc).task = none := by
  induction events generalizing pc with
  | nil => exact .inl rfl
  | cons event events ih =>
      have once : (pc.observe event).task = pc.task ∨ (pc.observe event).task = none := by
        cases pc with
        | reserving | refused | sending =>
            simp only [observe]
            split <;> first | exact .inl rfl | exact .inr rfl
        | _ => exact .inl rfl
      rcases ih (pc.observe event) with same | done
      · rw [List.foldl_cons, same]
        exact once
      · exact .inr done

end Observing

end RequestPc

/-- A move of one request by itself, with what it does to the request channel. -/
inductive RequestMove (width : PointerWidth) (client : PipedClient waitMap Req Rsp)
    (request : Nat) : RequestPc Req Rsp → RequestPc Req Rsp →
      ChannelCore.Channel (Request Req) Reset → Prop
  | draw {body permit seq} :
      RequestMove width client request (.drawing body permit) (.enqueuing body permit seq)
        client.tx
  | enqueue {body permit seq map}
      (enqueued : waitMap.enqueue client.map seq request = .ok map) :
      RequestMove width client request (.enqueuing body permit seq)
        (.writing body permit seq) client.tx
  | again {body permit seq error} (failed : waitMap.enqueue client.map seq request = .error error)
      (isOpen : error ≠ .closed) :
      RequestMove width client request (.enqueuing body permit seq) (.drawing body permit)
        client.tx
  | refuse {pc permit} (why : Refuses client request pc) :
      RequestMove width client request pc (.refused permit client.tx.tasks.length)
        (client.tx.spawn ⟨some 0, .reserving false⟩)
  | write {body permit seq tx events}
      (stepTo : ChannelCore.step width client.tx (.write permit ⟨seq, body⟩) =
        some (tx, events)) :
      RequestMove width client request (.writing body permit seq) (.committing permit seq) tx
  | commit {permit seq tx events}
      (stepTo : ChannelCore.step width client.tx (.commit permit) = some (tx, events)) :
      RequestMove width client request (.committing permit seq) (.sending permit seq) tx
  | answer {seq body} (answered : client.answers request = some body) :
      RequestMove width client request (.waiting seq) (.returned (.ok body)) client.tx
  | tell {permit reset} :
      RequestMove width client request (.refusal permit (.error (.error reset)))
        (.returned (.error reset)) client.tx
  | panic {pc message} : RequestMove width client request pc (.panicked message) client.tx

section Moves

variable {client : PipedClient waitMap Req Rsp} {request : Nat} {pc pc' : RequestPc Req Rsp}
  {tx : ChannelCore.Channel (Request Req) Reset}

/-- A request uses nobody's call but its own. -/
theorem RequestMove.kept (move : RequestMove width client request pc pc' tx) {call : Nat}
    {task : ChannelCore.Task Reset} (other : pc.task ≠ some call)
    (at_call : client.tx.tasks[call]? = some task) : tx.tasks[call]? = some task := by
  cases move with
  | refuse why =>
      exact (List.getElem?_append_left (List.getElem?_eq_some_iff.mp at_call).1).trans at_call
  | write stepTo | commit stepTo => exact ChannelCore.step_others stepTo other at_call
  | _ => exact at_call

theorem RequestMove.handles (move : RequestMove width client request pc pc' tx) :
    tx.handles = client.tx.handles := by
  cases move with
  | write stepTo | commit stepTo =>
      simp only [ChannelCore.step] at stepTo
      split at stepTo <;> cases stepTo
      rfl
  | _ => rfl

theorem RequestMove.stage (move : RequestMove width client request pc pc' tx)
    (attached : ∀ call, pc.task = some call →
      ChannelCore.TaskAt client.tx.tasks call pc.Stage)
    (call : Nat) (task : pc'.task = some call) :
    ChannelCore.TaskAt tx.tasks call pc'.Stage := by
  cases move with
  | draw | enqueue | again => exact attached call task
  | refuse why =>
      cases task
      exact ChannelCore.taskAt_append.mpr (.inr ⟨rfl, rfl⟩)
  | write stepTo =>
      obtain ⟨old, at_call, holds⟩ := attached call task
      simp only [ChannelCore.step] at stepTo
      split at stepTo <;> cases stepTo
      exact ⟨old, at_call, holds⟩
  | commit stepTo =>
      cases task
      simp only [ChannelCore.step] at stepTo
      split at stepTo <;> cases stepTo
      rename_i at_call
      exact (ChannelCore.taskAt_set_self at_call).mpr trivial
  | answer | tell | panic => cases task

theorem RequestMove.task (move : RequestMove width client request pc pc' tx) (call : Nat)
    (task : pc'.task = some call) : pc.task = some call ∨ call = client.tx.tasks.length := by
  cases move with
  | refuse why => exact .inr (Option.some.inj task).symm
  | draw | enqueue | again | write | commit => exact .inl task
  | answer | tell | panic => cases task

end Moves

namespace PipedClient

/-- What a step does to the requests and to the request channel. -/
inductive Effect (width : PointerWidth) (client : PipedClient waitMap Req Rsp) :
    PipedAction Req Rsp → List (RequestPc Req Rsp) →
      ChannelCore.Channel (Request Req) Reset → Prop
  | still {action} (others : ∀ request, action ≠ .runRequest request)
      (channel : ∀ channelAction, action ≠ .tx channelAction) :
      Effect width client action client.requests client.tx
  | closes {action task} (others : ∀ request, action ≠ .runRequest request)
      (channel : ∀ channelAction, action ≠ .tx channelAction) :
      Effect width client action client.requests (client.tx.spawn task)
  | request {body} :
      Effect width client (.request body)
        (client.requests ++ [.reserving body client.tx.tasks.length])
        (client.tx.spawn ⟨some 0, .reserving true⟩)
  | observed {action tx events} (allowed : client.allowsTx action = true)
      (stepTo : ChannelCore.step width client.tx action = some (tx, events)) :
      Effect width client (.tx action)
        (client.requests.map fun pc => events.foldl RequestPc.observe pc) tx
  | moved {request pc pc' tx} (found : client.requests[request]? = some pc)
      (move : RequestMove width client request pc pc' tx) :
      Effect width client (.runRequest request) (client.requests.set request pc') tx
  | cancelled {request pc} (found : client.requests[request]? = some pc) :
      Effect width client (.cancelRequest request) (client.requests.set request .cancelled)
        client.tx

section Steps

variable {client next : PipedClient waitMap Req Rsp} {request : Nat}
  {events : List (PipedEvent Req Rsp)}

theorem refuse_effect {pc : RequestPc Req Rsp} {permit : Option Nat}
    (found : client.requests[request]? = some pc) (why : Refuses client request pc)
    (refused : client.refuse width request permit = some next) :
    Effect width client (.runRequest request) next.requests next.tx := by
  obtain ⟨after, made, rfl⟩ := Option.map_eq_some_iff.mp refused
  obtain ⟨⟨tx, reported⟩, stepTo, rfl⟩ := Option.map_eq_some_iff.mp made
  obtain ⟨rfl, -⟩ := ChannelCore.reserve_spawns stepTo
  exact .moved found (.refuse why)

theorem runRequest_effect (ran : client.runRequest bits width request = some next) :
    Effect width client (.runRequest request) next.requests next.tx := by
  unfold runRequest at ran
  split at ran
  · rename_i body permit found
    cases ran
    exact .moved found .draw
  · rename_i body permit seq found
    split at ran
    · rename_i map enqueued
      cases ran
      exact .moved found (.enqueue enqueued)
    · rename_i failed
      exact refuse_effect found (.enqueue failed) ran
    · rename_i error isOpen failed
      split at ran
      · cases ran
        exact .moved found (.again failed isOpen)
      · rename_i reset handled
        -- No error but `Closed` is answered with a reset.
        cases error with
        | closed => exact absurd rfl isOpen
        | _ => cases handled
      · cases ran
        exact .moved found .panic
  · rename_i body permit seq found
    obtain ⟨after, made, rfl⟩ := Option.map_eq_some_iff.mp ran
    obtain ⟨⟨tx, reported⟩, stepTo, rfl⟩ := Option.map_eq_some_iff.mp made
    exact .moved found (.write stepTo)
  · rename_i permit seq found
    obtain ⟨after, made, rfl⟩ := Option.map_eq_some_iff.mp ran
    obtain ⟨⟨tx, reported⟩, stepTo, rfl⟩ := Option.map_eq_some_iff.mp made
    exact .moved found (.commit stepTo)
  · rename_i seq found
    split at ran
    · rename_i body answered
      cases ran
      exact .moved found (.answer answered)
    · rename_i unanswered
      split at ran
      · cases ran
      · rename_i failed
        exact refuse_effect found (.poll unanswered failed) ran
      · rename_i error isOpen failed
        split at ran
        · cases ran
          exact .moved found .panic
        · rename_i reset handled
          cases error with
          | closed => exact absurd rfl isOpen
          | _ => cases handled
        · cases ran
          exact .moved found .panic
  · rename_i permit reserved found
    split at ran
    · rename_i reset handled
      cases ran
      -- A debug build does not make up a reset.
      cases reserved with
      | ok _ => cases handled
      | error refusal =>
          cases refusal with
          | error own =>
              cases handled
              exact .moved found .tell
          | full | disconnected => cases handled
    · cases ran
    · cases ran
      exact .moved found .panic
  · cases ran

theorem runClose_effect {action : PipedAction Req Rsp} {pc pc' : ClosePc}
    (others : ∀ request, action ≠ .runRequest request)
    (channel : ∀ channelAction, action ≠ .tx channelAction)
    (ran : client.runClose width pc = some (next, pc')) :
    Effect width client action next.requests next.tx := by
  cases pc with
  | tx reset =>
      obtain ⟨after, made, ends⟩ := Option.map_eq_some_iff.mp ran
      obtain ⟨⟨tx, reported⟩, stepTo, rfl⟩ := Option.map_eq_some_iff.mp made
      cases ends
      obtain ⟨-, spawned⟩ := Option.ite_none_right_eq_some.mp stepTo
      cases spawned
      exact .closes others channel
  | rx reset =>
      obtain ⟨after, made, ends⟩ := Option.map_eq_some_iff.mp ran
      obtain ⟨rx, rfl⟩ := onRx_eq made
      cases ends
      exact .still others channel
  | cell | map reset =>
      cases ran
      exact .still others channel
  | closingTx reset call | closingRx reset call | closed reset => cases ran

theorem runDispatch_effect {ready : Bool}
    (ran : client.runDispatch width ready = some next) :
    Effect width client (.runDispatch ready) next.requests next.tx := by
  have others : ∀ request, (.runDispatch ready : PipedAction Req Rsp) ≠ .runRequest request := by
    simp
  have channel : ∀ channelAction, (.runDispatch ready : PipedAction Req Rsp) ≠
      .tx channelAction := by simp
  unfold runDispatch at ran
  split at ran
  · cases ran
    exact .still others channel
  · obtain ⟨after, made, rfl⟩ := Option.map_eq_some_iff.mp ran
    obtain ⟨rx, rfl⟩ := onRx_eq made
    exact .still others channel
  · cases ran
    exact .still others channel
  · split at ran <;> cases ran
    all_goals exact .still others channel
  · obtain ⟨⟨after, pc'⟩, made, rfl⟩ := Option.map_eq_some_iff.mp ran
    have effect := runClose_effect others channel made
    exact effect
  · cases ran

/-- Every step has one of the effects. -/
theorem step_effect {action : PipedAction Req Rsp}
    (stepTo : client.step bits width action = some (next, events)) :
    Effect width client action next.requests next.tx := by
  cases action with
  | request body =>
      obtain ⟨after, made, ends⟩ := Option.map_eq_some_iff.mp stepTo
      obtain ⟨⟨tx, reported⟩, called, rfl⟩ := Option.map_eq_some_iff.mp made
      obtain ⟨rfl, -⟩ := ChannelCore.reserve_spawns called
      cases ends
      exact .request
  | startDispatch =>
      simp only [step] at stepTo
      split at stepTo <;> cases stepTo
      exact .still (by simp) (by simp)
  | startShutdown =>
      cases stepTo
      exact .still (by simp) (by simp)
  | runRequest request =>
      obtain ⟨after, ran, ends⟩ := Option.map_eq_some_iff.mp stepTo
      cases ends
      exact runRequest_effect ran
  | runDispatch ready =>
      obtain ⟨after, ran, ends⟩ := Option.map_eq_some_iff.mp stepTo
      cases ends
      exact runDispatch_effect ran
  | runShutdown shutdown =>
      obtain ⟨after, ran, ends⟩ := Option.map_eq_some_iff.mp stepTo
      cases ends
      unfold runShutdown at ran
      split at ran
      · obtain ⟨⟨closing, pc'⟩, made, rfl⟩ := Option.map_eq_some_iff.mp ran
        have others : ∀ request, (.runShutdown shutdown : PipedAction Req Rsp) ≠
            .runRequest request := by simp
        have effect := runClose_effect others (by simp) made
        exact effect
      · cases ran
  | cancelRequest request =>
      obtain ⟨after, dropped, ends⟩ := Option.map_eq_some_iff.mp stepTo
      cases ends
      unfold cancelRequest at dropped
      split at dropped <;> cases dropped
      all_goals
        rename_i found
        exact .cancelled found
  | cancelDispatch =>
      simp only [step] at stepTo
      split at stepTo <;> cases stepTo
      exact .still (by simp) (by simp)
  | tx action =>
      obtain ⟨allowed, made⟩ := Option.ite_none_right_eq_some.mp stepTo
      obtain ⟨⟨tx, reported⟩, ran, ends⟩ := Option.map_eq_some_iff.mp made
      cases ends
      exact .observed allowed ran
  | rx action =>
      obtain ⟨-, made⟩ := Option.ite_none_right_eq_some.mp stepTo
      obtain ⟨⟨rx, reported⟩, ran, ends⟩ := Option.map_eq_some_iff.mp made
      cases ends
      exact .still (by simp) (by simp)

end Steps

/-- Every request is where its call of the request channel says, and nobody shares its
call. -/
structure Linked (requests : List (RequestPc Req Rsp))
    (tx : ChannelCore.Channel (Request Req) Reset) : Prop where
  /-- The client keeps its `Sender`. -/
  handle : 0 ∈ tx.handles
  attached : ∀ {request call : Nat} {pc : RequestPc Req Rsp}, requests[request]? = some pc →
    pc.task = some call → ChannelCore.TaskAt tx.tasks call pc.Stage
  apart : ∀ {first second call : Nat} {pc pc' : RequestPc Req Rsp},
    requests[first]? = some pc → requests[second]? = some pc' →
    pc.task = some call → pc'.task = some call → first = second

section Linking

variable {requests : List (RequestPc Req Rsp)} {request : Nat}
  {tx after : ChannelCore.Channel (Request Req) Reset} {pc pc' : RequestPc Req Rsp}

theorem linked_new (responseCapacity : Nat) :
    Linked (PipedClient.new waitMap Req Rsp width capacity responseCapacity).requests
      (PipedClient.new waitMap Req Rsp width capacity responseCapacity).tx where
  handle := List.mem_singleton_self 0
  attached found := by cases found
  apart found := by cases found

/-- Somebody makes a call of the request channel. -/
theorem Linked.spawn (linked : Linked requests tx) (task : ChannelCore.Task Reset) :
    Linked requests (tx.spawn task) where
  handle := linked.handle
  attached found task := ChannelCore.taskAt_append.mpr (.inl (linked.attached found task))
  apart := linked.apart

theorem Linked.called (linked : Linked requests tx) (body : Req) :
    Linked (requests ++ [.reserving body tx.tasks.length])
      (tx.spawn ⟨some 0, .reserving true⟩) := by
  have called {i call : Nat} {pc : RequestPc Req Rsp}
      (found : (requests ++ [.reserving body tx.tasks.length])[i]? = some pc)
      (task : pc.task = some call) :
      requests[i]? = some pc ∨
        i = requests.length ∧ pc = .reserving body tx.tasks.length ∧
          call = tx.tasks.length := by
    rcases lt_or_ge i requests.length with inside | outside
    · rw [List.getElem?_append_left inside] at found
      exact .inl found
    · rw [List.getElem?_append_right outside, List.getElem?_singleton] at found
      split at found <;> cases found
      cases task
      exact .inr ⟨by omega, rfl, rfl⟩
  refine ⟨linked.handle, fun found task => ?_, fun found found' task task' => ?_⟩
  · rcases called found task with before | ⟨-, rfl, rfl⟩
    · exact ChannelCore.taskAt_append.mpr (.inl (linked.attached before task))
    · exact ChannelCore.taskAt_append.mpr (.inr ⟨rfl, trivial⟩)
  · rcases called found task with before | ⟨rfl, -, rfl⟩ <;>
      rcases called found' task' with before' | ⟨rfl, -, late⟩
    · exact linked.apart before before' task task'
    · exact absurd (linked.attached before task).lt_length (by omega)
    · exact absurd (linked.attached before' task').lt_length (Nat.lt_irrefl _)
    · rfl

/-- One request moves, and leaves the calls of the others alone. -/
theorem Linked.set (linked : Linked requests tx) (found : requests[request]? = some pc)
    (handle : 0 ∈ after.handles)
    (kept : ∀ {call task}, pc.task ≠ some call → tx.tasks[call]? = some task →
      after.tasks[call]? = some task)
    (stage : ∀ call, pc'.task = some call → ChannelCore.TaskAt after.tasks call pc'.Stage)
    (fresh : ∀ call, pc'.task = some call →
      pc.task = some call ∨ call = tx.tasks.length) :
    Linked (requests.set request pc') after := by
  have others {i : Nat} {own : RequestPc Req Rsp}
      (at_i : (requests.set request pc')[i]? = some own) :
      (i = request ∧ own = pc') ∨ (i ≠ request ∧ requests[i]? = some own) := by
    by_cases same : request = i
    · subst same
      rw [List.getElem?_set_self'] at at_i
      obtain ⟨_, _, rfl⟩ := Option.map_eq_some_iff.mp at_i
      exact .inl ⟨rfl, rfl⟩
    · rw [List.getElem?_set_ne same] at at_i
      exact .inr ⟨Ne.symm same, at_i⟩
  have unshared {i call : Nat} {own : RequestPc Req Rsp} (ne : i ≠ request)
      (at_i : requests[i]? = some own) (task : own.task = some call) :
      pc'.task ≠ some call := by
    intro shared
    rcases fresh call shared with before | rfl
    · exact ne (linked.apart at_i found task before)
    · exact absurd (linked.attached at_i task).lt_length (Nat.lt_irrefl _)
  refine ⟨handle, fun at_i task => ?_, fun at_i at_j task task' => ?_⟩
  · rcases others at_i with ⟨-, rfl⟩ | ⟨ne, before⟩
    · exact stage _ task
    · obtain ⟨old, at_call, isStage⟩ := linked.attached before task
      exact ⟨old, kept (fun shared => ne (linked.apart before found task shared)) at_call,
        isStage⟩
  · rcases others at_i with ⟨rfl, rfl⟩ | ⟨ne, before⟩ <;>
      rcases others at_j with ⟨rfl, rfl⟩ | ⟨ne', before'⟩
    · rfl
    · exact absurd task (unshared ne' before' task')
    · exact absurd task' (unshared ne before task)
    · exact linked.apart before before' task task'

variable {client : PipedClient waitMap Req Rsp}

/-- The call of a permit takes no step but by its request. -/
theorem not_own_of_holding {action : ChannelCore.Action (Request Req) Reset} {call : Nat}
    {events : List (ChannelCore.Event (Request Req) Reset)}
    (found : client.requests[request]? = some pc) (permit : pc.permit = some call)
    (holding : ChannelCore.TaskAt client.tx.tasks call ChannelCore.Pc.Holding)
    (allowed : client.allowsTx action = true)
    (stepTo : ChannelCore.step width client.tx action = some (tx, events)) :
    action.task ≠ some call := by
  intro own
  have used : (client.requests.any fun pc => pc.permit == some call) = true :=
    List.any_eq_true.mpr ⟨pc, List.mem_of_getElem? found, by simp [permit]⟩
  obtain ⟨⟨handle, at_pc⟩, at_call, holds⟩ := holding
  cases action with
  | write i value | commit i | release i =>
      obtain rfl : i = call := Option.some.inj own
      simp [allowsTx, used] at allowed
  | run i | allocate i idx | spurious i | woken i =>
      obtain rfl : i = call := Option.some.inj own
      simp only [ChannelCore.step, at_call] at stepTo
      cases at_pc <;> first | exact holds.elim | cases stepTo
  | _ => cases own

/-- A request and its call after a step of the request channel. -/
theorem Linked.attached_observe (linked : Linked client.requests client.tx)
    {action : ChannelCore.Action (Request Req) Reset} {call : Nat}
    {events : List (ChannelCore.Event (Request Req) Reset)}
    (found : client.requests[request]? = some pc)
    (allowed : client.allowsTx action = true)
    (stepTo : ChannelCore.step width client.tx action = some (tx, events))
    (refusing : ∀ call, (events.foldl RequestPc.observe pc).refusedBy = some call →
      ChannelCore.TaskAt tx.tasks call ChannelCore.Pc.Refusing)
    (task : (events.foldl RequestPc.observe pc).task = some call) :
    ChannelCore.TaskAt tx.tasks call (events.foldl RequestPc.observe pc).Stage := by
  have before : pc.task = some call := by
    rcases RequestPc.task_observe pc events with same | done
    · exact same.symm.trans task
    · rw [done] at task
      cases task
  have at_call := linked.attached found before
  by_cases own : action.task = some call
  · cases pc with
    | reserving body permit =>
        obtain rfl : permit = call := Option.some.inj before
        rcases ChannelCore.step_inReserve stepTo own at_call with
          ⟨still, rfl⟩ | ⟨idx, holding, rfl⟩ | rfl
        · exact still
        · simpa [RequestPc.observe, reserveResult, RequestPc.Stage] using holding
        · cases reason : client.tx.core.closeReason <;>
            simp [reason, RequestPc.observe, reserveResult, RequestPc.task] at task
    | sending permit seq =>
        obtain rfl : permit = call := Option.some.inj before
        rw [RequestPc.observe_sending] at task ⊢
        rcases ChannelCore.step_inCommit stepTo own at_call with
          ⟨still, unanswered⟩ | answered
        · have unreturned : events.any (sendReturns permit) = false := by
            refine List.any_eq_false.mpr fun event member => ?_
            rw [RequestPc.sendReturns_of_other (by rw [unanswered event member]; simp)]
            exact Bool.false_ne_true
          rw [unreturned]
          exact still
        · have returned : events.any (sendReturns permit) = true := by
            rw [List.any_eq_true]
            rcases answered with ok | ⟨reason, closed⟩ | panicked
            · exact ⟨_, ok, beq_self_eq_true permit⟩
            · exact ⟨_, closed, beq_self_eq_true permit⟩
            · exact ⟨_, panicked, beq_self_eq_true permit⟩
          rw [returned] at task
          cases task
    | refused permit asked =>
        obtain rfl : asked = call := Option.some.inj before
        rcases RequestPc.observe_refused_or Rsp permit asked events with
          still | ⟨reserved, told⟩
        · rw [still] at refusing ⊢
          exact refusing asked rfl
        · rw [told] at task
          cases task
    | drawing | enqueuing | writing | committing =>
        exact absurd own (not_own_of_holding found before at_call allowed stepTo)
    | _ => cases before
  · obtain ⟨old, old_at, isStage⟩ := at_call
    have same : events.foldl RequestPc.observe pc = pc := by
      refine RequestPc.observe_of_others fun event member other isTask answers => ?_
      obtain rfl : other = call := Option.some.inj (isTask.symm.trans before)
      exact own (ChannelCore.step_answers stepTo member answers)
    rw [same]
    exact ⟨old, ChannelCore.step_others stepTo own old_at, isStage⟩

theorem Linked.step (linked : Linked client.requests client.tx)
    {action : PipedAction Req Rsp}
    (effect : Effect width client action requests tx)
    (refusing : ∀ (request : Nat) (pc : RequestPc Req Rsp) call, requests[request]? = some pc →
      pc.refusedBy = some call → ChannelCore.TaskAt tx.tasks call ChannelCore.Pc.Refusing) :
    Linked requests tx := by
  cases effect with
  | still => exact linked
  | closes => exact linked.spawn _
  | request => exact linked.called _
  | @observed action _ events allowed stepTo =>
      have before {i : Nat} {pc : RequestPc Req Rsp}
          (found : (client.requests.map fun pc => events.foldl RequestPc.observe pc)[i]? =
            some pc) :
          ∃ old, client.requests[i]? = some old ∧ events.foldl RequestPc.observe old = pc := by
        rw [List.getElem?_map] at found
        exact Option.map_eq_some_iff.mp found
      have same {old : RequestPc Req Rsp} {call : Nat}
          (task : (events.foldl RequestPc.observe old).task = some call) :
          old.task = some call := by
        rcases RequestPc.task_observe old events with same | done
        · exact same.symm.trans task
        · rw [done] at task
          cases task
      refine ⟨?_, fun {request call pc} found task => ?_, fun found found' task task' => ?_⟩
      · refine ChannelCore.step_handles stepTo ?_ linked.handle
        rintro rfl
        cases allowed
      · obtain ⟨old, was, rfl⟩ := before found
        exact linked.attached_observe was allowed stepTo
          (fun call refused => refusing request _ call found refused) task
      · obtain ⟨old, was, rfl⟩ := before found
        obtain ⟨old', was', rfl⟩ := before found'
        exact linked.apart was was' (same task) (same task')
  | moved found move =>
      exact linked.set found (move.handles ▸ linked.handle) (fun other => move.kept other)
        (move.stage fun call => linked.attached found) move.task
  | cancelled found =>
      exact linked.set found linked.handle (fun _ at_call => at_call)
        (fun call task => by cases task) fun call task => by cases task

end Linking

end PipedClient

end ReqRsp

end Calliope

end Mgnp
