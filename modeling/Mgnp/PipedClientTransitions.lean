import Mgnp.PipedClient

/-!
# The steps of the client on its pipes

Every step of a client is a step of one of its channels with all who wait for
its answer, a move of one request, a move of the dispatcher, or a step of a
call that closes the client.
-/

namespace Mgnp

namespace Calliope

namespace ReqRsp

open PositionWord

variable {waitMap : WaitMap} {Req Rsp : Type*} {bits : Nat} {width : PointerWidth}

namespace RequestPc

/-- The key under which the request has enqueued its waiter. -/
def registered : RequestPc Req Rsp → Option Nat
  | .writing _ _ seq | .committing _ seq | .sending _ seq | .waiting seq => some seq
  | _ => none

/-- The request has not been refused and has not panicked. -/
def calm : RequestPc Req Rsp → Bool
  | .refused _ _ | .refusal _ _ | .panicked _ => false
  | _ => true

end RequestPc

namespace DispatchPc

/-- The dispatcher is about to wake a waiter. -/
def holds : DispatchPc Rsp → Bool
  | .waking _ => true
  | _ => false

/-- The dispatcher holds nothing, closes nothing and has not panicked. -/
def calm : DispatchPc Rsp → Bool
  | .waking _ | .closing _ | .panicked _ => false
  | _ => true

end DispatchPc

/-- The client's own steps of a channel make calls and use permits. -/
def OwnStep {T : Type*} (width : PointerWidth) (before after : ChannelCore.Channel T Reset) :
    Prop :=
  ∃ action events, ChannelCore.step width before action = some (after, events) ∧
    ∀ call, action ≠ .run call

/-- A step of a call that closes the client. -/
inductive CloseMove (width : PointerWidth) (client : PipedClient waitMap Req Rsp) :
    ClosePc → PipedClient waitMap Req Rsp → ClosePc → Prop
  | cell : CloseMove width client .cell { client with shutdown := true } (.tx .becauseISaidSo)
  | tx {reset tx} (made : OwnStep width client.tx tx) :
      CloseMove width client (.tx reset) { client with tx := tx }
        (.closingTx reset client.tx.tasks.length)
  | rx {reset rx} :
      CloseMove width client (.rx reset) { client with rx := rx }
        (.closingRx reset client.rx.tasks.length)
  | map {reset} :
      CloseMove width client (.map reset) { client with map := waitMap.close client.map }
        (.closed reset)

/-- Why a request panics. -/
inductive Panics (client : PipedClient waitMap Req Rsp) (request : Nat) :
    RequestPc Req Rsp → Prop
  | enqueue {body permit seq error} (failed : waitMap.enqueue client.map seq request = .error error)
      (open_ : error ≠ .closed) (fresh : error ≠ .duplicate) :
      Panics client request (.enqueuing body permit seq)
  | poll {seq error} (unanswered : client.answers request = none)
      (failed : waitMap.poll client.map request = some error) (open_ : error ≠ .closed) :
      Panics client request (.waiting seq)
  | refusal {permit reserved} (unexplained : ∀ reset, reserved ≠ .error (.error reset)) :
      Panics client request (.refusal permit reserved)

/-- The wait map tells a request that it is closed. -/
inductive Refuses (client : PipedClient waitMap Req Rsp) (request : Nat) :
    RequestPc Req Rsp → Prop
  | enqueue {body permit seq} (failed : waitMap.enqueue client.map seq request = .error .closed) :
      Refuses client request (.enqueuing body permit seq)
  | poll {seq} (unanswered : client.answers request = none)
      (failed : waitMap.poll client.map request = some .closed) :
      Refuses client request (.waiting seq)

namespace PipedClient

/-- The effect of one step. -/
inductive Move (width : PointerWidth) (client : PipedClient waitMap Req Rsp) :
    PipedAction Req Rsp → PipedClient waitMap Req Rsp → Prop
  | tx {action tx events} (allowed : client.allowsTx action = true)
      (stepTo : ChannelCore.step width client.tx action = some (tx, events)) :
      Move width client (.tx action)
        { client with
          tx := tx
          requests := client.requests.map fun pc => events.foldl RequestPc.observe pc
          dispatch := events.foldl DispatchPc.observeTx client.dispatch
          shutdowns := client.shutdowns.map fun pc => events.foldl ClosePc.observeTx pc }
  | rx {action rx events}
      (stepTo : ChannelCore.step width client.rx action = some (rx, events)) :
      Move width client (.rx action)
        { client with
          rx := rx
          dispatch := events.foldl DispatchPc.observeRx client.dispatch
          shutdowns := client.shutdowns.map fun pc => events.foldl ClosePc.observeRx pc }
  | request {body tx} (made : OwnStep width client.tx tx) :
      Move width client (.request body)
        { client with
          tx := tx
          requests := client.requests ++ [.reserving body client.tx.tasks.length] }
  | moved {action request pc pc' seq tx} (found : client.requests[request]? = some pc)
      (made : tx = client.tx ∨ OwnStep width client.tx tx)
      (calm : pc'.calm = true) (same : pc'.registered = pc.registered) :
      Move width client action { client.goto request pc' with seq := seq, tx := tx }
  | enqueued {action request body permit seq map}
      (found : client.requests[request]? = some (.enqueuing body permit seq))
      (enqueue : waitMap.enqueue client.map seq request = .ok map) :
      Move width client action
        { client.goto request (.writing body permit seq) with map := map }
  | left {action request pc pc'} (found : client.requests[request]? = some pc)
      (calm : pc'.calm = true) (unregistered : pc'.registered = none) :
      Move width client action (client.leave request pc')
  | panicked {action request pc message} (found : client.requests[request]? = some pc)
      (why : Panics client request pc) :
      Move width client action (client.leave request (.panicked message))
  | refused {action request pc permit tx} (found : client.requests[request]? = some pc)
      (why : Refuses client request pc)
      (reserve : ChannelCore.step width client.tx (.reserve 0 false) = some (tx, [])) :
      Move width client action
        { client.goto request (.refused permit client.tx.tasks.length) with tx := tx }
  | dispatch {action pc rx} (calm : pc.calm = true) :
      Move width client action { client with rx := rx, dispatch := pc }
  | woke {action response waiter map} (at_wake : client.dispatch = .waking response)
      (wake : waitMap.wake client.map response.seq = .woke waiter map) :
      Move width client action
        { client with
          map := map
          answers := Function.update client.answers waiter (some response.body)
          dispatch := .selecting }
  | wakeClosed {action response message} (at_wake : client.dispatch = .waking response)
      (wake : waitMap.wake client.map response.seq = .closed) :
      Move width client action { client with dispatch := .panicked message }
  | startShutdown {action} :
      Move width client action { client with shutdowns := client.shutdowns ++ [.cell] }
  | dispatchCloses {action pc pc' next} (at_close : client.dispatch = .closing pc)
      (closes : CloseMove width client pc next pc') :
      Move width client action { next with dispatch := .closing pc' }
  | shutdownCloses {shutdown pc pc' next} (found : client.shutdowns[shutdown]? = some pc)
      (closes : CloseMove width client pc next pc') :
      Move width client (.runShutdown shutdown)
        { next with shutdowns := client.shutdowns.set shutdown pc' }

section Steps

variable {client next : PipedClient waitMap Req Rsp} {request : Nat}
  {events : List (PipedEvent Req Rsp)}

theorem onTx_ownStep {action : ChannelCore.Action (Request Req) Reset}
    (others : ∀ call, action ≠ .run call) (made : client.onTx width action = some next) :
    ∃ tx, OwnStep width client.tx tx ∧ next = { client with tx := tx } := by
  obtain ⟨⟨tx, reported⟩, stepTo, rfl⟩ := Option.map_eq_some_iff.mp made
  exact ⟨tx, ⟨action, reported, stepTo, others⟩, rfl⟩

theorem onRx_eq {action : ChannelCore.Action (Response Rsp) Reset}
    (made : client.onRx width action = some next) : ∃ rx, next = { client with rx := rx } := by
  obtain ⟨⟨rx, reported⟩, -, rfl⟩ := Option.map_eq_some_iff.mp made
  exact ⟨rx, rfl⟩

theorem runClose_move {pc pc' : ClosePc} (ran : client.runClose width pc = some (next, pc')) :
    CloseMove width client pc next pc' := by
  cases pc with
  | cell =>
      cases ran
      exact .cell
  | tx reset =>
      obtain ⟨after, made, ends⟩ := Option.map_eq_some_iff.mp ran
      obtain ⟨tx, own, rfl⟩ := onTx_ownStep (by simp) made
      cases ends
      exact .tx own
  | rx reset =>
      obtain ⟨after, made, ends⟩ := Option.map_eq_some_iff.mp ran
      obtain ⟨rx, rfl⟩ := onRx_eq made
      cases ends
      exact .rx
  | map reset =>
      cases ran
      exact .map
  | closingTx reset call | closingRx reset call | closed reset => cases ran

theorem refuse_move {pc : RequestPc Req Rsp} {permit : Option Nat} {action : PipedAction Req Rsp}
    (found : client.requests[request]? = some pc) (why : Refuses client request pc)
    (refused : client.refuse width request permit = some next) :
    Move width client action next := by
  obtain ⟨after, made, rfl⟩ := Option.map_eq_some_iff.mp refused
  obtain ⟨⟨tx, reported⟩, stepTo, rfl⟩ := Option.map_eq_some_iff.mp made
  have silent : reported = [] := by
    simp only [ChannelCore.step] at stepTo
    split at stepTo <;> cases stepTo
    rfl
  subst silent
  exact .refused found why stepTo

theorem runRequest_move {action : PipedAction Req Rsp}
    (ran : client.runRequest bits width request = some next) :
    Move width client action next := by
  unfold runRequest at ran
  split at ran
  · rename_i body permit found
    cases ran
    exact .moved found (.inl rfl) rfl rfl
  · rename_i body permit seq found
    split at ran
    · rename_i map enqueue
      cases ran
      exact .enqueued found enqueue
    · rename_i failed
      exact refuse_move found (.enqueue failed) ran
    · rename_i error isOpen failed
      split at ran <;> cases ran
      · exact .left found rfl rfl
      · exact .left found rfl rfl
      · rename_i message handled
        refine .panicked found (.enqueue failed isOpen ?_)
        rintro rfl
        cases handled
  · rename_i body permit seq found
    obtain ⟨after, made, rfl⟩ := Option.map_eq_some_iff.mp ran
    obtain ⟨tx, own, rfl⟩ := onTx_ownStep (by simp) made
    exact .moved found (.inr own) rfl rfl
  · rename_i permit seq found
    obtain ⟨after, made, rfl⟩ := Option.map_eq_some_iff.mp ran
    obtain ⟨tx, own, rfl⟩ := onTx_ownStep (by simp) made
    exact .moved found (.inr own) rfl rfl
  · rename_i seq found
    split at ran
    · cases ran
      exact .left found rfl rfl
    · rename_i unanswered
      split at ran
      · cases ran
      · rename_i failed
        exact refuse_move found (.poll unanswered failed) ran
      · rename_i error isOpen failed
        split at ran <;> cases ran
        · exact .panicked found (.poll unanswered failed isOpen)
        · exact .left found rfl rfl
        · exact .panicked found (.poll unanswered failed isOpen)
  · rename_i permit reserved found
    split at ran <;> cases ran
    · exact .left found rfl rfl
    · rename_i message handled
      refine .panicked found (.refusal ?_)
      rintro reset rfl
      cases handled
  · cases ran

theorem runDispatch_move {action : PipedAction Req Rsp} {ready : Bool}
    (ran : client.runDispatch width ready = some next) : Move width client action next := by
  unfold runDispatch at ran
  split at ran
  · cases ran
    exact .dispatch (by split <;> rfl)
  · obtain ⟨after, made, rfl⟩ := Option.map_eq_some_iff.mp ran
    obtain ⟨rx, rfl⟩ := onRx_eq made
    exact .dispatch rfl
  · cases ran
    exact .dispatch (by split <;> rfl)
  · rename_i response at_wake
    split at ran <;> cases ran
    · rename_i waiter map wake
      exact .woke at_wake wake
    · exact .dispatch rfl
    · rename_i wake
      exact .wakeClosed at_wake wake
  · rename_i pc at_close
    obtain ⟨⟨after, pc'⟩, made, rfl⟩ := Option.map_eq_some_iff.mp ran
    exact .dispatchCloses at_close (runClose_move made)
  · cases ran

theorem runShutdown_move {shutdown : Nat}
    (ran : client.runShutdown width shutdown = some next) :
    Move width client (.runShutdown shutdown) next := by
  unfold runShutdown at ran
  split at ran
  · rename_i pc found
    obtain ⟨⟨after, pc'⟩, made, rfl⟩ := Option.map_eq_some_iff.mp ran
    exact .shutdownCloses found (runClose_move made)
  · cases ran

theorem cancelRequest_move {action : PipedAction Req Rsp}
    (cancelled : client.cancelRequest request = some next) : Move width client action next := by
  unfold cancelRequest at cancelled
  split at cancelled <;> cases cancelled
  · rename_i body call found
    exact .moved found (.inl rfl) rfl rfl
  · rename_i body permit seq found
    exact .left found rfl rfl
  · rename_i seq found
    exact .left found rfl rfl

/-- Every step is one of the moves. -/
theorem step_move {action : PipedAction Req Rsp}
    (stepTo : client.step bits width action = some (next, events)) :
    Move width client action next := by
  cases action with
  | request body =>
      obtain ⟨after, made, ends⟩ := Option.map_eq_some_iff.mp stepTo
      obtain ⟨tx, own, rfl⟩ := onTx_ownStep (by simp) made
      cases ends
      exact .request own
  | startDispatch =>
      simp only [step] at stepTo
      split at stepTo <;> cases stepTo
      exact .dispatch rfl
  | startShutdown =>
      cases stepTo
      exact .startShutdown
  | runRequest request =>
      obtain ⟨after, ran, ends⟩ := Option.map_eq_some_iff.mp stepTo
      cases ends
      exact runRequest_move ran
  | runDispatch ready =>
      obtain ⟨after, ran, ends⟩ := Option.map_eq_some_iff.mp stepTo
      cases ends
      exact runDispatch_move ran
  | runShutdown shutdown =>
      obtain ⟨after, ran, ends⟩ := Option.map_eq_some_iff.mp stepTo
      cases ends
      exact runShutdown_move ran
  | cancelRequest request =>
      obtain ⟨after, cancelled, ends⟩ := Option.map_eq_some_iff.mp stepTo
      cases ends
      exact cancelRequest_move cancelled
  | cancelDispatch =>
      simp only [step] at stepTo
      split at stepTo <;> cases stepTo
      exact .dispatch rfl
  | tx action =>
      obtain ⟨allowed, made⟩ := Option.ite_none_right_eq_some.mp stepTo
      obtain ⟨⟨tx, reported⟩, ran, ends⟩ := Option.map_eq_some_iff.mp made
      cases ends
      exact .tx allowed ran
  | rx action =>
      obtain ⟨-, made⟩ := Option.ite_none_right_eq_some.mp stepTo
      obtain ⟨⟨rx, reported⟩, ran, ends⟩ := Option.map_eq_some_iff.mp made
      cases ends
      exact .rx ran

end Steps

end PipedClient

end ReqRsp

end Calliope

end Mgnp
