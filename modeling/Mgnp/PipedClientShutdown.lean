import Mgnp.PipedClientCalls
import Mgnp.Potential

/-!
# Shutting the client down

`Client::shutdown` promises to fail every outstanding request.  When it has closed the
wait map and the elected `close_with_error` of the request channel has returned, every
request, an outstanding one and one made later, ends after a few steps of its own,
whatever the other parties do.  It returns the error of the request channel, unless the
dispatcher had given it a response before.
-/

namespace Mgnp

namespace Calliope

namespace ReqRsp

open LabelledRuns PositionWord

variable {waitMap : WaitMap} {Req Rsp : Type*} {bits : Nat} {width : PointerWidth}
  {capacity : Nat} {isClosed : waitMap.Map → Bool}

/-- What a wait map that has been closed tells its waiters. -/
structure WaitMap.Ends (waitMap : WaitMap) (isClosed : waitMap.Map → Bool) : Prop where
  enqueue : ∀ {map key waiter}, isClosed map = true →
    waitMap.enqueue map key waiter = .error .closed
  poll : ∀ {map waiter}, isClosed map = true → waitMap.poll map waiter = some .closed

/-- How many steps of its own a request takes before it is over, once the client has been
shut down. -/
def RequestPc.rank (tx : ChannelCore.Channel (Request Req) Reset) : RequestPc Req Rsp → Nat
  | .reserving _ call => 11 + tx.left call
  | .drawing _ _ => 11
  | .enqueuing _ _ _ => 10
  | .writing _ _ _ => 9
  | .committing _ _ => 8
  | .sending call _ => 4 + tx.left call
  | .waiting _ => 4
  | .refused _ call => 1 + tx.left call
  | .refusal _ _ => 1
  | .returned _ | .panicked _ | .cancelled => 0

namespace PipedClient

/-- A request that has not been made is ranked as high as any. -/
def rankOf (request : Nat) (requests : List (RequestPc Req Rsp))
    (tx : ChannelCore.Channel (Request Req) Reset) : Nat :=
  match requests[request]? with
  | some pc => pc.rank tx
  | none => 15

def rank (request : Nat) (client : PipedClient waitMap Req Rsp) : Nat :=
  rankOf request client.requests client.tx

/-- The step is one of the request, by itself or in the channel call that it waits for. -/
def owns (request : Nat) (client : PipedClient waitMap Req Rsp) :
    PipedAction Req Rsp → Bool
  | .runRequest other => other == request
  | .tx action =>
      (client.requests[request]?.bind RequestPc.task).any fun call => action.task == some call
  | _ => false

/-- The request has been made and is not over. -/
def outstanding (client : PipedClient waitMap Req Rsp) (request : Nat) : Prop :=
  ∃ pc, client.requests[request]? = some pc ∧ pc.ended = false

/-- A call of `shutdown` has returned, or `dispatch` has because the connection was
reset. -/
def hasShutDown (client : PipedClient waitMap Req Rsp) : Prop :=
  ∃ reset, .closed reset ∈ client.shutdowns ∨ client.dispatch = .closing (.closed reset)

end PipedClient

section Observing

variable {T : Type*} {pc : RequestPc Req Rsp} {call : Nat}
  {events : List (ChannelCore.Event (Request Req) Reset)}

/-- `self.dispatcher.close()` has run. -/
def ClosePc.done : ClosePc → Bool
  | .closed _ => true
  | _ => false

theorem ClosePc.done_observeTx (pc : ClosePc) (events : List (ChannelCore.Event T Reset)) :
    (events.foldl ClosePc.observeTx pc).done = pc.done := by
  induction events generalizing pc with
  | nil => rfl
  | cons event events ih =>
      rw [List.foldl_cons, ih]
      cases pc with
      | closingTx reset call =>
          cases event with
          | closeResult task closed =>
              simp only [ClosePc.observeTx]
              split <;> rfl
          | _ => rfl
      | _ => rfl

theorem ClosePc.done_observeRx (pc : ClosePc) (events : List (ChannelCore.Event T Reset)) :
    (events.foldl ClosePc.observeRx pc).done = pc.done := by
  induction events generalizing pc with
  | nil => rfl
  | cons event events ih =>
      rw [List.foldl_cons, ih]
      cases pc with
      | closingRx reset call =>
          cases event with
          | closeResult task closed =>
              simp only [ClosePc.observeRx]
              split <;> rfl
          | _ => rfl
      | _ => rfl

/-- `dispatch` has closed the wait map. -/
def DispatchPc.done : DispatchPc Rsp → Bool
  | .closing pc => pc.done
  | _ => false

theorem DispatchPc.done_observeTx (pc : DispatchPc Rsp)
    (events : List (ChannelCore.Event T Reset)) :
    (events.foldl DispatchPc.observeTx pc).done = pc.done := by
  cases pc with
  | closing close =>
      rw [DispatchPc.observeTx_closing]
      exact ClosePc.done_observeTx close events
  | _ => rw [DispatchPc.observeTx_other (by simp)]

theorem DispatchPc.done_observeRx (pc : DispatchPc Rsp)
    (events : List (ChannelCore.Event (Response Rsp) Reset)) :
    (events.foldl DispatchPc.observeRx pc).done = pc.done := by
  induction events generalizing pc with
  | nil => rfl
  | cons event events ih =>
      rw [List.foldl_cons, ih]
      cases pc with
      | closing close => exact ClosePc.done_observeRx close [event]
      | receiving =>
          cases event with
          | received idx message => cases message <;> rfl
          | recvClosed reason => cases reason <;> rfl
          | _ => rfl
      | _ => rfl

/-- A request that returns after a step of its channel was refused by it. -/
theorem RequestPc.observe_eq_returned {result : Except Reset Rsp}
    (observed : events.foldl RequestPc.observe pc = .returned result) :
    pc = .returned result ∨
      ∃ call reason, .sendClosed call reason ∈ events ∧
        result = .error (reason.getD .becauseISaidSo) := by
  induction events generalizing pc with
  | nil => exact .inl observed
  | cons event events ih =>
      rcases ih observed with now | ⟨call, reason, member, rfl⟩
      · cases pc with
        | reserving body call =>
            cases event with
            | sendClosed task reason =>
                refine .inr ⟨task, reason, List.mem_cons_self, ?_⟩
                cases reason <;> simp only [RequestPc.observe, reserveResult] at now <;>
                  by_cases own : task = call <;> simp [own] at now <;> exact now.symm
            | reserved task idx | full task =>
                simp only [RequestPc.observe, reserveResult] at now
                by_cases own : task = call <;> simp [own] at now
            | _ => cases now
        | refused permit call =>
            simp only [RequestPc.observe] at now
            split at now <;> cases now
        | sending call seq =>
            simp only [RequestPc.observe] at now
            split at now <;> cases now
        | _ => exact .inl now
      · exact .inr ⟨call, reason, List.mem_cons_of_mem _ member, rfl⟩

/-- A request that learns the error of its channel is told it by its call. -/
theorem RequestPc.observe_eq_refusal {permit : Option Nat} {reset : Reset}
    (observed : events.foldl RequestPc.observe pc = .refusal permit (.error (.error reset))) :
    pc = .refusal permit (.error (.error reset)) ∨
      ∃ call, .sendClosed call (some reset) ∈ events := by
  induction events generalizing pc with
  | nil => exact .inl observed
  | cons event events ih =>
      rcases ih observed with now | ⟨call, member⟩
      · cases pc with
        | refused own call =>
            cases event with
            | sendClosed task reason =>
                refine .inr ⟨task, ?_⟩
                cases reason <;> simp only [RequestPc.observe, reserveResult] at now <;>
                  by_cases own : task = call <;> simp [own] at now
                rw [now.2]
                exact List.mem_cons_self
            | reserved task idx | full task =>
                simp only [RequestPc.observe, reserveResult] at now
                by_cases own : task = call <;> simp [own] at now
            | _ => cases now
        | reserving body call =>
            simp only [RequestPc.observe] at now
            split at now <;> cases now
        | sending call seq =>
            simp only [RequestPc.observe] at now
            split at now <;> cases now
        | _ => exact .inl now
      · exact .inr ⟨call, List.mem_cons_of_mem _ member⟩

end Observing

/-- Whoever gets past `self.dispatcher.close()` closes the wait map. -/
theorem CloseMove.closed {client next : PipedClient waitMap Req Rsp} {pc pc' : ClosePc}
    (step : CloseMove width client pc next pc') (closes : waitMap.Closes isClosed)
    (done : pc'.done = true) : isClosed next.map = true := by
  cases step with
  | map => exact closes.close
  | _ => cases done

namespace PipedClient

variable {client next : PipedClient waitMap Req Rsp} {action : PipedAction Req Rsp}

section Closers

/-- Whoever has shut the client down has closed the wait map. -/
structure ClosesMap (isClosed : waitMap.Map → Bool) (client : PipedClient waitMap Req Rsp) :
    Prop where
  shutdowns : ∀ pc ∈ client.shutdowns, pc.done = true → isClosed client.map = true
  dispatch : client.dispatch.done = true → isClosed client.map = true

theorem ClosesMap.of_hasShutDown (closesMap : client.ClosesMap isClosed)
    (shutDown : client.hasShutDown) : isClosed client.map = true := by
  obtain ⟨reset, member | at_dispatch⟩ := shutDown
  · exact closesMap.shutdowns _ member rfl
  · exact closesMap.dispatch (by rw [at_dispatch]; rfl)

/-- A wait map that has been closed stays closed. -/
theorem Move.closed_kept (move : Move width client action next)
    (closes : waitMap.Closes isClosed) (closed : isClosed client.map = true) :
    isClosed next.map = true := by
  cases move with
  | enqueued found enqueue => exact (closes.enqueue enqueue).trans closed
  | left | panicked => exact closes.drop.trans closed
  | woke at_wake wake => exact (closes.wake wake).trans closed
  | dispatchCloses _ step | shutdownCloses _ step =>
      cases step with
      | map => exact closes.close
      | _ => exact closed
  | _ => exact closed

/-- A dispatcher that holds no response gives none. -/
theorem Move.answers_kept (move : Move width client action next)
    (free : client.dispatch.holds = false) : next.answers = client.answers := by
  cases move with
  | woke at_wake =>
      rw [at_wake] at free
      cases free
  | dispatchCloses _ step | shutdownCloses _ step => cases step <;> rfl
  | _ => rfl

theorem ClosesMap.move (closesMap : client.ClosesMap isClosed)
    (closes : waitMap.Closes isClosed) (move : Move width client action next) :
    next.ClosesMap isClosed := by
  have kept := move.closed_kept closes
  cases move with
  | tx =>
      constructor
      · intro pc member done
        obtain ⟨before, was, rfl⟩ := List.mem_map.mp member
        rw [ClosePc.done_observeTx] at done
        exact closesMap.shutdowns before was done
      · intro done
        exact closesMap.dispatch ((DispatchPc.done_observeTx ..).symm.trans done)
  | rx =>
      constructor
      · intro pc member done
        obtain ⟨before, was, rfl⟩ := List.mem_map.mp member
        rw [ClosePc.done_observeRx] at done
        exact closesMap.shutdowns before was done
      · intro done
        exact closesMap.dispatch ((DispatchPc.done_observeRx ..).symm.trans done)
  | request | moved | enqueued | left | panicked | refused =>
      exact ⟨fun pc member done => kept (closesMap.shutdowns pc member done),
        fun done => kept (closesMap.dispatch done)⟩
  | dispatch calm =>
      refine ⟨closesMap.shutdowns, fun done => ?_⟩
      rename_i pc _
      cases pc with
      | closing close => cases calm
      | _ => cases done
  | woke =>
      exact ⟨fun pc member done => kept (closesMap.shutdowns pc member done),
        fun done => by cases done⟩
  | wakeClosed => exact ⟨closesMap.shutdowns, fun done => by cases done⟩
  | startShutdown =>
      refine ⟨fun pc member done => ?_, closesMap.dispatch⟩
      rcases List.mem_append.mp member with before | new
      · exact closesMap.shutdowns pc before done
      · rw [List.mem_singleton.mp new] at done
        cases done
  | dispatchCloses at_close step =>
      refine ⟨fun pc member done => kept (closesMap.shutdowns pc ?_ done),
        step.closed closes⟩
      cases step <;> exact member
  | shutdownCloses found step =>
      refine ⟨fun pc member done => ?_, fun done => kept (closesMap.dispatch ?_)⟩
      · rcases List.mem_or_eq_of_mem_set member with before | rfl
        · refine kept (closesMap.shutdowns pc ?_ done)
          cases step <;> exact before
        · exact step.closed closes done
      · cases step <;> exact done

end Closers

section Channel

/-- The client's own steps of the request channel. -/
theorem Move.ownStep (move : Move width client action next)
    (others : ∀ channelAction, action ≠ .tx channelAction) :
    next.tx = client.tx ∨ OwnStep width client.tx next.tx := by
  cases move with
  | tx => exact absurd rfl (others _)
  | request made => exact .inr made
  | moved _ made => exact made
  | refused _ _ reserve => exact .inr ⟨_, _, reserve, by simp⟩
  | dispatchCloses _ step | shutdownCloses _ step =>
      cases step with
      | tx made => exact .inr made
      | _ => exact .inl rfl
  | _ => exact .inl rfl

/-- What a client reports of its request channel has been reported there. -/
theorem txRun_of_run {admits : PipedClient waitMap Req Rsp → PipedAction Req Rsp → Prop}
    {responseCapacity : Nat} {history : List (PipedEvent Req Rsp)}
    (run : Run (PipedClient.step bits width) admits
      (PipedClient.new waitMap Req Rsp width capacity responseCapacity) history client) :
    ∃ past, Run (ChannelCore.step width) anyStep (.new width capacity) past client.tx ∧
      ∀ event, .tx event ∈ history → event ∈ past := by
  refine run.invariant (fun history client =>
    ∃ past, Run (ChannelCore.step width) anyStep (.new width capacity) past client.tx ∧
      ∀ event, .tx event ∈ history → event ∈ past) ⟨[], .refl, by simp⟩ ?_
  intro reported events state next action ⟨past, before, shown⟩ _ stepTo
  by_cases channel : ∃ channelAction, action = .tx channelAction
  · obtain ⟨channelAction, rfl⟩ := channel
    obtain ⟨-, made⟩ := Option.ite_none_right_eq_some.mp stepTo
    obtain ⟨⟨tx, told⟩, ran, ends⟩ := Option.map_eq_some_iff.mp made
    cases ends
    refine ⟨past ++ told, .tail before trivial ran, fun event member => ?_⟩
    rcases List.mem_append.mp member with old | new
    · exact List.mem_append_left _ (shown event old)
    · obtain ⟨own, told', same⟩ := List.mem_map.mp new
      cases same
      exact List.mem_append_right _ told'
  · have others : ∀ channelAction, action ≠ .tx channelAction := fun channelAction same =>
      channel ⟨channelAction, same⟩
    have silent : ∀ event, .tx event ∉ events := by
      intro event member
      cases action with
      | tx channelAction => exact others _ rfl
      | rx channelAction =>
          obtain ⟨-, made⟩ := Option.ite_none_right_eq_some.mp stepTo
          obtain ⟨⟨rx, told⟩, ran, ends⟩ := Option.map_eq_some_iff.mp made
          cases ends
          obtain ⟨own, -, same⟩ := List.mem_map.mp member
          cases same
      | startShutdown =>
          cases stepTo
          cases member
      | startDispatch | cancelDispatch =>
          simp only [step] at stepTo
          split at stepTo <;> cases stepTo
          cases member
      | request body | runRequest request | runDispatch ready | runShutdown shutdown
      | cancelRequest request =>
          obtain ⟨after, ran, ends⟩ := Option.map_eq_some_iff.mp stepTo
          cases ends
          cases member
    have still (event) (member : .tx event ∈ reported ++ events) : event ∈ past :=
      (List.mem_append.mp member).elim (shown event) fun new => absurd new (silent event)
    rcases (step_move stepTo).ownStep others with same | ⟨own, told, ran, -⟩
    · exact ⟨past, same ▸ before, still⟩
    · exact ⟨past ++ told, .tail before trivial ran, fun event member =>
        List.mem_append_left _ (still event member)⟩

variable {requests : List (RequestPc Req Rsp)}
  {tx : ChannelCore.Channel (Request Req) Reset}
  {past : List (ChannelCore.Event (Request Req) Reset)}

/-- The request channel takes a step, or somebody makes a call of it. -/
theorem Effect.channel (effect : Effect width client action requests tx) :
    tx.core = client.tx.core ∨
      ∃ channelAction events,
        ChannelCore.step width client.tx channelAction = some (tx, events) := by
  cases effect with
  | observed _ stepTo => exact .inr ⟨_, _, stepTo⟩
  | moved _ move =>
      cases move with
      | write stepTo | commit stepTo => exact .inr ⟨_, _, stepTo⟩
      | _ => exact .inl rfl
  | _ => exact .inl rfl

theorem Effect.shut (effect : Effect width client action requests tx)
    (ran : Run (ChannelCore.step width) anyStep (.new width capacity) past client.tx)
    {reset : Reset} (shut : client.tx.Shut reset) : tx.Shut reset := by
  rcases effect.channel with same | ⟨channelAction, events, stepTo⟩
  · refine ⟨?_, ?_, ?_⟩
    · rw [same]
      exact shut.reason
    · rw [same]
      exact shut.isClosed
    · rw [same]
      exact shut.prodWait
  · exact shut.step ran stepTo

/-- A request that has been told why its channel was closed has been told the truth. -/
def Told (requests : List (RequestPc Req Rsp))
    (tx : ChannelCore.Channel (Request Req) Reset) : Prop :=
  ∀ permit reset, .refusal permit (.error (.error reset)) ∈ requests →
    tx.core.closeReason = some reset

theorem Told.step (told : Told client.requests client.tx)
    (ran : Run (ChannelCore.step width) anyStep (.new width capacity) past client.tx)
    (effect : Effect width client action requests tx) : Told requests tx := by
  intro permit reset member
  have kept (reason : client.tx.core.closeReason = some reset) :
      tx.core.closeReason = some reset := by
    rcases effect.channel with same | ⟨channelAction, events, stepTo⟩
    · rw [same]
      exact reason
    · rcases ChannelCore.closeReason_step ran stepTo with same | ⟨-, unread⟩
      · exact same.trans reason
      · rw [reason] at unread
        cases unread
  apply kept
  cases effect with
  | still | closes => exact told permit reset member
  | request =>
      rcases List.mem_append.mp member with before | new
      · exact told permit reset before
      · cases List.mem_singleton.mp new
  | observed allowed stepTo =>
      obtain ⟨pc, was, observed⟩ := List.mem_map.mp member
      rcases RequestPc.observe_eq_refusal observed with rfl | ⟨call, answered⟩
      · exact told permit reset was
      · exact (((ChannelCore.step_transition stepTo).reservation call).2.2 _ answered).symm
  | moved found move =>
      rcases List.mem_or_eq_of_mem_set member with before | rfl
      · exact told permit reset before
      · cases move
  | cancelled found =>
      rcases List.mem_or_eq_of_mem_set member with before | new
      · exact told permit reset before
      · cases new

end Channel

end PipedClient

section Ranking

variable {client : PipedClient waitMap Req Rsp} {request : Nat} {pc pc' : RequestPc Req Rsp}
  {tx : ChannelCore.Channel (Request Req) Reset} {reset : Reset}

theorem RequestPc.rank_le (pc : RequestPc Req Rsp)
    (tx : ChannelCore.Channel (Request Req) Reset) : pc.rank tx ≤ 15 := by
  cases pc with
  | reserving body call | sending call seq | refused permit call =>
      have bounded := tx.left_le call
      simp only [RequestPc.rank]
      omega
  | _ => simp [RequestPc.rank]

/-- The rank of a request depends on its own call only. -/
theorem RequestPc.rank_congr {before after : ChannelCore.Channel (Request Req) Reset}
    (same : ∀ call, pc.task = some call → after.left call = before.left call) :
    pc.rank after = pc.rank before := by
  cases pc with
  | reserving body call | sending call seq | refused permit call =>
      simp only [RequestPc.rank, same call rfl]
  | _ => rfl

theorem left_spawn (task : ChannelCore.Task Reset) :
    (tx.spawn task).left tx.tasks.length = task.pc.left :=
  ChannelCore.Channel.left_eq (by simp [ChannelCore.Channel.spawn])

theorem left_spawn_of_lt (task : ChannelCore.Task Reset) {call : Nat}
    (inside : call < tx.tasks.length) : (tx.spawn task).left call = tx.left call := by
  unfold ChannelCore.Channel.left
  rw [show (tx.spawn task).tasks[call]? = tx.tasks[call]? from
    List.getElem?_append_left inside]

/-- A request that moves by itself gets nearer to its end. -/
theorem RequestMove.pays (move : RequestMove width client request pc pc' tx)
    (ends : waitMap.Ends isClosed) (closed : isClosed client.map = true)
    (calm : ∀ message, pc' ≠ .panicked message) :
    pc'.rank tx + 1 ≤ pc.rank client.tx := by
  cases move with
  | again failed isOpen =>
      rw [ends.enqueue closed] at failed
      cases failed
      exact absurd rfl isOpen
  | refuse why =>
      have called : (client.tx.spawn ⟨some 0, .reserving false⟩).left client.tx.tasks.length =
          2 := left_spawn _
      cases why with
      | enqueue | poll => simp [RequestPc.rank, called]
  | @commit permit seq _ _ stepTo =>
      simp only [ChannelCore.step] at stepTo
      split at stepTo <;> cases stepTo
      rename_i at_call
      simp [RequestPc.rank, ChannelCore.Channel.left_goto at_call, ChannelCore.Pc.left]
  | @panic _ message => exact absurd rfl (calm message)
  | draw | enqueue | write | answer | tell => simp [RequestPc.rank]

namespace PipedClient

/-- A step of the request channel brings the request whose call it runs nearer to its
end, and is nothing to the others. -/
theorem Linked.observe_pays (linked : Linked client.requests client.tx)
    (shut : client.tx.Shut reset) {channelAction : ChannelCore.Action (Request Req) Reset}
    {events : List (ChannelCore.Event (Request Req) Reset)}
    (found : client.requests[request]? = some pc)
    (allowed : client.allowsTx channelAction = true)
    (stepTo : ChannelCore.step width client.tx channelAction = some (tx, events)) :
    (events.foldl RequestPc.observe pc).rank tx +
        (pc.task.any fun call => channelAction.task == some call).toNat ≤
      pc.rank client.tx := by
  by_cases own : ∃ call, pc.task = some call ∧ channelAction.task = some call
  · obtain ⟨call, task, moves⟩ := own
    have at_call := linked.attached found task
    have counted : (pc.task.any fun call => channelAction.task == some call) = true := by
      simp [task, moves]
    rw [counted, Bool.toNat_true]
    have lower (unanswered : 0 < client.tx.left call) := shut.left_lt stepTo moves unanswered
    cases pc with
    | reserving body permit =>
        obtain rfl : permit = call := Option.some.inj task
        obtain ⟨old, old_at, inReserve⟩ := at_call
        have unanswered : 0 < client.tx.left permit := by
          rw [ChannelCore.Channel.left_eq old_at]
          exact inReserve.left_pos
        have less := lower unanswered
        rcases ChannelCore.step_inReserve stepTo moves ⟨old, old_at, inReserve⟩ with
          ⟨-, rfl⟩ | ⟨idx, -, rfl⟩ | rfl
        · simp only [List.foldl_nil, RequestPc.rank]
          omega
        · simp only [List.foldl_cons, List.foldl_nil, RequestPc.observe, reserveResult, if_true,
            RequestPc.rank]
          omega
        · cases client.tx.core.closeReason <;>
            simp only [List.foldl_cons, List.foldl_nil, RequestPc.observe, reserveResult,
              if_true, RequestPc.rank] <;>
            omega
    | sending permit seq =>
        obtain rfl : permit = call := Option.some.inj task
        obtain ⟨old, old_at, inCommit⟩ := at_call
        have unanswered : 0 < client.tx.left permit := by
          rw [ChannelCore.Channel.left_eq old_at]
          exact inCommit.left_pos
        have less := lower unanswered
        rw [RequestPc.observe_sending]
        split
        · simp only [RequestPc.rank]
          omega
        · simp only [RequestPc.rank]
          omega
    | refused permit asked =>
        obtain rfl : asked = call := Option.some.inj task
        obtain ⟨old, old_at, refusing⟩ := at_call
        have unanswered : 0 < client.tx.left asked := by
          rw [ChannelCore.Channel.left_eq old_at]
          exact refusing.left_pos
        have less := lower unanswered
        rcases RequestPc.observe_refused_or Rsp permit asked events with
          still | ⟨reserved, told⟩
        · rw [still]
          simp only [RequestPc.rank]
          omega
        · rw [told]
          simp only [RequestPc.rank]
          omega
    | drawing | enqueuing | writing | committing =>
        exact absurd moves (not_own_of_holding found task at_call allowed stepTo)
    | _ => cases task
  · have others (call : Nat) (task : pc.task = some call) : channelAction.task ≠ some call :=
      fun moves => own ⟨call, task, moves⟩
    have uncounted : (pc.task.any fun call => channelAction.task == some call) = false := by
      cases task : pc.task with
      | none => rfl
      | some call => simpa using others call task
    have same : events.foldl RequestPc.observe pc = pc := by
      refine RequestPc.observe_of_others fun event member call task answers => ?_
      exact others call task (ChannelCore.step_answers stepTo member answers)
    rw [uncounted, same, Bool.toNat_false, Nat.add_zero]
    refine le_of_eq (RequestPc.rank_congr fun call task => ?_)
    exact ChannelCore.left_others stepTo (others call task)
      (linked.attached found task).lt_length

variable {action : PipedAction Req Rsp} {requests : List (RequestPc Req Rsp)}

/-- A request that others leave alone keeps its rank. -/
theorem rankOf_kept (linked : Linked client.requests client.tx)
    (found : requests[request]? = client.requests[request]?)
    (left : ∀ pc, client.requests[request]? = some pc → ∀ call, pc.task = some call →
      call < client.tx.tasks.length → tx.left call = client.tx.left call) :
    rankOf request requests tx = client.rank request := by
  unfold rank rankOf
  rw [found]
  split
  · rename_i pc at_request
    exact RequestPc.rank_congr fun call task =>
      left pc at_request call task (linked.attached at_request task).lt_length
  · rfl

/-- Every step is paid from the rank of each request. -/
theorem Effect.pays (effect : Effect width client action requests tx)
    (linked : Linked client.requests client.tx) (shut : client.tx.Shut reset)
    (ends : waitMap.Ends isClosed) (closed : isClosed client.map = true)
    (calm : ∀ pc ∈ requests, ∀ message, pc ≠ .panicked message) (request : Nat) :
    rankOf request requests tx + (owns request client action).toNat ≤
      client.rank request := by
  have unowned (others : ∀ request, action ≠ .runRequest request)
      (channel : ∀ channelAction, action ≠ .tx channelAction) :
      owns request client action = false := by
    cases action with
    | runRequest other => exact absurd rfl (others other)
    | tx channelAction => exact absurd rfl (channel channelAction)
    | _ => rfl
  cases effect with
  | still others channel =>
      rw [unowned others channel]
      exact Nat.le_refl _
  | closes others channel =>
      rw [unowned others channel]
      exact le_of_eq (rankOf_kept linked rfl fun _ _ _ _ => left_spawn_of_lt _)
  | @request body =>
      rw [show owns request client (.request body) = false from rfl, Bool.toNat_false,
        Nat.add_zero]
      rcases lt_trichotomy request client.requests.length with inside | rfl | outside
      · exact le_of_eq (rankOf_kept linked (List.getElem?_append_left inside)
          fun _ _ _ _ => left_spawn_of_lt _)
      · have unmade : client.rank client.requests.length = 15 := by simp [rank, rankOf]
        rw [unmade]
        unfold rankOf
        split
        · exact RequestPc.rank_le _ _
        · exact Nat.le_refl _
      · refine le_of_eq (rankOf_kept linked ?_ fun _ _ _ _ => left_spawn_of_lt _)
        rw [List.getElem?_eq_none_iff.mpr (Nat.le_of_lt outside), List.getElem?_eq_none_iff,
          List.length_append, List.length_singleton]
        omega
  | @observed channelAction tx events allowed stepTo =>
      unfold rank rankOf owns
      rw [List.getElem?_map]
      cases found : client.requests[request]? with
      | none => simp
      | some pc => exact linked.observe_pays shut found allowed stepTo
  | @moved mover pc pc' tx found move =>
      have inside := (List.getElem?_eq_some_iff.mp found).1
      by_cases same : mover = request
      · subst same
        have moved : (client.requests.set mover pc')[mover]? = some pc' :=
          List.getElem?_set_self inside
        have paid := move.pays ends closed (calm pc' (List.mem_of_getElem? moved))
        have own : owns mover client (.runRequest mover) = true := beq_self_eq_true mover
        rw [own, Bool.toNat_true]
        simpa only [rank, rankOf, moved, found] using paid
      · have other : owns request client (.runRequest mover) = false :=
          beq_eq_false_iff_ne.mpr same
        rw [other]
        refine le_of_eq (rankOf_kept linked (List.getElem?_set_ne same)
          fun own at_request call task inside => ?_)
        have apart : pc.task ≠ some call := fun shared =>
          same (linked.apart found at_request shared task)
        have at_call := List.getElem?_eq_getElem inside
        rw [ChannelCore.Channel.left_eq at_call,
          ChannelCore.Channel.left_eq (move.kept apart at_call)]
  | @cancelled dropped pc found =>
      rw [show owns request client (.cancelRequest dropped) = false from rfl,
        Bool.toNat_false, Nat.add_zero]
      by_cases same : dropped = request
      · subst same
        have cancelled : (client.requests.set dropped .cancelled)[dropped]? = some .cancelled :=
          List.getElem?_set_self (List.getElem?_eq_some_iff.mp found).1
        simp [rankOf, cancelled, RequestPc.rank]
      · exact le_of_eq (rankOf_kept linked (List.getElem?_set_ne same) fun _ _ _ _ _ => rfl)

/-- A request that is not over can always take a step of its own, and overtakes nobody
with it. -/
theorem Sound.exists_own_step (sound : client.Sound isClosed width capacity)
    (linked : Linked client.requests client.tx) (shut : client.tx.Shut reset)
    (ends : waitMap.Ends isClosed) (closed : isClosed client.map = true)
    (outstanding : client.outstanding request) :
    ∃ action, owns request client action = true ∧ client.InOrder isClosed action ∧
      (client.step bits width action).isSome = true := by
  obtain ⟨pc, found, going⟩ := outstanding
  obtain ⟨past, ran⟩ := sound.ran
  have called {call : Nat} (task : pc.task = some call) (unanswered : 0 < client.tx.left call) :
      ∃ action, owns request client action = true ∧ client.InOrder isClosed action ∧
        (client.step bits width action).isSome = true := by
    obtain ⟨channelAction, moves, enabled, kind⟩ :=
      shut.exists_step width unanswered
    refine ⟨.tx channelAction, ?_, ?_, ?_⟩
    · simp [owns, found, task, moves]
    · rcases kind with rfl | ⟨idx, rfl⟩
      · simp [InOrder, races, shut.overtakesError ran]
      · rfl
    · have allowed : client.allowsTx channelAction = true := by
        rcases kind with rfl | ⟨idx, rfl⟩ <;> rfl
      simp [step, PipedClient.stepTx, allowed, enabled]
  have running (enabled : (client.runRequest bits width request).isSome = true) :
      ∃ action, owns request client action = true ∧ client.InOrder isClosed action ∧
        (client.step bits width action).isSome = true :=
    ⟨.runRequest request, beq_self_eq_true request, rfl, by simpa [step] using enabled⟩
  have refuses (permit : Option Nat) : (client.refuse width request permit).isSome = true := by
    simp [refuse, PipedClient.onTx, ChannelCore.step, linked.handle]
  have at_task {call : Nat} (task : pc.task = some call) := linked.attached found task
  cases pc with
  | reserving body call =>
      obtain ⟨old, at_call, inReserve⟩ := at_task rfl
      refine called rfl ?_
      rw [ChannelCore.Channel.left_eq at_call]
      exact inReserve.left_pos
  | sending call seq =>
      obtain ⟨old, at_call, inCommit⟩ := at_task rfl
      refine called rfl ?_
      rw [ChannelCore.Channel.left_eq at_call]
      exact inCommit.left_pos
  | refused permit call =>
      obtain ⟨old, at_call, refusing⟩ := at_task rfl
      refine called rfl ?_
      rw [ChannelCore.Channel.left_eq at_call]
      exact refusing.left_pos
  | drawing body permit => exact running (by simp [runRequest, found])
  | enqueuing body permit seq =>
      refine running ?_
      simp only [runRequest, found, ends.enqueue closed]
      exact refuses _
  | writing body permit seq | committing permit seq =>
      obtain ⟨⟨handle, pc⟩, at_call, holding⟩ := at_task rfl
      refine running ?_
      cases pc with
      | permit idx => simp [runRequest, found, PipedClient.onTx, ChannelCore.step, at_call]
      | _ => exact holding.elim
  | waiting seq =>
      refine running ?_
      cases answered : client.answers request with
      | some body => simp [runRequest, found, answered]
      | none =>
          simp only [runRequest, found, answered, ends.poll closed]
          exact refuses _
  | refusal permit reserved =>
      obtain ⟨own, rfl⟩ := (sound.requests request _ found).refusal permit reserved rfl
      exact running (by simp [runRequest, found, handleWaitError])
  | returned | panicked | cancelled => cases going

end PipedClient

end Ranking

namespace PipedClient

variable {start client next : PipedClient waitMap Req Rsp} {reset : Reset}

/-- What holds of the client from `start`, where it had been shut down. -/
structure Failing (isClosed : waitMap.Map → Bool) (width : PointerWidth) (capacity : Nat)
    (start : PipedClient waitMap Req Rsp) (reset : Reset)
    (client : PipedClient waitMap Req Rsp) : Prop where
  sound : client.Sound isClosed width capacity
  linked : Linked client.requests client.tx
  told : Told client.requests client.tx
  closed : isClosed client.map = true
  shut : client.tx.Shut reset
  answers : client.answers = start.answers
  results : ∀ (request : Nat) (result : Except Reset Rsp),
    client.requests[request]? = some (.returned result) →
      start.requests[request]? = some (.returned result) ∨ result = .error reset ∨
        ∃ body, start.answers request = some body ∧ result = .ok body

/-- What a request returns after the client has been shut down. -/
theorem Failing.results_effect
    (failing : Failing isClosed width capacity start reset client)
    {action : PipedAction Req Rsp} {requests : List (RequestPc Req Rsp)}
    {tx : ChannelCore.Channel (Request Req) Reset}
    (effect : Effect width client action requests tx) (request : Nat)
    (result : Except Reset Rsp) (returned : requests[request]? = some (.returned result)) :
    start.requests[request]? = some (.returned result) ∨ result = .error reset ∨
      ∃ body, start.answers request = some body ∧ result = .ok body := by
  have before := failing.results request result
  cases effect with
  | still | closes => exact before returned
  | request =>
      rcases lt_or_ge request client.requests.length with inside | outside
      · rw [List.getElem?_append_left inside] at returned
        exact before returned
      · rw [List.getElem?_append_right outside, List.getElem?_singleton] at returned
        split at returned <;> cases returned
  | observed allowed stepTo =>
      rw [List.getElem?_map, Option.map_eq_some_iff] at returned
      obtain ⟨pc, was, observed⟩ := returned
      rcases RequestPc.observe_eq_returned observed with rfl | ⟨call, reason, answered, rfl⟩
      · exact before was
      · have read := ((ChannelCore.step_transition stepTo).reservation call).2.2 _ answered
        rw [read, failing.shut.reason]
        exact .inr (.inl rfl)
  | @moved mover pc pc' _ found move =>
      by_cases same : mover = request
      · subst same
        rw [List.getElem?_set_self (List.getElem?_eq_some_iff.mp found).1] at returned
        cases returned
        cases move with
        | answer answered =>
            rw [failing.answers] at answered
            exact .inr (.inr ⟨_, answered, rfl⟩)
        | @tell permit own =>
            have read := failing.told permit own (List.mem_of_getElem? found)
            rw [failing.shut.reason] at read
            cases read
            exact .inr (.inl rfl)
      · rw [List.getElem?_set_ne same] at returned
        exact before returned
  | @cancelled dropped pc found =>
      by_cases same : dropped = request
      · subst same
        rw [List.getElem?_set_self (List.getElem?_eq_some_iff.mp found).1] at returned
        cases returned
      · rw [List.getElem?_set_ne same] at returned
        exact before returned

/-- The sites where a request may use its call, in every run that overtakes nobody. -/
theorem refusing_of_sound (sound : client.Sound isClosed width capacity) (request : Nat)
    (pc : RequestPc Req Rsp) (call : Nat) (found : client.requests[request]? = some pc)
    (refused : pc.refusedBy = some call) :
    ChannelCore.TaskAt client.tx.tasks call ChannelCore.Pc.Refusing :=
  ((sound.requests request pc found).refused call refused).2

/-- From a client that has been shut down, the steps of each request are paid from its
rank. -/
theorem failing_ranked (lawful : waitMap.Lawful) (closes : waitMap.Closes isClosed)
    (ends : waitMap.Ends isClosed) (request : Nat) :
    Ranked (PipedClient.step bits width) (InOrder isClosed)
      (owns request) (Failing isClosed width capacity start reset) (rank request) where
  kept {client next action events} failing inOrder stepTo := by
    have move := step_move stepTo
    have effect := step_effect stepTo
    have sound := failing.sound.move lawful closes inOrder move
    obtain ⟨past, ran⟩ := failing.sound.ran
    exact {
      sound := sound
      linked := failing.linked.step effect (refusing_of_sound sound)
      told := failing.told.step ran effect
      closed := move.closed_kept closes failing.closed
      shut := effect.shut ran failing.shut
      answers := (move.answers_kept (failing.sound.holding failing.closed)).trans failing.answers
      results := failing.results_effect effect }
  pays {client next action events} failing inOrder stepTo := by
    have sound := failing.sound.move lawful closes inOrder (step_move stepTo)
    exact (step_effect stepTo).pays failing.linked failing.shut ends failing.closed
      sound.unpanicked.requests request

/-- What holds of the client in every run that overtakes nobody. -/
structure Attached (isClosed : waitMap.Map → Bool) (width : PointerWidth) (capacity : Nat)
    (client : PipedClient waitMap Req Rsp) : Prop where
  sound : client.Sound isClosed width capacity
  linked : Linked client.requests client.tx
  told : Told client.requests client.tx
  closesMap : client.ClosesMap isClosed

theorem attached_of_run (lawful : waitMap.Lawful) (closes : waitMap.Closes isClosed)
    {responseCapacity : Nat} {history : List (PipedEvent Req Rsp)}
    (run : Run (PipedClient.step bits width) (InOrder isClosed)
      (PipedClient.new waitMap Req Rsp width capacity responseCapacity) history client) :
    client.Attached isClosed width capacity := by
  refine run.stateInvariant (fun client => client.Attached isClosed width capacity) ?_ ?_
  · exact {
      sound := sound_new lawful closes responseCapacity
      linked := linked_new responseCapacity
      told := fun _ _ member => by cases member
      closesMap := ⟨fun _ member => (by cases member), fun done => by cases done⟩ }
  · intro events client next action attached inOrder stepTo
    have move := step_move stepTo
    have effect := step_effect stepTo
    have sound := attached.sound.move lawful closes inOrder move
    obtain ⟨past, ran⟩ := attached.sound.ran
    exact {
      sound := sound
      linked := attached.linked.step effect (refusing_of_sound sound)
      told := attached.told.step ran effect
      closesMap := attached.closesMap.move closes move }

/-- What becomes of a request after `start`, once it has taken that many steps of its
own. -/
structure Ending (isClosed : waitMap.Map → Bool) (bits : Nat) (width : PointerWidth)
    (start : PipedClient waitMap Req Rsp) (reset : Reset) (request : Nat)
    (client : PipedClient waitMap Req Rsp) (taken : Nat) : Prop where
  few : taken ≤ 15
  moves : client.outstanding request →
    ∃ action, owns request client action = true ∧ client.InOrder isClosed action ∧
      (client.step bits width action).isSome = true
  results : ∀ result : Except Reset Rsp, client.requests[request]? = some (.returned result) →
    start.requests[request]? = some (.returned result) ∨ result = .error reset ∨
      ∃ body, start.answers request = some body ∧ result = .ok body

/-- `Client::shutdown` fails every request.  Once it has returned, and the elected
`close_with_error` of the request channel has, every request ends after at most 15 steps
of its own, can always take one until it ends, and returns the error of the request
channel or a response that it had been given before.  So does every request that is made
later. -/
theorem shutdown_ends_requests (lawful : waitMap.Lawful) (closes : waitMap.Closes isClosed)
    (ends : waitMap.Ends isClosed) {responseCapacity : Nat}
    {history : List (PipedEvent Req Rsp)}
    (run : Run (PipedClient.step bits width) (InOrder isClosed)
      (PipedClient.new waitMap Req Rsp width capacity responseCapacity) history start)
    (shutDown : start.hasShutDown) {winner : Nat}
    (elected : .tx (.closeResult winner true) ∈ history) :
    ∃ reset, start.tx.core.closeReason = some reset ∧
      ∀ request later final taken,
        Run (tallied (owns request) (PipedClient.step bits width))
          (uncounted (InOrder isClosed)) (start, 0) later (final, taken) →
        Ending isClosed bits width start reset request final taken := by
  have attached := attached_of_run lawful closes run
  obtain ⟨past, ran, shown⟩ := txRun_of_run run
  obtain ⟨reset, shut⟩ := ChannelCore.shut_of_closed ran (shown _ elected)
  have failing : Failing isClosed width capacity start reset start := {
    sound := attached.sound
    linked := attached.linked
    told := attached.told
    closed := attached.closesMap.of_hasShutDown shutDown
    shut := shut
    answers := rfl
    results := fun _ _ returned => .inl returned }
  refine ⟨reset, shut.reason, fun request later final taken run => ?_⟩
  obtain ⟨still, bounded⟩ := (failing_ranked lawful closes ends request).run failing run
  have most : start.rank request ≤ 15 := by
    unfold rank rankOf
    split
    · exact RequestPc.rank_le _ _
    · exact Nat.le_refl _
  exact {
    few := by
      dsimp only at bounded
      omega
    moves := still.sound.exists_own_step still.linked still.shut ends still.closed
    results := still.results request }

end PipedClient

theorem WaitMap.table_ends : WaitMap.table.Ends WaitMap.tableClosed where
  enqueue {map key waiter} closed := by
    simp only [WaitMap.tableClosed, WaitMap.table] at closed ⊢
    simp [closed]
  poll {map waiter} closed := by
    simp only [WaitMap.tableClosed, WaitMap.table] at closed ⊢
    simp [closed]

namespace PipedClient

/-- One request waits for its response and another for a place in the channel when
`shutdown` runs to its end. -/
def shutsDown : List (PipedAction Nat Nat) :=
  [.request 10, .tx (.run 0), .tx (.allocate 0 0), .runRequest 0, .runRequest 0,
    .runRequest 0, .runRequest 0, .tx (.run 0), .tx (.run 0), .tx (.run 0), .tx (.run 0),
    .tx (.run 0), .request 20, .tx (.run 1), .tx (.run 1), .startDispatch, .startShutdown,
    .runShutdown 0, .runShutdown 0, .tx (.run 2), .tx (.run 2), .tx (.run 2), .tx (.run 2),
    .tx (.run 2), .tx (.run 2), .tx (.run 2), .runShutdown 0, .rx (.run 0), .rx (.run 0),
    .rx (.run 0), .rx (.run 0), .rx (.run 0), .rx (.run 0), .rx (.run 0), .runShutdown 0]

/-- Both requests go on, and a third one is made. -/
def goesOn : List (PipedAction Nat Nat) :=
  [.tx (.run 1), .runRequest 0, .request 30, .tx (.run 3), .tx (.run 1), .tx (.run 4),
    .tx (.run 3), .tx (.run 4), .runRequest 0]

/-- Whether the request channel has been closed by this call of `close_with_error`. -/
def closedBy (call : Nat) (history : List (PipedEvent Nat Nat)) : Bool :=
  history.any fun
    | .tx (.closeResult task closed) => closed && task == call
    | _ => false

theorem closedBy_iff {call : Nat} {history : List (PipedEvent Nat Nat)}
    (closed : closedBy call history = true) : .tx (.closeResult call true) ∈ history := by
  obtain ⟨event, member, closes⟩ := List.any_eq_true.mp closed
  split at closes
  · rename_i task answer
    obtain ⟨rfl, same⟩ := Bool.and_eq_true_iff.mp closes
    rwa [beq_iff_eq.mp same] at member
  · cases closes

/-- The steps of the first request after `shutdown`, and what all requests return. -/
def aftermath (client : PipedClient WaitMap.table Nat Nat) :
    Option (Nat × List (Option Reset)) :=
  (exec (tallied (owns 0) (PipedClient.step 64 .bits64))
    (uncounted (InOrder WaitMap.tableClosed)) (client, 0) goesOn).map fun outcome =>
      (outcome.1.2, outcome.1.1.resetsOf)

theorem shutdown_ends_requests_asleep :
    ∃ history start later final,
      Run (PipedClient.step 64 .bits64) (InOrder WaitMap.tableClosed)
        (PipedClient.new WaitMap.table Nat Nat .bits64 1 1) history start ∧
      start.resetsOf = [none, none] ∧
      Run (tallied (owns 0) (PipedClient.step 64 .bits64))
        (uncounted (InOrder WaitMap.tableClosed)) (start, 0) later (final, 4) ∧
      final.resetsOf = [some .becauseISaidSo, some .becauseISaidSo, some .becauseISaidSo] ∧
      ∃ reset, start.tx.core.closeReason = some reset ∧
        Ending WaitMap.tableClosed 64 .bits64 start reset 0 final 4 := by
  obtain ⟨history, start, run, ends⟩ := exists_run_of_exec (PipedClient.step 64 .bits64)
    (InOrder WaitMap.tableClosed) (PipedClient.new WaitMap.table Nat Nat .bits64 1 1) shutsDown
    (fun (client, history) => ((client.resetsOf, aftermath client),
      client.shutdowns.any ClosePc.done && closedBy 2 history))
    (show _ = some (([none, none],
      some (4, [some .becauseISaidSo, some .becauseISaidSo, some .becauseISaidSo])), true) by
        decide +kernel)
  obtain ⟨⟨waiting, after⟩, returned, closed⟩ := by
    simpa only [Prod.mk.injEq, Bool.and_eq_true, List.any_eq_true] using ends
  obtain ⟨⟨⟨final, taken⟩, later⟩, ran, told⟩ := Option.map_eq_some_iff.mp after
  obtain ⟨rfl, resets⟩ : taken = 4 ∧ final.resetsOf = _ := Prod.mk.inj told
  have shutDown : start.hasShutDown := by
    obtain ⟨pc, member, done⟩ := returned
    cases pc with
    | closed reset => exact ⟨reset, .inl member⟩
    | _ => cases done
  obtain ⟨reset, reason, all⟩ := shutdown_ends_requests WaitMap.table_lawful
    WaitMap.table_closes WaitMap.table_ends run shutDown (closedBy_iff closed)
  have continued := run_of_exec ran
  exact ⟨history, start, later, final, run, waiting, continued, resets, reset, reason,
    all 0 later final 4 continued⟩

end PipedClient

end ReqRsp

end Calliope

end Mgnp
