import Mgnp.ChannelRefusals
import Mgnp.PipedClientTransitions
import Mgnp.ReqRspAnswers

/-!
# When the client panics

`Client::request` panics when it is told that the wait map is closed and then
does not find its channel closed with an error, and `Client::dispatch` panics
when it finds the wait map closed.  Both count on the order in which `shutdown`
and `dispatch` close things.  That order does not help against a reset that has
been elected on the request channel and is still on its way, since the client's
own `close_with_error` returns at once, nor against a response that the
dispatcher takes while `shutdown` closes the wait map.  Nothing else can go
wrong.
-/

namespace Mgnp

namespace Calliope

namespace ReqRsp

open LabelledRuns PositionWord

variable {waitMap : WaitMap} {Req Rsp : Type*} {bits : Nat} {width : PointerWidth}
  {capacity : Nat}

/-- What the client relies on when the wait map may have been closed. -/
structure WaitMap.Closes (waitMap : WaitMap) (isClosed : waitMap.Map → Bool) : Prop where
  new : isClosed waitMap.new = false
  enqueue : ∀ {map next key waiter}, waitMap.enqueue map key waiter = .ok next →
    isClosed next = isClosed map
  /-- A waiter that is not in the map fails to enter it only when its key is in use. -/
  enqueueOpen : ∀ {map key waiter error}, isClosed map = false →
    (∀ other, waitMap.waiter map other ≠ some waiter) →
    waitMap.enqueue map key waiter = .error error → error = .duplicate
  enqueueClosed : ∀ {map key waiter error}, isClosed map = true →
    waitMap.enqueue map key waiter = .error error → error = .closed
  wake : ∀ {map next key waiter}, waitMap.wake map key = .woke waiter next →
    isClosed next = isClosed map
  wakeOpen : ∀ {map key}, isClosed map = false → waitMap.wake map key ≠ .closed
  drop : ∀ {map waiter}, isClosed (waitMap.drop map waiter) = isClosed map
  close : ∀ {map}, isClosed (waitMap.close map) = true
  /-- A waiter goes on waiting while it is in the map. -/
  pollOpen : ∀ {map key waiter}, isClosed map = false →
    waitMap.waiter map key = some waiter → waitMap.poll map waiter = none
  pollClosed : ∀ {map waiter error}, isClosed map = true →
    waitMap.poll map waiter = some error → error = .closed

/-- `close_with_error` of the request channel has returned. -/
def ClosePc.elected : ClosePc → Bool
  | .rx _ | .closingRx _ _ | .map _ | .closed _ => true
  | .cell | .tx _ | .closingTx _ _ => false

section Observing

variable {T : Type*}

theorem ClosePc.elected_observeTx {pc : ClosePc}
    {events : List (ChannelCore.Event T Reset)}
    (elected : (events.foldl ClosePc.observeTx pc).elected = true) :
    pc.elected = true ∨ ∃ call closed, .closeResult call closed ∈ events := by
  induction events generalizing pc with
  | nil => exact .inl elected
  | cons event events ih =>
      rcases ih elected with first | ⟨call, closed, answered⟩
      · cases pc with
        | closingTx reset call =>
            cases event with
            | closeResult task closed => exact .inr ⟨task, closed, List.mem_cons_self⟩
            | _ => exact .inl first
        | _ => exact .inl first
      · exact .inr ⟨call, closed, List.mem_cons_of_mem _ answered⟩

theorem ClosePc.elected_observeRx (pc : ClosePc) (events : List (ChannelCore.Event T Reset)) :
    (events.foldl ClosePc.observeRx pc).elected = pc.elected := by
  induction events generalizing pc with
  | nil => rfl
  | cons event events ih =>
      rw [List.foldl_cons, ih]
      cases pc with
      | closingRx reset call =>
          cases event with
          | closeResult task closed =>
              simp only [ClosePc.observeRx]
              split <;> rfl
          | _ => rfl
      | _ => rfl

theorem DispatchPc.observeTx_closing (close : ClosePc)
    (events : List (ChannelCore.Event T Reset)) :
    events.foldl DispatchPc.observeTx (.closing close : DispatchPc Rsp) =
      .closing (events.foldl ClosePc.observeTx close) := by
  induction events generalizing close with
  | nil => rfl
  | cons event events ih => exact ih (close.observeTx event)

theorem DispatchPc.observeTx_other {pc : DispatchPc Rsp} (other : ∀ close, pc ≠ .closing close)
    (events : List (ChannelCore.Event T Reset)) :
    events.foldl DispatchPc.observeTx pc = pc := by
  have still (event : ChannelCore.Event T Reset) : pc.observeTx event = pc := by
    cases pc with
    | closing close => exact absurd rfl (other close)
    | _ => rfl
  induction events with
  | nil => rfl
  | cons event events ih => rw [List.foldl_cons, still, ih]

/-- A dispatcher that has not just received a response does not hold one. -/
theorem DispatchPc.holds_observeRx {pc : DispatchPc Rsp}
    {events : List (ChannelCore.Event (Response Rsp) Reset)} (free : pc.holds = false)
    (unreceived : ∀ idx message, .received idx message ∉ events) :
    (events.foldl DispatchPc.observeRx pc).holds = false := by
  induction events generalizing pc with
  | nil => exact free
  | cons event events ih =>
      refine ih ?_ fun idx message received =>
        unreceived idx message (List.mem_cons_of_mem _ received)
      cases event with
      | received idx message => exact absurd List.mem_cons_self (unreceived idx message)
      | recvClosed reason => cases pc <;> cases reason <;> first | rfl | exact free
      | _ => cases pc <;> first | rfl | exact free

theorem DispatchPc.observeRx_calm {pc : DispatchPc Rsp}
    (events : List (ChannelCore.Event (Response Rsp) Reset))
    (calm : ∀ message, pc ≠ .panicked message) (message : String) :
    events.foldl DispatchPc.observeRx pc ≠ .panicked message := by
  induction events generalizing pc with
  | nil => exact calm message
  | cons event events ih =>
      refine ih fun text => ?_
      cases pc with
      | panicked own => exact absurd rfl (calm own)
      | receiving =>
          cases event with
          | received idx message => cases message <;> simp [DispatchPc.observeRx]
          | recvClosed reason => cases reason <;> simp [DispatchPc.observeRx]
          | _ => simp [DispatchPc.observeRx]
      | _ => simp [DispatchPc.observeRx]

/-- What a dispatcher closes after a step of the response channel had been closed
as far on the request channel before. -/
theorem DispatchPc.elected_observeRx {pc : DispatchPc Rsp} {close : ClosePc}
    {events : List (ChannelCore.Event (Response Rsp) Reset)}
    (closes : events.foldl DispatchPc.observeRx pc = .closing close)
    (elected : close.elected = true) :
    ∃ before, pc = .closing before ∧ before.elected = true := by
  induction events generalizing pc with
  | nil => exact ⟨close, closes, elected⟩
  | cons event events ih =>
      obtain ⟨before, observed, wasElected⟩ := ih closes
      cases pc with
      | closing own =>
          simp only [DispatchPc.observeRx, DispatchPc.closing.injEq] at observed
          subst observed
          have same := ClosePc.elected_observeRx own [event]
          exact ⟨own, rfl, same.symm.trans wasElected⟩
      | receiving =>
          exfalso
          cases event with
          | received idx message => cases message <;> simp [DispatchPc.observeRx] at observed
          | recvClosed reason =>
              cases reason <;>
                simp only [DispatchPc.observeRx, DispatchPc.closing.injEq] at observed
              all_goals
                subst observed
                cases wasElected
          | _ => simp [DispatchPc.observeRx] at observed
      | _ => simp [DispatchPc.observeRx] at observed

variable {pc : RequestPc Req Rsp} {events : List (ChannelCore.Event (Request Req) Reset)}

theorem RequestPc.registered_observe (pc : RequestPc Req Rsp)
    (events : List (ChannelCore.Event (Request Req) Reset)) :
    (events.foldl RequestPc.observe pc).registered = pc.registered := by
  induction events generalizing pc with
  | nil => rfl
  | cons event events ih =>
      rw [List.foldl_cons, ih]
      cases pc <;> simp only [RequestPc.observe]
      all_goals
        split <;> rfl

theorem RequestPc.calm_observe (calm : pc.calm = true) :
    (events.foldl RequestPc.observe pc).calm = true := by
  induction events generalizing pc with
  | nil => exact calm
  | cons event events ih =>
      refine ih ?_
      cases pc <;> simp only [RequestPc.observe]
      all_goals first | exact calm | (split <;> first | rfl | exact calm)

/-- A refused request goes on only when its call is answered. -/
theorem RequestPc.observe_refused {permit : Option Nat} {call : Nat}
    (unanswered : ∀ event ∈ events, reserveResult call event = none) :
    events.foldl RequestPc.observe (.refused permit call : RequestPc Req Rsp) =
      .refused permit call := by
  induction events with
  | nil => rfl
  | cons event events ih =>
      rw [List.foldl_cons, RequestPc.observe, unanswered event List.mem_cons_self]
      exact ih fun other member => unanswered other (List.mem_cons_of_mem _ member)

theorem RequestPc.observe_refusal {permit : Option Nat} {reserved : Except TrySendError Unit}
    (events : List (ChannelCore.Event (Request Req) Reset)) :
    events.foldl RequestPc.observe (.refusal permit reserved : RequestPc Req Rsp) =
      .refusal permit reserved := by
  induction events with
  | nil => rfl
  | cons event events ih => exact ih

end Observing

section Requests

variable {isClosed isClosed' : Bool} {tasks tasks' : List (ChannelCore.Task Reset)}
  {waiter waiter' : Nat → Option Nat} {answer answer' : Option Rsp} {request : Nat}
  {pc : RequestPc Req Rsp}

/-- A request knows whether the wait map is closed, and its waiter is in an open
one until it gets a value. -/
structure RequestPc.Sound (isClosed : Bool) (tasks : List (ChannelCore.Task Reset))
    (waiter : Nat → Option Nat) (answer : Option Rsp) (request : Nat)
    (pc : RequestPc Req Rsp) : Prop where
  refused : ∀ call, pc.refusedBy = some call →
    isClosed = true ∧ ChannelCore.TaskAt tasks call ChannelCore.Pc.Refusing
  refusal : ∀ permit reserved, pc = .refusal permit reserved →
    ∃ reset, reserved = .error (.error reset)
  registered : ∀ key, pc.registered = some key → isClosed = false → answer = none →
    waiter key = some request
  calm : ∀ message, pc ≠ .panicked message

theorem RequestPc.Sound.of_calm (calm : pc.calm = true)
    (registered : ∀ key, pc.registered = some key → isClosed = false → answer = none →
      waiter key = some request) : pc.Sound isClosed tasks waiter answer request where
  refused call refused := by
    cases pc with
    | refused permit own => cases calm
    | _ => cases refused
  refusal permit reserved refusal := by
    subst refusal
    cases calm
  registered := registered
  calm message panicked := by
    subst panicked
    cases calm

theorem RequestPc.Sound.of_refused {permit : Option Nat} {call : Nat} (closed : isClosed = true)
    (asks : ChannelCore.TaskAt tasks call ChannelCore.Pc.Refusing) :
    (.refused permit call : RequestPc Req Rsp).Sound isClosed tasks waiter answer request where
  refused other refused := by
    obtain rfl : call = other := Option.some.inj refused
    exact ⟨closed, asks⟩
  refusal permit reserved refusal := by cases refusal
  registered key registered := by cases registered
  calm message panicked := by cases panicked

theorem RequestPc.Sound.of_refusal {permit : Option Nat} (reset : Reset) :
    (.refusal permit (.error (.error reset)) : RequestPc Req Rsp).Sound isClosed tasks waiter
      answer request where
  refused call refused := by cases refused
  refusal permit reserved refusal := by
    cases refusal
    exact ⟨reset, rfl⟩
  registered key registered := by cases registered
  calm message panicked := by cases panicked

/-- The steps of others. -/
theorem RequestPc.Sound.mono (sound : pc.Sound isClosed tasks waiter answer request)
    (closes : isClosed = true → isClosed' = true)
    (refusing : ∀ call, ChannelCore.TaskAt tasks call ChannelCore.Pc.Refusing →
      ChannelCore.TaskAt tasks' call ChannelCore.Pc.Refusing)
    (unanswered : answer' = none → answer = none)
    (waits : ∀ key, isClosed' = false → answer' = none → waiter key = some request →
      waiter' key = some request) : pc.Sound isClosed' tasks' waiter' answer' request where
  refused call refused :=
    (sound.refused call refused).imp closes (refusing call)
  refusal := sound.refusal
  registered key registered isOpen none := by
    refine waits key isOpen none (sound.registered key registered ?_ (unanswered none))
    cases wasClosed : isClosed with
    | false => rfl
    | true => exact absurd (closes wasClosed) (by simp [isOpen])
  calm := sound.calm

end Requests

theorem OwnStep.refusing {T : Type*} {before after : ChannelCore.Channel T Reset}
    (own : OwnStep width before after) {call : Nat}
    (refusing : ChannelCore.TaskAt before.tasks call ChannelCore.Pc.Refusing) :
    ChannelCore.TaskAt after.tasks call ChannelCore.Pc.Refusing := by
  obtain ⟨action, events, stepTo, others⟩ := own
  exact ChannelCore.step_refusing stepTo refusing (others call)

/-- The step of a client that overtakes another one. -/
def PipedClient.races (isClosed : waitMap.Map → Bool) (client : PipedClient waitMap Req Rsp) :
    PipedAction Req Rsp → Bool
  -- A refused request asks for the error of a `close_with_error` that has been
  -- elected on the request channel, and is too early.
  | .tx (.run call) =>
      (client.requests.any fun pc => pc.refusedBy == some call) &&
        client.tx.overtakesError call
  -- The dispatcher has passed its check of `shutdown` and takes a response after
  -- the wait map has been closed.
  | .rx .runRx =>
      isClosed client.map &&
        match client.rx.rx with
        | .releasing _ _ => true
        | _ => false
  -- `shutdown` closes the wait map while the dispatcher holds a response.
  | .runShutdown shutdown =>
      match client.shutdowns[shutdown]? with
      | some (.map _) => client.dispatch.holds
      | _ => false
  | _ => false

/-- No step overtakes another one. -/
def PipedClient.InOrder (isClosed : waitMap.Map → Bool) (client : PipedClient waitMap Req Rsp)
    (action : PipedAction Req Rsp) : Prop :=
  client.races isClosed action = false

instance (isClosed : waitMap.Map → Bool) (client : PipedClient waitMap Req Rsp)
    (action : PipedAction Req Rsp) : Decidable (client.InOrder isClosed action) :=
  inferInstanceAs (Decidable (_ = _))

structure PipedClient.Sound (isClosed : waitMap.Map → Bool) (width : PointerWidth)
    (capacity : Nat) (client : PipedClient waitMap Req Rsp) : Prop where
  ran : ∃ history, Run (ChannelCore.step width) anyStep (.new width capacity) history client.tx
  electing : isClosed client.map = true → client.tx.core.state.erroring = true
  shutdowns : ∀ pc ∈ client.shutdowns, pc.elected = true →
    client.tx.core.state.erroring = true
  closing : ∀ pc, client.dispatch = .closing pc → pc.elected = true →
    client.tx.core.state.erroring = true
  requests : ∀ request (pc : RequestPc Req Rsp), client.requests[request]? = some pc →
    pc.Sound (isClosed client.map) client.tx.tasks (waitMap.waiter client.map)
      (client.answers request) request
  waiters : isClosed client.map = false → ∀ key request,
    waitMap.waiter client.map key = some request →
      ∃ pc, client.requests[request]? = some pc ∧ pc.registered = some key
  holding : isClosed client.map = true → client.dispatch.holds = false
  calm : ∀ message, client.dispatch ≠ .panicked message

namespace PipedClient

variable {isClosed : waitMap.Map → Bool} {client next : PipedClient waitMap Req Rsp}

theorem sound_new (lawful : waitMap.Lawful) (closes : waitMap.Closes isClosed)
    (responseCapacity : Nat) :
    (PipedClient.new waitMap Req Rsp width capacity responseCapacity).Sound isClosed width
      capacity where
  ran := ⟨[], .refl⟩
  electing isClosed := by
    rw [show (PipedClient.new waitMap Req Rsp width capacity responseCapacity).map = waitMap.new
      from rfl, closes.new] at isClosed
    contradiction
  shutdowns pc member := by cases member
  closing pc closing := by cases closing
  requests request pc found := by cases found
  waiters _ key request waits := by
    rw [show (PipedClient.new waitMap Req Rsp width capacity responseCapacity).map = waitMap.new
      from rfl, lawful.new] at waits
    cases waits
  holding _ := rfl
  calm message panicked := by cases panicked

/-- Setting the place of one request. -/
theorem requests_set {requests : List (RequestPc Req Rsp)} {request : Nat}
    {new : RequestPc Req Rsp} {before after : Nat → RequestPc Req Rsp → Prop}
    (facts : ∀ i pc, requests[i]? = some pc → before i pc)
    (others : ∀ i pc, i ≠ request → before i pc → after i pc) (moved : after request new) :
    ∀ i pc, (requests.set request new)[i]? = some pc → after i pc := by
  intro i pc found
  by_cases same : request = i
  · subst same
    rw [List.getElem?_set_self'] at found
    obtain ⟨_, _, rfl⟩ := Option.map_eq_some_iff.mp found
    exact moved
  · rw [List.getElem?_set_ne same] at found
    exact others i pc (Ne.symm same) (facts i pc found)

section Moves

variable {request : Nat} {pc pc' : RequestPc Req Rsp}
  {tx : ChannelCore.Channel (Request Req) Reset}

theorem Sound.ownStep (sound : client.Sound isClosed width capacity)
    (own : OwnStep width client.tx tx) :
    (∃ history, Run (ChannelCore.step width) anyStep (.new width capacity) history tx) ∧
      (client.tx.core.state.erroring = true → tx.core.state.erroring = true) := by
  obtain ⟨action, events, stepTo, -⟩ := own
  obtain ⟨history, ran⟩ := sound.ran
  exact ⟨⟨history ++ events, .tail ran trivial stepTo⟩,
    (ChannelCore.step_transition stepTo).erroring_kept⟩

/-- The client makes a step of the request channel itself. -/
theorem Sound.onTx (sound : client.Sound isClosed width capacity)
    (made : tx = client.tx ∨ OwnStep width client.tx tx) :
    ({ client with tx := tx } : PipedClient waitMap Req Rsp).Sound isClosed width capacity := by
  rcases made with rfl | own
  · exact sound
  · obtain ⟨ran, kept⟩ := sound.ownStep own
    exact {
      ran := ran
      electing := fun closed => kept (sound.electing closed)
      shutdowns := fun pc member elected => kept (sound.shutdowns pc member elected)
      closing := fun pc closing elected => kept (sound.closing pc closing elected)
      requests := fun request pc found => (sound.requests request pc found).mono id
        (fun _ => own.refusing) id fun _ _ _ => id
      waiters := sound.waiters
      holding := sound.holding
      calm := sound.calm }

/-- A request moves on while the wait map stays as it is. -/
theorem Sound.goto (sound : client.Sound isClosed width capacity)
    (found : client.requests[request]? = some pc)
    (moved : pc'.Sound (isClosed client.map) client.tx.tasks (waitMap.waiter client.map)
      (client.answers request) request)
    (same : isClosed client.map = false → pc'.registered = pc.registered) :
    (client.goto request pc').Sound isClosed width capacity where
  ran := sound.ran
  electing := sound.electing
  shutdowns := sound.shutdowns
  closing := sound.closing
  requests := requests_set sound.requests (fun _ _ _ => id) moved
  waiters isOpen key other waits := by
    obtain ⟨own, at_other, registered⟩ := sound.waiters isOpen key other waits
    by_cases is : request = other
    · subst is
      rw [found] at at_other
      cases at_other
      refine ⟨pc', ?_, (same isOpen).trans registered⟩
      exact List.getElem?_set_self (List.getElem?_eq_some_iff.mp found).1
    · exact ⟨own, (List.getElem?_set_ne is).trans at_other, registered⟩
  holding := sound.holding
  calm := sound.calm

/-- A request drops its `wait` future. -/
theorem Sound.leave (sound : client.Sound isClosed width capacity) (lawful : waitMap.Lawful)
    (closes : waitMap.Closes isClosed) (calm : pc'.calm = true)
    (unregistered : pc'.registered = none) :
    (client.leave request pc').Sound isClosed width capacity where
  ran := sound.ran
  electing closed := sound.electing (closes.drop.symm.trans closed)
  shutdowns := sound.shutdowns
  closing := sound.closing
  requests := by
    refine requests_set sound.requests (fun i pc ne before => before.mono ?_ (fun _ => id) id ?_) ?_
    · exact closes.drop.trans
    · intro key _ _ waits
      rw [PipedClient.leave, lawful.drop, if_neg, waits]
      rw [waits]
      simpa using ne
    · refine .of_calm calm fun key registered => ?_
      rw [unregistered] at registered
      cases registered
  waiters isOpen key other waits := by
    rw [PipedClient.leave, lawful.drop] at waits
    split at waits
    · cases waits
    · rename_i others
      obtain ⟨own, at_other, registered⟩ :=
        sound.waiters (closes.drop.symm.trans isOpen) key other waits
      have ne : request ≠ other := by
        rintro rfl
        exact others waits
      exact ⟨own, (List.getElem?_set_ne ne).trans at_other, registered⟩
  holding closed := sound.holding (closes.drop.symm.trans closed)
  calm := sound.calm

theorem Sound.enqueued (sound : client.Sound isClosed width capacity)
    (lawful : waitMap.Lawful) (closes : waitMap.Closes isClosed) {body : Req}
    {permit seq : Nat} {map : waitMap.Map}
    (found : client.requests[request]? = some (.enqueuing body permit seq))
    (enqueue : waitMap.enqueue client.map seq request = .ok map) :
    ({ client.goto request (.writing body permit seq) with map := map } :
      PipedClient waitMap Req Rsp).Sound isClosed width capacity := by
  have same := closes.enqueue enqueue
  obtain ⟨free, waiter⟩ := lawful.enqueue enqueue
  exact {
    ran := sound.ran
    electing := fun closed => sound.electing (same.symm.trans closed)
    shutdowns := sound.shutdowns
    closing := sound.closing
    requests := by
      refine requests_set sound.requests
        (fun i own ne before => before.mono same.trans (fun _ => id) id ?_) ?_
      · intro key _ _ waits
        have other : key ≠ seq := by
          rintro rfl
          rw [free] at waits
          cases waits
        exact (congrFun waiter key).trans ((Function.update_of_ne other ..).trans waits)
      · refine .of_calm rfl fun key registered _ _ => ?_
        obtain rfl : seq = key := Option.some.inj registered
        exact (congrFun waiter seq).trans (Function.update_self ..)
    waiters := by
      intro isOpen key other waits
      replace waits := (congrFun waiter key).symm.trans waits
      by_cases own : key = seq
      · subst own
        rw [Function.update_self] at waits
        cases waits
        exact ⟨_, List.getElem?_set_self (List.getElem?_eq_some_iff.mp found).1, rfl⟩
      · rw [Function.update_of_ne own] at waits
        obtain ⟨pc, at_other, registered⟩ := sound.waiters (same.symm.trans isOpen) key other waits
        have ne : request ≠ other := by
          rintro rfl
          rw [found] at at_other
          cases at_other
          cases registered
        exact ⟨pc, (List.getElem?_set_ne ne).trans at_other, registered⟩
    holding := fun closed => sound.holding (same.symm.trans closed)
    calm := sound.calm }

/-- A wait map that refuses a request has been closed. -/
theorem Sound.closed_of_refuses (sound : client.Sound isClosed width capacity)
    (closes : waitMap.Closes isClosed) (found : client.requests[request]? = some pc)
    (why : Refuses client request pc) : isClosed client.map = true := by
  by_contra isOpen
  have isOpen := Bool.eq_false_of_not_eq_true isOpen
  cases why with
  | @enqueue body permit seq failed =>
      have fresh : ∀ other, waitMap.waiter client.map other ≠ some request := by
        intro other waits
        obtain ⟨own, at_request, registered⟩ := sound.waiters isOpen other request waits
        rw [found] at at_request
        cases at_request
        cases registered
      cases closes.enqueueOpen isOpen fresh failed
  | @poll seq unanswered failed =>
      have waits := (sound.requests request _ found).registered seq rfl isOpen unanswered
      rw [closes.pollOpen isOpen waits] at failed
      cases failed

/-- No request panics. -/
theorem Sound.not_panics (sound : client.Sound isClosed width capacity)
    (closes : waitMap.Closes isClosed) (found : client.requests[request]? = some pc) :
    ¬ Panics client request pc := by
  intro why
  cases why with
  | @enqueue body permit seq error failed isOther fresh =>
      cases isOpen : isClosed client.map with
      | true => exact isOther (closes.enqueueClosed isOpen failed)
      | false =>
          refine fresh (closes.enqueueOpen isOpen (fun other waits => ?_) failed)
          obtain ⟨own, at_request, registered⟩ := sound.waiters isOpen other request waits
          rw [found] at at_request
          cases at_request
          cases registered
  | @poll seq error unanswered failed isOther =>
      cases isOpen : isClosed client.map with
      | true => exact isOther (closes.pollClosed isOpen failed)
      | false =>
          have waits := (sound.requests request _ found).registered seq rfl isOpen unanswered
          rw [closes.pollOpen isOpen waits] at failed
          cases failed
  | @refusal permit reserved unexplained =>
      obtain ⟨reset, explained⟩ := (sound.requests request _ found).refusal permit reserved rfl
      exact unexplained reset explained

/-- A refused request asks for the error of its channel. -/
theorem Sound.refused (sound : client.Sound isClosed width capacity)
    (closes : waitMap.Closes isClosed) {permit : Option Nat}
    (found : client.requests[request]? = some pc) (why : Refuses client request pc)
    (reserve : ChannelCore.step width client.tx (.reserve 0 false) = some (tx, [])) :
    ({ client.goto request (.refused permit client.tx.tasks.length) with tx := tx } :
      PipedClient waitMap Req Rsp).Sound isClosed width capacity := by
  have wasClosed := sound.closed_of_refuses closes found why
  have asks : ChannelCore.TaskAt tx.tasks client.tx.tasks.length ChannelCore.Pc.Refusing := by
    obtain ⟨-, spawned⟩ := Option.ite_none_right_eq_some.mp reserve
    cases spawned
    exact ChannelCore.taskAt_append.mpr (.inr ⟨rfl, rfl⟩)
  have called := sound.onTx (.inr ⟨_, _, reserve, by simp⟩)
  refine called.goto found ?_ fun isOpen => ?_
  · exact .of_refused wasClosed asks
  · rw [wasClosed] at isOpen
    cases isOpen

theorem Sound.woke (sound : client.Sound isClosed width capacity)
    (lawful : waitMap.Lawful) (closes : waitMap.Closes isClosed) {response : Response Rsp}
    {waiter : Nat} {map : waitMap.Map}
    (wake : waitMap.wake client.map response.seq = .woke waiter map) :
    ({ client with
        map := map
        answers := Function.update client.answers waiter (some response.body)
        dispatch := .selecting } : PipedClient waitMap Req Rsp).Sound isClosed width capacity := by
  have same := closes.wake wake
  obtain ⟨registered, remaining⟩ := lawful.wake wake
  exact {
    ran := sound.ran
    electing := fun closed => sound.electing (same.symm.trans closed)
    shutdowns := sound.shutdowns
    closing := fun pc closing => by cases closing
    requests := by
      intro i pc found
      have unanswered : Function.update client.answers waiter (some response.body) i = none →
          i ≠ waiter ∧ client.answers i = none := by
        intro none
        by_cases woken : i = waiter
        · subst woken
          rw [Function.update_self] at none
          cases none
        · exact ⟨woken, by rwa [Function.update_of_ne woken] at none⟩
      refine (sound.requests i pc found).mono same.trans (fun _ => id)
        (fun none => (unanswered none).2) ?_
      intro key _ none waits
      have other : key ≠ response.seq := by
        rintro rfl
        rw [registered] at waits
        exact (unanswered none).1 (Option.some.inj waits).symm
      exact (congrFun remaining key).trans ((Function.update_of_ne other ..).trans waits)
    waiters := by
      intro isOpen key i waits
      replace waits := (congrFun remaining key).symm.trans waits
      have other : key ≠ response.seq := by
        rintro rfl
        rw [Function.update_self] at waits
        cases waits
      rw [Function.update_of_ne other] at waits
      exact sound.waiters (same.symm.trans isOpen) key i waits
    holding := fun _ => rfl
    calm := by simp }

/-- The dispatcher finds the wait map open. -/
theorem Sound.not_wakeClosed (sound : client.Sound isClosed width capacity)
    (closes : waitMap.Closes isClosed) {response : Response Rsp}
    (at_wake : client.dispatch = .waking response) :
    waitMap.wake client.map response.seq ≠ .closed := by
  refine closes.wakeOpen ?_
  by_contra closed
  have free := sound.holding (Bool.eq_true_of_not_eq_false closed)
  rw [at_wake] at free
  cases free

/-- The dispatcher moves on, and may use the response channel. -/
theorem Sound.dispatch (sound : client.Sound isClosed width capacity)
    {rx : ChannelCore.Channel (Response Rsp) Reset} {pc : DispatchPc Rsp}
    (calm : pc.calm = true) :
    ({ client with rx := rx, dispatch := pc } : PipedClient waitMap Req Rsp).Sound isClosed
      width capacity where
  ran := sound.ran
  electing := sound.electing
  shutdowns := sound.shutdowns
  closing close closing := by
    subst closing
    cases calm
  requests := sound.requests
  waiters := sound.waiters
  holding _ := by
    cases pc with
    | waking response => cases calm
    | _ => rfl
  calm message panicked := by
    subst panicked
    cases calm

end Moves

section Closing

/-- A call that closes the client makes a step, before whoever made the call
moves on. -/
theorem Sound.closes (sound : client.Sound isClosed width capacity)
    (closes : waitMap.Closes isClosed) {pc pc' : ClosePc}
    (move : CloseMove width client pc next pc')
    (wasElected : pc.elected = true → client.tx.core.state.erroring = true)
    (free : ∀ reset, pc = .map reset → client.dispatch.holds = false) :
    next.Sound isClosed width capacity ∧
      (pc'.elected = true → next.tx.core.state.erroring = true) := by
  cases move with
  | cell => exact ⟨{ sound with }, by simp [ClosePc.elected]⟩
  | tx made => exact ⟨sound.onTx (.inr made), by simp [ClosePc.elected]⟩
  | rx => exact ⟨{ sound with }, fun _ => wasElected rfl⟩
  | @map reset =>
      refine ⟨?_, fun _ => wasElected rfl⟩
      have isClosed' : isClosed (waitMap.close client.map) = true := closes.close
      exact {
        ran := sound.ran
        electing := fun _ => wasElected rfl
        shutdowns := sound.shutdowns
        closing := sound.closing
        requests := fun i pc found => (sound.requests i pc found).mono (fun _ => isClosed')
          (fun _ => id) id fun key isOpen => absurd (isClosed'.symm.trans isOpen) (by simp)
        waiters := fun isOpen => absurd (isClosed'.symm.trans isOpen) (by simp)
        holding := fun _ => free reset rfl
        calm := sound.calm }

end Closing

section Channels

variable {tx : ChannelCore.Channel (Request Req) Reset}
  {rx : ChannelCore.Channel (Response Rsp) Reset}

/-- A request after a step of the request channel that overtakes nobody. -/
theorem Sound.observe (sound : client.Sound isClosed width capacity)
    {action : ChannelCore.Action (Request Req) Reset}
    {events : List (ChannelCore.Event (Request Req) Reset)}
    (inOrder : client.InOrder isClosed (.tx action))
    (stepTo : ChannelCore.step width client.tx action = some (tx, events))
    {request : Nat} {pc : RequestPc Req Rsp} (found : client.requests[request]? = some pc) :
    (events.foldl RequestPc.observe pc).Sound (isClosed client.map) tx.tasks
      (waitMap.waiter client.map) (client.answers request) request := by
  have before := sound.requests request pc found
  have calmly (calm : pc.calm = true) :
      (events.foldl RequestPc.observe pc).Sound (isClosed client.map) tx.tasks
        (waitMap.waiter client.map) (client.answers request) request :=
    .of_calm (RequestPc.calm_observe calm) fun key registered =>
      before.registered key ((RequestPc.registered_observe pc events).symm.trans registered)
  cases pc with
  | refused permit call =>
      obtain ⟨closed, refusing⟩ := before.refused call rfl
      by_cases own : action = .run call
      · subst own
        have patient : client.tx.overtakesError call = false := by
          have asks : (client.requests.any fun pc => pc.refusedBy == some call) = true :=
            List.any_eq_true.mpr ⟨_, List.mem_of_getElem? found, by simp [RequestPc.refusedBy]⟩
          simpa [InOrder, races, asks] using inOrder
        obtain ⟨history, ran⟩ := sound.ran
        cases ChannelCore.election_run ran with
        | pending waiting =>
            rw [sound.electing closed] at waiting
            cases waiting
        | @decided winner error erroring made elected =>
            rcases elected.refusal_run refusing patient stepTo with ⟨still, rfl⟩ | rfl
            · exact .of_refused closed still
            · have answered : [ChannelCore.Event.sendClosed call (some error)].foldl
                  RequestPc.observe (.refused permit call : RequestPc Req Rsp) =
                  .refusal permit (.error (.error error)) := by
                simp [RequestPc.observe, reserveResult]
              rw [answered]
              exact .of_refusal error
      · obtain ⟨unreserved, unfull, unclosed⟩ :=
          ChannelCore.step_unanswered stepTo refusing own
        have unanswered : ∀ event ∈ events, reserveResult call event = none := by
          intro event member
          have isOther {task : Nat} {other : Option (Except TrySendError Unit)}
              (ne : task ≠ call) : (if task = call then other else none) = none := if_neg ne
          cases event with
          | reserved task idx => exact isOther fun same => unreserved idx (by rwa [same] at member)
          | full task => exact isOther fun same => unfull (by rwa [same] at member)
          | sendClosed task reason =>
              cases reason with
              | none => exact isOther fun same => unclosed _ (by rwa [same] at member)
              | some reset => exact isOther fun same => unclosed _ (by rwa [same] at member)
          | _ => rfl
        rw [RequestPc.observe_refused unanswered]
        exact .of_refused closed (ChannelCore.step_refusing stepTo refusing own)
  | refusal permit reserved =>
      obtain ⟨reset, rfl⟩ := before.refusal permit reserved rfl
      rw [RequestPc.observe_refusal]
      exact .of_refusal reset
  | panicked message => exact absurd rfl (before.calm message)
  | _ => exact calmly rfl

/-- A step of the request channel that overtakes nobody. -/
theorem Sound.stepTx (sound : client.Sound isClosed width capacity)
    {action : ChannelCore.Action (Request Req) Reset}
    {events : List (ChannelCore.Event (Request Req) Reset)}
    (inOrder : client.InOrder isClosed (.tx action))
    (stepTo : ChannelCore.step width client.tx action = some (tx, events)) :
    ({ client with
        tx := tx
        requests := client.requests.map fun pc => events.foldl RequestPc.observe pc
        dispatch := events.foldl DispatchPc.observeTx client.dispatch
        shutdowns := client.shutdowns.map fun pc => events.foldl ClosePc.observeTx pc } :
      PipedClient waitMap Req Rsp).Sound isClosed width capacity := by
  obtain ⟨history, ran⟩ := sound.ran
  have kept := (ChannelCore.step_transition stepTo).erroring_kept
  have elects {pc : ClosePc} (before : pc.elected = true → client.tx.core.state.erroring = true)
      (elected : (events.foldl ClosePc.observeTx pc).elected = true) :
      tx.core.state.erroring = true := by
    rcases ClosePc.elected_observeTx elected with already | ⟨call, closed, answered⟩
    · exact kept (before already)
    · exact kept (ChannelCore.step_closeResult (ChannelCore.election_run ran) stepTo answered)
  have dispatched : (∃ close, client.dispatch = .closing close ∧
      events.foldl DispatchPc.observeTx client.dispatch =
        .closing (events.foldl ClosePc.observeTx close)) ∨
      (∀ close, client.dispatch ≠ .closing close) ∧
        events.foldl DispatchPc.observeTx client.dispatch = client.dispatch := by
    cases at_dispatch : client.dispatch with
    | closing close => exact .inl ⟨close, rfl, DispatchPc.observeTx_closing close events⟩
    | _ => exact .inr ⟨by simp, DispatchPc.observeTx_other (by simp) events⟩
  exact {
    ran := ⟨history ++ events, .tail ran trivial stepTo⟩
    electing := fun closed => kept (sound.electing closed)
    shutdowns := by
      intro pc member elected
      obtain ⟨before, was, rfl⟩ := List.mem_map.mp member
      exact elects (sound.shutdowns before was) elected
    closing := by
      intro pc closing elected
      rcases dispatched with ⟨close, was, now⟩ | ⟨other, now⟩
      · rw [now] at closing
        cases closing
        exact elects (sound.closing close was) elected
      · rw [now] at closing
        exact absurd closing (other pc)
    requests := by
      intro request pc found
      rw [List.getElem?_map, Option.map_eq_some_iff] at found
      obtain ⟨before, was, rfl⟩ := found
      exact sound.observe inOrder stepTo was
    waiters := by
      intro isOpen key request waits
      obtain ⟨pc, found, registered⟩ := sound.waiters isOpen key request waits
      refine ⟨events.foldl RequestPc.observe pc, ?_,
        (RequestPc.registered_observe pc events).trans registered⟩
      rw [List.getElem?_map, found]
      rfl
    holding := by
      intro closed
      rcases dispatched with ⟨close, was, now⟩ | ⟨-, now⟩
      · rw [now]
        rfl
      · rw [now]
        exact sound.holding closed
    calm := by
      intro message panicked
      rcases dispatched with ⟨close, was, now⟩ | ⟨-, now⟩
      · rw [now] at panicked
        cases panicked
      · rw [now] at panicked
        exact sound.calm message panicked }

/-- A step of the response channel that overtakes nobody. -/
theorem Sound.stepRx (sound : client.Sound isClosed width capacity)
    {action : ChannelCore.Action (Response Rsp) Reset}
    {events : List (ChannelCore.Event (Response Rsp) Reset)}
    (inOrder : client.InOrder isClosed (.rx action))
    (stepTo : ChannelCore.step width client.rx action = some (rx, events)) :
    ({ client with
        rx := rx
        dispatch := events.foldl DispatchPc.observeRx client.dispatch
        shutdowns := client.shutdowns.map fun pc => events.foldl ClosePc.observeRx pc } :
      PipedClient waitMap Req Rsp).Sound isClosed width capacity where
  ran := sound.ran
  electing := sound.electing
  shutdowns pc member elected := by
    obtain ⟨before, was, rfl⟩ := List.mem_map.mp member
    rw [ClosePc.elected_observeRx] at elected
    exact sound.shutdowns before was elected
  closing pc closing elected := by
    obtain ⟨before, was, wasElected⟩ := DispatchPc.elected_observeRx closing elected
    exact sound.closing before was wasElected
  requests := sound.requests
  waiters := sound.waiters
  holding closed := by
    refine DispatchPc.holds_observeRx (sound.holding closed) fun idx message received => ?_
    obtain ⟨rfl, head, val, releasing⟩ := ChannelCore.releasing_of_received stepTo received
    have late : client.races isClosed (.rx .runRx) = true := by
      simp only [races, releasing, Bool.and_true]
      exact closed
    rw [InOrder, late] at inOrder
    cases inOrder
  calm := DispatchPc.observeRx_calm events sound.calm

end Channels

/-- A step that overtakes nobody. -/
theorem Sound.move (sound : client.Sound isClosed width capacity) (lawful : waitMap.Lawful)
    (closes : waitMap.Closes isClosed) {action : PipedAction Req Rsp}
    (inOrder : client.InOrder isClosed action) (move : Move width client action next) :
    next.Sound isClosed width capacity := by
  cases move with
  | tx allowed stepTo => exact sound.stepTx inOrder stepTo
  | rx stepTo => exact sound.stepRx inOrder stepTo
  | @request body tx made =>
      have called := sound.onTx (.inr made)
      exact { called with
        requests := by
          intro i pc found
          rcases lt_or_ge i client.requests.length with inside | outside
          · rw [List.getElem?_append_left inside] at found
            exact called.requests i pc found
          · rw [List.getElem?_append_right outside, List.getElem?_singleton] at found
            split at found <;> cases found
            exact .of_calm rfl fun key registered => by cases registered
        waiters := by
          intro isOpen key i waits
          obtain ⟨pc, found, registered⟩ := sound.waiters isOpen key i waits
          exact ⟨pc, List.getElem?_append_left
            (List.getElem?_eq_some_iff.mp found).1 ▸ found, registered⟩ }
  | @moved action request pc pc' seq tx found made calm same =>
      have called := sound.onTx made
      have before := called.requests request pc found
      have sound' : pc'.Sound (isClosed client.map) tx.tasks (waitMap.waiter client.map)
          (client.answers request) request :=
        .of_calm calm fun key registered => before.registered key (same.symm.trans registered)
      exact { called.goto found sound' fun _ => same with }
  | enqueued found enqueue => exact sound.enqueued lawful closes found enqueue
  | left found calm unregistered => exact sound.leave lawful closes calm unregistered
  | panicked found why => exact absurd why (sound.not_panics closes found)
  | refused found why reserve => exact sound.refused closes found why reserve
  | dispatch calm => exact sound.dispatch calm
  | woke at_wake wake => exact sound.woke lawful closes wake
  | wakeClosed at_wake wake => exact absurd wake (sound.not_wakeClosed closes at_wake)
  | startShutdown =>
      exact { sound with
        shutdowns := by
          intro pc member elected
          rcases List.mem_append.mp member with before | new
          · exact sound.shutdowns pc before elected
          · rw [List.mem_singleton.mp new] at elected
            cases elected }
  | @dispatchCloses action pc pc' after at_close step =>
      obtain ⟨sound', elects⟩ := sound.closes closes step (sound.closing pc at_close)
        fun _ _ => by rw [at_close]; rfl
      exact { sound' with
        closing := by
          intro close closing elected
          cases closing
          exact elects elected
        holding := fun _ => rfl
        calm := by simp }
  | @shutdownCloses shutdown pc pc' after found step =>
      have free : ∀ reset, pc = .map reset → client.dispatch.holds = false := by
        rintro reset rfl
        simpa [InOrder, races, found] using inOrder
      obtain ⟨sound', elects⟩ := sound.closes closes step
        (sound.shutdowns pc (List.mem_of_getElem? found)) free
      have same : after.shutdowns = client.shutdowns := by cases step <;> rfl
      exact { sound' with
        shutdowns := by
          intro close member elected
          rcases List.mem_or_eq_of_mem_set member with before | rfl
          · exact sound'.shutdowns close (same ▸ before) elected
          · exact elects elected }

/-- Nothing in the client has panicked, and every request that was told that the
wait map is closed has found its channel closed with an error. -/
structure Unpanicked (client : PipedClient waitMap Req Rsp) : Prop where
  requests : ∀ pc ∈ client.requests, ∀ message, pc ≠ .panicked message
  refusals : ∀ permit reserved, .refusal permit reserved ∈ client.requests →
    ∃ reset, reserved = .error (.error reset)
  dispatch : ∀ message, client.dispatch ≠ .panicked message

theorem Sound.unpanicked (sound : client.Sound isClosed width capacity) : client.Unpanicked where
  requests pc member := by
    obtain ⟨request, found⟩ := List.mem_iff_getElem?.mp member
    exact (sound.requests request pc found).calm
  refusals permit reserved member := by
    obtain ⟨request, found⟩ := List.mem_iff_getElem?.mp member
    exact (sound.requests request _ found).refusal permit reserved rfl
  dispatch := sound.calm

/-- In a run in which no step overtakes another one, the client does not
panic. -/
theorem unpanicked_of_inOrder (lawful : waitMap.Lawful) (closes : waitMap.Closes isClosed)
    {responseCapacity : Nat} {history : List (PipedEvent Req Rsp)}
    {final : PipedClient waitMap Req Rsp}
    (run : Run (PipedClient.step bits width) (PipedClient.InOrder isClosed)
      (PipedClient.new waitMap Req Rsp width capacity responseCapacity) history final) :
    final.Unpanicked := by
  have sound : final.Sound isClosed width capacity :=
    run.stateInvariant (fun client => client.Sound isClosed width capacity)
      (sound_new lawful closes responseCapacity) fun before inOrder stepTo =>
        before.move lawful closes inOrder (step_move stepTo)
  exact sound.unpanicked

end PipedClient

/-- Whether the table has been closed. -/
def WaitMap.tableClosed (map : WaitMap.table.Map) : Bool :=
  map.2

theorem WaitMap.table_closes : WaitMap.table.Closes WaitMap.tableClosed where
  new := rfl
  enqueue {map next key waiter} enqueued := by
    simp only [WaitMap.table] at enqueued ⊢
    split at enqueued
    · cases enqueued
    · split at enqueued <;> cases enqueued
      rfl
  enqueueOpen {map key waiter error} isOpen _ failed := by
    simp only [WaitMap.tableClosed, WaitMap.table] at isOpen failed
    simp only [isOpen, Bool.false_eq_true, if_false] at failed
    split at failed <;> cases failed
    rfl
  enqueueClosed {map key waiter error} isClosed failed := by
    simp only [WaitMap.tableClosed, WaitMap.table] at isClosed failed
    simp only [isClosed, if_true] at failed
    cases failed
    rfl
  wake {map next key waiter} woke := by
    simp only [WaitMap.table] at woke ⊢
    split at woke
    · cases woke
    · split at woke <;> cases woke
      rfl
  wakeOpen {map key} isOpen := by
    simp only [WaitMap.tableClosed, WaitMap.table] at isOpen ⊢
    simp only [isOpen, Bool.false_eq_true, if_false]
    split <;> simp
  drop := rfl
  close := rfl
  pollOpen {map key waiter} isOpen _ := by
    simp only [WaitMap.tableClosed, WaitMap.table] at isOpen ⊢
    simp [isOpen]
  pollClosed {map waiter error} isClosed failed := by
    simp only [WaitMap.tableClosed, WaitMap.table] at isClosed failed
    simp only [isClosed, if_true, Option.some.injEq] at failed
    exact failed.symm

namespace PipedClient

/-- The reset that a request has returned. -/
def resetsOf (client : PipedClient WaitMap.table Nat Nat) : List (Option Reset) :=
  client.requests.map fun
    | .returned (.error reset) => some reset
    | _ => none

/-- A request is waiting when the connection is reset.  The dispatcher learns of
it and closes the wait map, and the request returns the reset. -/
theorem unpanicked_resetWhileWaiting :
    ∃ history final,
      Run (PipedClient.step 64 .bits64) (PipedClient.InOrder WaitMap.tableClosed)
        (PipedClient.new WaitMap.table Nat Nat .bits64 1 1) history final ∧
      final.resetsOf = [some .becauseISaidSo] ∧ final.Unpanicked := by
  obtain ⟨history, final, run, ends⟩ := exists_run_of_exec (PipedClient.step 64 .bits64)
    (PipedClient.InOrder WaitMap.tableClosed)
    (PipedClient.new WaitMap.table Nat Nat .bits64 1 1)
    [.request 10, .tx (.run 0), .tx (.allocate 0 0), .runRequest 0, .runRequest 0,
      .runRequest 0, .runRequest 0, .tx (.run 0), .tx (.run 0), .tx (.run 0), .tx (.run 0),
      .tx (.run 0), .startDispatch, .runDispatch false, .runDispatch false,
      .rx (.closeWithError (some 0) .becauseISaidSo), .rx (.run 0), .rx (.run 0), .rx (.run 0),
      .rx (.run 0), .rx (.run 0), .rx (.run 0), .rx (.run 0),
      .tx (.closeWithError none .becauseISaidSo), .tx (.run 1), .tx (.run 1), .tx (.run 1),
      .tx (.run 1), .tx (.run 1), .tx (.run 1), .tx (.run 1),
      .rx .runRx, .rx .runRx, .rx .runRx, .runDispatch false, .tx (.run 2),
      .runDispatch false, .rx (.run 1), .runDispatch false,
      .runRequest 0, .tx (.run 3), .tx (.run 3), .runRequest 0]
    (fun (final, _) => final.resetsOf)
    (show _ = some [some .becauseISaidSo] by decide +kernel)
  exact ⟨history, final, run, ends,
    unpanicked_of_inOrder WaitMap.table_lawful WaitMap.table_closes run⟩

/-- Whether the first request has panicked, and whether the dispatcher has. -/
def panics (client : PipedClient WaitMap.table Nat Nat) : Bool × Bool :=
  (match client.requests with
    | .panicked _ :: _ => true
    | _ => false,
  match client.dispatch with
    | .panicked _ => true
    | _ => false)

/-- The connection has been elected to close the request channel and has not
closed it.  `shutdown` loses the election and closes the wait map, and a request
that holds a permit finds the wait map closed and the channel full. -/
theorem not_unpanicked_overtakenReset :
    ¬ ∀ history final,
      Run (PipedClient.step 64 .bits64) anyStep
        (PipedClient.new WaitMap.table Nat Nat .bits64 1 1) history final →
      final.Unpanicked := by
  intro always
  obtain ⟨history, final, run, ends⟩ := exists_run_of_exec (PipedClient.step 64 .bits64) anyStep
    (PipedClient.new WaitMap.table Nat Nat .bits64 1 1)
    [.request 10, .tx (.run 0), .tx (.allocate 0 0), .runRequest 0,
      .rx (.closeWithError (some 0) .becauseISaidSo), .rx (.run 0), .rx (.run 0), .rx (.run 0),
      .rx (.run 0), .rx (.run 0), .rx (.run 0), .rx (.run 0),
      .tx (.closeWithError none .becauseISaidSo), .tx (.run 1),
      .startShutdown, .runShutdown 0, .runShutdown 0, .tx (.run 2), .runShutdown 0,
      .rx (.run 1), .runShutdown 0, .runRequest 0, .tx (.run 3), .tx (.run 3), .runRequest 0]
    (fun (final, _) => final.panics) (show _ = some (true, false) by decide +kernel)
  have panicked : final.panics.1 = true := congrArg Prod.fst ends
  have calm := (always history final run).requests
  unfold panics at panicked
  dsimp only at panicked
  split at panicked
  · rename_i message rest requests
    exact calm (.panicked message) (by rw [requests]; exact List.mem_cons_self) message rfl
  · cases panicked

/-- `shutdown` closes the wait map while the dispatcher holds a response. -/
theorem not_unpanicked_overtakenWake :
    ¬ ∀ history final,
      Run (PipedClient.step 64 .bits64) anyStep
        (PipedClient.new WaitMap.table Nat Nat .bits64 1 1) history final →
      final.Unpanicked := by
  intro always
  obtain ⟨history, final, run, ends⟩ := exists_run_of_exec (PipedClient.step 64 .bits64) anyStep
    (PipedClient.new WaitMap.table Nat Nat .bits64 1 1)
    [.rx (.reserve 0 false), .rx (.run 0), .rx (.allocate 0 0), .rx (.write 0 ⟨0, 7⟩),
      .rx (.commit 0), .rx (.run 0), .rx (.run 0), .rx (.run 0), .rx (.run 0), .rx (.run 0),
      .startDispatch, .runDispatch false, .runDispatch false,
      .rx .runRx, .rx .runRx, .rx .runRx, .rx .runRx,
      .startShutdown, .runShutdown 0, .runShutdown 0, .tx (.run 0), .tx (.run 0), .tx (.run 0),
      .tx (.run 0), .tx (.run 0), .tx (.run 0), .tx (.run 0), .runShutdown 0, .rx (.run 2),
      .rx (.run 2), .rx (.run 2), .rx (.run 2), .rx (.run 2), .rx (.run 2), .rx (.run 2),
      .runShutdown 0, .runDispatch false]
    (fun (final, _) => final.panics) (show _ = some (false, true) by decide +kernel)
  have panicked : final.panics.2 = true := congrArg Prod.snd ends
  have calm := (always history final run).dispatch
  unfold panics at panicked
  dsimp only at panicked
  split at panicked
  · rename_i message at_dispatch
    exact calm message at_dispatch
  · cases panicked

end PipedClient

end ReqRsp

end Calliope

end Mgnp
