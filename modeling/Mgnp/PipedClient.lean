import Mgnp.ChannelCore
import Mgnp.ReqRsp

/-!
# The request/response client on its pipes

A `Client` shares the two tricky-pipes of its `BiDi` with the connection, which
may close them from another task while the client closes them itself.  This
file translates `Client::request`, `Client::shutdown` and `Client::dispatch`
once more, in a debug build, over the two channels of `ChannelCore`.  A call of
a channel method is a task of that channel, and whoever made the call goes on
when the channel reports its answer.

The client's `Sender` is handle 0 of the request channel.  There is one call of
`dispatch`.
-/

namespace Mgnp

namespace Calliope

namespace ReqRsp

open PositionWord

/-- Where a call of `request` stands. -/
inductive RequestPc (Req Rsp : Type*)
  /-- In `reserve`, which is this call of the request channel. -/
  | reserving (body : Req) (call : Nat)
  /-- Holding its permit, before `fetch_add`. -/
  | drawing (body : Req) (permit : Nat)
  /-- In `wait.enqueue()`. -/
  | enqueuing (body : Req) (permit seq : Nat)
  /-- In `permit.send`, before it writes the message. -/
  | writing (body : Req) (permit seq : Nat)
  | committing (permit seq : Nat)
  /-- In `commit_send`. -/
  | sending (permit seq : Nat)
  /-- In `wait`. -/
  | waiting (seq : Nat)
  /-- In `handle_wait_error` of a closed wait map, in `try_reserve`. -/
  | refused (permit : Option Nat) (call : Nat)
  /-- In `handle_wait_error` of a closed wait map, after `try_reserve`. -/
  | refusal (permit : Option Nat) (reserved : Except TrySendError Unit)
  | returned (result : Except Reset Rsp)
  | panicked (message : String)
  | cancelled

/-- Where `shutdown` stands, or `dispatch` once its connection has been reset. -/
inductive ClosePc
  /-- `shutdown` before `self.shutdown.close()`. -/
  | cell
  /-- `BiDi::close_with_error` before it closes the send half. -/
  | tx (reset : Reset)
  | closingTx (reset : Reset) (call : Nat)
  | rx (reset : Reset)
  | closingRx (reset : Reset) (call : Nat)
  /-- Before `self.dispatcher.close()`. -/
  | map (reset : Reset)
  | closed (reset : Reset)

inductive DispatchPc (Rsp : Type*)
  | unstarted
  /-- In `select_biased!`, before it polls `shutdown.wait()`. -/
  | selecting
  /-- In `poll_recv`, before `try_dequeue`. -/
  | polling
  | receiving
  /-- In `poll_recv`, before `cons_wait.poll_wait`. -/
  | empty
  /-- Before `wake` with a response. -/
  | waking (response : Response Rsp)
  /-- The connection was reset. -/
  | closing (pc : ClosePc)
  | returned
  | panicked (message : String)
  | cancelled

/-- The permit of the request channel that a request holds. -/
def RequestPc.permit {Req Rsp : Type*} : RequestPc Req Rsp → Option Nat
  | .drawing _ permit | .enqueuing _ permit _ | .writing _ permit _ | .committing permit _ =>
      some permit
  | .refused permit _ | .refusal permit _ => permit
  | _ => none

/-- The call of `try_reserve` that a refused request has made. -/
def RequestPc.refusedBy {Req Rsp : Type*} : RequestPc Req Rsp → Option Nat
  | .refused _ call => some call
  | _ => none

/-- What a reservation call answers. -/
def reserveResult {T : Type*} (call : Nat) :
    ChannelCore.Event T Reset → Option (Except TrySendError Unit)
  | .reserved task _ => if task = call then some (.ok ()) else none
  | .full task => if task = call then some (.error .full) else none
  | .sendClosed task none => if task = call then some (.error .disconnected) else none
  | .sendClosed task (some reset) => if task = call then some (.error (.error reset)) else none
  | _ => none

/-- Whether `commit_send` returns, whatever its answer. -/
def sendReturns {T : Type*} (permit : Nat) : ChannelCore.Event T Reset → Bool
  | .sendOk task | .sendClosed task _ | .panicked task => task == permit
  | _ => false

/-- A request goes on when the call that it waits for is answered. -/
def RequestPc.observe {Req Rsp : Type*} (pc : RequestPc Req Rsp)
    (event : ChannelCore.Event (Request Req) Reset) : RequestPc Req Rsp :=
  match pc with
  | .reserving body call =>
      match reserveResult call event with
      | some (.ok ()) => .drawing body call
      | some (.error .disconnected) => .returned (.error .becauseISaidSo)
      | some (.error (.error reset)) => .returned (.error reset)
      -- `reserve` waits while the channel is full.
      | some (.error .full) | none => pc
  | .refused permit call =>
      match reserveResult call event with
      | some reserved => .refusal permit reserved
      | none => pc
  | .sending permit seq => if sendReturns permit event then .waiting seq else pc
  | _ => pc

/-- `close_with_error` of the send half is answered. -/
def ClosePc.observeTx {T : Type*} (pc : ClosePc) (event : ChannelCore.Event T Reset) : ClosePc :=
  match pc, event with
  | .closingTx reset call, .closeResult task _ => if task = call then .rx reset else pc
  | _, _ => pc

/-- `close_with_error` of the receive half is answered. -/
def ClosePc.observeRx {T : Type*} (pc : ClosePc) (event : ChannelCore.Event T Reset) : ClosePc :=
  match pc, event with
  | .closingRx reset call, .closeResult task _ => if task = call then .map reset else pc
  | _, _ => pc

def DispatchPc.observeTx {Rsp T : Type*} (pc : DispatchPc Rsp)
    (event : ChannelCore.Event T Reset) : DispatchPc Rsp :=
  match pc with
  | .closing close => .closing (close.observeTx event)
  | _ => pc

/-- The dispatcher goes on when `try_dequeue` returns.  Any failure is a reset. -/
def DispatchPc.observeRx {Rsp : Type*} (pc : DispatchPc Rsp)
    (event : ChannelCore.Event (Response Rsp) Reset) : DispatchPc Rsp :=
  match pc, event with
  | .receiving, .received _ (some response) => .waking response
  | .receiving, .empty => .empty
  | .receiving, .recvClosed (some reset) => .closing (.tx reset)
  | .receiving, .recvClosed none => .closing (.tx .becauseISaidSo)
  | .closing close, event => .closing (close.observeRx event)
  | _, _ => pc

structure PipedClient (waitMap : WaitMap) (Req Rsp : Type*) where
  seq : Nat
  /-- The request channel, whose receiver is the connection. -/
  tx : ChannelCore.Channel (Request Req) Reset
  /-- The response channel, whose receiver is the client. -/
  rx : ChannelCore.Channel (Response Rsp) Reset
  map : waitMap.Map
  /-- Whether the wait cell `shutdown` has been closed. -/
  shutdown : Bool
  requests : List (RequestPc Req Rsp)
  /-- The value that the waiter of a request got. -/
  answers : Nat → Option Rsp
  dispatch : DispatchPc Rsp
  shutdowns : List ClosePc

inductive PipedAction (Req Rsp : Type*)
  | request (body : Req)
  | startDispatch
  | startShutdown
  /-- The next step of a request outside of the channels. -/
  | runRequest (request : Nat)
  /-- The next step of the dispatcher, whose wait cell may be ready. -/
  | runDispatch (ready : Bool)
  | runShutdown (shutdown : Nat)
  /-- The future of a request is dropped at an `await`. -/
  | cancelRequest (request : Nat)
  | cancelDispatch
  /-- A step of the request channel, by a call that someone has made or by the
  connection. -/
  | tx (action : ChannelCore.Action (Request Req) Reset)
  | rx (action : ChannelCore.Action (Response Rsp) Reset)

inductive PipedEvent (Req Rsp : Type*)
  | tx (event : ChannelCore.Event (Request Req) Reset)
  | rx (event : ChannelCore.Event (Response Rsp) Reset)

namespace PipedClient

variable {waitMap : WaitMap} {Req Rsp : Type*}

def new (waitMap : WaitMap) (Req Rsp : Type*) (width : PointerWidth)
    (requestCapacity responseCapacity : Nat) : PipedClient waitMap Req Rsp where
  seq := 0
  tx := .new width requestCapacity
  rx := .new width responseCapacity
  map := waitMap.new
  shutdown := false
  requests := []
  answers _ := none
  dispatch := .unstarted
  shutdowns := []

def goto (client : PipedClient waitMap Req Rsp) (request : Nat) (pc : RequestPc Req Rsp) :
    PipedClient waitMap Req Rsp :=
  { client with requests := client.requests.set request pc }

/-- The request goes on and drops its `wait` future. -/
def leave (client : PipedClient waitMap Req Rsp) (request : Nat) (pc : RequestPc Req Rsp) :
    PipedClient waitMap Req Rsp :=
  { client.goto request pc with map := waitMap.drop client.map request }

/-- A step of the request channel that the client makes itself. -/
def onTx (width : PointerWidth) (client : PipedClient waitMap Req Rsp)
    (action : ChannelCore.Action (Request Req) Reset) : Option (PipedClient waitMap Req Rsp) :=
  (ChannelCore.step width client.tx action).map fun (tx, _) => { client with tx := tx }

def onRx (width : PointerWidth) (client : PipedClient waitMap Req Rsp)
    (action : ChannelCore.Action (Response Rsp) Reset) : Option (PipedClient waitMap Req Rsp) :=
  (ChannelCore.step width client.rx action).map fun (rx, _) => { client with rx := rx }

/-- `handle_wait_error` of a closed wait map calls `try_reserve`. -/
def refuse (width : PointerWidth) (client : PipedClient waitMap Req Rsp) (request : Nat)
    (permit : Option Nat) : Option (PipedClient waitMap Req Rsp) :=
  (client.onTx width (.reserve 0 false)).map fun next =>
    next.goto request (.refused permit client.tx.tasks.length)

/-- The next step of a request outside of the channels, `none` while it waits. -/
def runRequest (bits : Nat) (width : PointerWidth) (client : PipedClient waitMap Req Rsp)
    (request : Nat) : Option (PipedClient waitMap Req Rsp) :=
  match client.requests[request]? with
  | some (.drawing body permit) =>
      some { client.goto request (.enqueuing body permit client.seq) with
        seq := (client.seq + 1) % 2 ^ bits }
  | some (.enqueuing body permit seq) =>
      match waitMap.enqueue client.map seq request with
      | .ok map => some { client.goto request (.writing body permit seq) with map := map }
      | .error .closed => client.refuse width request (some permit)
      | .error error =>
          -- Only a closed wait map makes `handle_wait_error` try to reserve.
          match handleWaitError .debug (.ok ()) error with
          | .ok .seqInUse => some (client.leave request (.drawing body permit))
          | .ok (.reset reset) => some (client.leave request (.returned (.error reset)))
          | .error message => some (client.leave request (.panicked message))
  | some (.writing body permit seq) =>
      (client.onTx width (.write permit ⟨seq, body⟩)).map
        (·.goto request (.committing permit seq))
  | some (.committing permit seq) =>
      (client.onTx width (.commit permit)).map (·.goto request (.sending permit seq))
  | some (.waiting _) =>
      match client.answers request with
      | some body => some (client.leave request (.returned (.ok body)))
      | none =>
          match waitMap.poll client.map request with
          | none => none
          | some .closed => client.refuse width request none
          | some error =>
              match handleWaitError .debug (.ok ()) error with
              | .ok .seqInUse =>
                  some (client.leave request (.panicked
                    ("we should have already enqueued the waiter, so its " ++
                      "sequence number should be okay. this is a bug!")))
              | .ok (.reset reset) => some (client.leave request (.returned (.error reset)))
              | .error message => some (client.leave request (.panicked message))
  | some (.refusal _ reserved) =>
      match handleWaitError .debug reserved .closed with
      | .ok (.reset reset) => some (client.leave request (.returned (.error reset)))
      -- A closed wait map is not a sequence number in use.
      | .ok .seqInUse => none
      | .error message => some (client.leave request (.panicked message))
  | _ => none

/-- The next step of a call that closes the client. -/
def runClose (width : PointerWidth) (client : PipedClient waitMap Req Rsp) :
    ClosePc → Option (PipedClient waitMap Req Rsp × ClosePc)
  | .cell => some ({ client with shutdown := true }, .tx .becauseISaidSo)
  | .tx reset =>
      (client.onTx width (.closeWithError (some 0) reset)).map
        (·, .closingTx reset client.tx.tasks.length)
  | .rx reset =>
      (client.onRx width (.closeWithError none reset)).map
        (·, .closingRx reset client.rx.tasks.length)
  | .map reset => some ({ client with map := waitMap.close client.map }, .closed reset)
  | .closingTx _ _ | .closingRx _ _ | .closed _ => none

/-- The next step of the dispatcher.  A `poll_recv` that finds nothing goes
round when its wait cell is `ready`; otherwise the `select_biased!` returns
`Pending` and is polled again later. -/
def runDispatch (width : PointerWidth) (client : PipedClient waitMap Req Rsp) (ready : Bool) :
    Option (PipedClient waitMap Req Rsp) :=
  match client.dispatch with
  | .selecting =>
      some { client with dispatch := if client.shutdown then .returned else .polling }
  | .polling =>
      (client.onRx width .tryRecv).map fun next => { next with dispatch := .receiving }
  | .empty => some { client with dispatch := if ready then .polling else .selecting }
  | .waking response =>
      match waitMap.wake client.map response.seq with
      | .woke waiter map =>
          some { client with
            map := map
            answers := Function.update client.answers waiter (some response.body)
            dispatch := .selecting }
      | .noMatch => some { client with dispatch := .selecting }
      | .closed =>
          some { client with
            dispatch := .panicked
              "the dispatcher should not be closed if it is still running..." }
  | .closing pc =>
      (client.runClose width pc).map fun (next, pc) => { next with dispatch := .closing pc }
  | _ => none

def runShutdown (width : PointerWidth) (client : PipedClient waitMap Req Rsp)
    (shutdown : Nat) : Option (PipedClient waitMap Req Rsp) :=
  match client.shutdowns[shutdown]? with
  | some pc =>
      (client.runClose width pc).map fun (next, pc) =>
        { next with shutdowns := client.shutdowns.set shutdown pc }
  | none => none

/-- The future of a request is dropped. -/
def cancelRequest (client : PipedClient waitMap Req Rsp) (request : Nat) :
    Option (PipedClient waitMap Req Rsp) :=
  match client.requests[request]? with
  | some (.reserving _ _) => some (client.goto request .cancelled)
  | some (.enqueuing _ _ _) | some (.waiting _) => some (client.leave request .cancelled)
  | _ => none

/-- Nobody but the client uses its `Sender` and the permits that it holds.  A
permit that a request held when it returned is dropped by a step of the
channel. -/
def allowsTx (client : PipedClient waitMap Req Rsp) :
    ChannelCore.Action (Request Req) Reset → Bool
  | .reserve handle _ | .dropTx handle | .closeWithError (some handle) _ => handle != 0
  | .write permit _ | .commit permit | .release permit =>
      !client.requests.any fun pc => pc.permit == some permit
  | _ => true

/-- The client is the receiver of the response channel. -/
def allowsRx : ChannelCore.Action (Response Rsp) Reset → Bool
  | .closeWithError none _ | .dropRx | .tryRecv => false
  | _ => true

/-- A step of the request channel and all who wait for its answer. -/
def stepTx (width : PointerWidth) (client : PipedClient waitMap Req Rsp)
    (action : ChannelCore.Action (Request Req) Reset) :
    Option (PipedClient waitMap Req Rsp × List (PipedEvent Req Rsp)) :=
  if client.allowsTx action then
    (ChannelCore.step width client.tx action).map fun (tx, events) =>
      ({ client with
          tx := tx
          requests := client.requests.map fun pc => events.foldl RequestPc.observe pc
          dispatch := events.foldl DispatchPc.observeTx client.dispatch
          shutdowns := client.shutdowns.map fun pc => events.foldl ClosePc.observeTx pc },
        events.map .tx)
  else none

/-- A step of the response channel and all who wait for its answer. -/
def stepRx (width : PointerWidth) (client : PipedClient waitMap Req Rsp)
    (action : ChannelCore.Action (Response Rsp) Reset) :
    Option (PipedClient waitMap Req Rsp × List (PipedEvent Req Rsp)) :=
  if allowsRx action then
    (ChannelCore.step width client.rx action).map fun (rx, events) =>
      ({ client with
          rx := rx
          dispatch := events.foldl DispatchPc.observeRx client.dispatch
          shutdowns := client.shutdowns.map fun pc => events.foldl ClosePc.observeRx pc },
        events.map .rx)
  else none

def step (bits : Nat) (width : PointerWidth) (client : PipedClient waitMap Req Rsp) :
    PipedAction Req Rsp →
      Option (PipedClient waitMap Req Rsp × List (PipedEvent Req Rsp))
  | .request body =>
      (client.onTx width (.reserve 0 true)).map fun next =>
        ({ next with requests := client.requests ++
            [.reserving body client.tx.tasks.length] }, [])
  | .startDispatch =>
      match client.dispatch with
      | .unstarted => some ({ client with dispatch := .selecting }, [])
      | _ => none
  | .startShutdown => some ({ client with shutdowns := client.shutdowns ++ [.cell] }, [])
  | .runRequest request => (client.runRequest bits width request).map (·, [])
  | .runDispatch ready => (client.runDispatch width ready).map (·, [])
  | .runShutdown shutdown => (client.runShutdown width shutdown).map (·, [])
  | .cancelRequest request => (client.cancelRequest request).map (·, [])
  | .cancelDispatch =>
      match client.dispatch with
      | .selecting => some ({ client with dispatch := .cancelled }, [])
      | _ => none
  | .tx action => client.stepTx width action
  | .rx action => client.stepRx width action

end PipedClient

end ReqRsp

end Calliope

end Mgnp
