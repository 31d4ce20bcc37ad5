import Mathlib.Logic.Function.Basic
import Mgnp.ConnTable
import Mgnp.LabelledRuns

/-!
# The request/response client

This file translates `req_rsp.rs`.  Calls to `Client::request`, the dispatcher
and calls to `Client::shutdown` are tasks, and one access to a shared object is
one step.  The wait map of `maitake_sync` is a parameter.  Responses are numbered
in the order in which the server sends them; the code never reads the numbers.
-/

namespace Mgnp

namespace Calliope

namespace ReqRsp

structure Request (Body : Type*) where
  seq : Nat
  body : Body
  deriving DecidableEq

structure Response (Body : Type*) where
  seq : Nat
  body : Body
  deriving DecidableEq

def Request.respond {Body Answer : Type*} (request : Request Body) (body : Answer) :
    Response Answer :=
  ⟨request.seq, body⟩

/-- `wait_map::WaitError`. -/
inductive WaitError
  | closed
  | duplicate
  | alreadyConsumed
  | neverAdded
  deriving DecidableEq

/-- `wait_map::WakeOutcome`, with the waiter that got the value. -/
inductive WakeOutcome (Map : Type*)
  | woke (waiter : Nat) (map : Map)
  | closed
  | noMatch

/-- A `WaitMap` whose waiters are the futures of the tasks. -/
structure WaitMap where
  Map : Type
  new : Map
  /-- The waiter registered under a key. -/
  waiter : Map → Nat → Option Nat
  enqueue : Map → Nat → Nat → Except WaitError Map
  wake : Map → Nat → WakeOutcome Map
  /-- How the future of a waiter without a value fails, if it does. -/
  poll : Map → Nat → Option WaitError
  /-- The future of the waiter is dropped. -/
  drop : Map → Nat → Map
  close : Map → Map

/-- What the client relies on. -/
structure WaitMap.Lawful (waitMap : WaitMap) : Prop where
  new : ∀ key, waitMap.waiter waitMap.new key = none
  enqueue : ∀ {map next key waiter}, waitMap.enqueue map key waiter = .ok next →
    waitMap.waiter map key = none ∧
      waitMap.waiter next = Function.update (waitMap.waiter map) key (some waiter)
  wake : ∀ {map next key waiter}, waitMap.wake map key = .woke waiter next →
    waitMap.waiter map key = some waiter ∧
      waitMap.waiter next = Function.update (waitMap.waiter map) key none
  drop : ∀ {map key} waiter, waitMap.waiter (waitMap.drop map waiter) key =
    if waitMap.waiter map key = some waiter then none else waitMap.waiter map key
  close : ∀ {map key waiter}, waitMap.waiter (waitMap.close map) key = some waiter →
    waitMap.waiter map key = some waiter

inductive TrySendError
  | full
  | disconnected
  | error (reset : Reset)
  deriving DecidableEq

inductive RequestError
  | reset (reset : Reset)
  | seqInUse
  deriving DecidableEq

inductive DispatchError
  | alreadyRunning
  | connectionReset (reset : Reset)
  deriving DecidableEq

/-- The closure `handle_wait_error`, which may try to reserve.  It panics with a
message. -/
def handleWaitError (build : Build) (reserved : Except TrySendError Unit) :
    WaitError → Except String RequestError
  | .closed =>
      match reserved with
      | .ok () =>
          .error ("if the waitmap was closed, then the channel should " ++
            "have been closed with an error!")
      | .error (.error reset) => .ok (.reset reset)
      | .error .full | .error .disconnected =>
          match build with
          | .debug =>
              .error ("closing the channel with an error should have priority " ++
                "over full/disconnected errors.")
          | .release => .ok (.reset .becauseISaidSo)
  | .duplicate => .ok .seqInUse
  | .alreadyConsumed => .error "data should not already be consumed, this is a bug"
  | .neverAdded => .error "we ensured the waiter was added, this is a bug!"

/-- Where a task stands. -/
inductive TaskPc (Req Rsp : Type*)
  | unstarted
  /-- `request` in `reserve`. -/
  | reserving (body : Req)
  /-- `request` holding its permit, before `fetch_add`. -/
  | drawing (body : Req)
  /-- `request` in `wait.enqueue()`. -/
  | enqueuing (body : Req) (seq : Nat)
  /-- `request` before `permit.send`, with the value its waiter got. -/
  | sending (body : Req) (seq : Nat) (answer : Option Rsp)
  /-- `request` in `wait`, with the value its waiter got. -/
  | waiting (seq : Nat) (answer : Option Rsp)
  | returned (result : Except Reset Rsp)
  /-- `dispatch` in its `select_biased!`. -/
  | dispatching
  /-- `dispatch` before `wake` with the response of this number. -/
  | waking (number : Nat) (response : Response Rsp)
  /-- `dispatch` before it closes the channel. -/
  | resetting (reset : Reset)
  /-- `dispatch` before it closes the wait map. -/
  | closingMap (reset : Reset)
  | dispatched (result : Except DispatchError Unit)
  /-- `shutdown` before it closes the channel. -/
  | shuttingChannel
  /-- `shutdown` before it closes the wait map. -/
  | shuttingMap
  | shutDown
  | panicked (message : String)
  | cancelled

/-- The connection and the flags of the client. -/
structure Link where
  /-- How each direction has closed, `none` while it is open. -/
  tx : Option RecvError
  rx : Option RecvError
  shutdown : Bool
  hasDispatcher : Bool

structure Client (waitMap : WaitMap) (Req Rsp : Type*) where
  seq : Nat
  tasks : Nat → TaskPc Req Rsp
  map : waitMap.Map
  link : Link
  /-- The Request frames that have been sent. -/
  requests : List (Request Req)
  /-- The responses on their way to the dispatcher, with their numbers. -/
  responses : List (Nat × Response Rsp)
  /-- How many responses the server has sent. -/
  responded : Nat

inductive Action (Req Rsp : Type*)
  | request (task : Nat) (body : Req)
  | dispatch (task : Nat)
  | shutdown (task : Nat)
  /-- The next step of a task, which may find the outbound channel full. -/
  | run (task : Nat) (full : Bool)
  /-- The future of a task is dropped at an `await`. -/
  | cancel (task : Nat)
  /-- The server answers the Request frame with this index. -/
  | respond (index : Nat) (body : Rsp)
  | closeTx (error : RecvError)
  | closeRx (error : RecvError)

inductive Event (Rsp : Type*)
  | drew (task seq : Nat)
  /-- `permit.send` put the Request frame on the channel. -/
  | requested (task seq : Nat)
  | responded (response : Response Rsp)
  /-- `wake` gave the response of this number to the waiter of the task. -/
  | woke (number task : Nat)
  /-- `request` returned `Ok`. -/
  | returned (task : Nat) (body : Rsp)
  deriving DecidableEq

def tryReserve (tx : Option RecvError) (full : Bool) : Except TrySendError Unit :=
  match tx with
  | some .disconnected => .error .disconnected
  | some (.error reset) => .error (.error reset)
  | none => if full then .error .full else .ok ()

/-- The reset that a failed receive is reported as. -/
def resetOf : RecvError → Reset
  | .error reset => reset
  | .disconnected => .becauseISaidSo

/-- `close_with_error` on one direction: the first error stays. -/
def closeWithError (reset : Reset) : Option RecvError → Option RecvError
  | some (.error first) => some (.error first)
  | some .disconnected | none => some (.error reset)

def Link.close (link : Link) (reset : Reset) : Link :=
  { link with tx := closeWithError reset link.tx, rx := closeWithError reset link.rx }

/-- A waiter gets its value. -/
def TaskPc.answered {Req Rsp : Type*} (body : Rsp) : TaskPc Req Rsp → TaskPc Req Rsp
  | .sending request seq _ => .sending request seq (some body)
  | .waiting seq _ => .waiting seq (some body)
  | pc => pc

namespace Client

variable {waitMap : WaitMap} {Req Rsp : Type*}

def new (waitMap : WaitMap) (Req Rsp : Type*) : Client waitMap Req Rsp where
  seq := 0
  tasks _ := .unstarted
  map := waitMap.new
  link := ⟨none, none, false, false⟩
  requests := []
  responses := []
  responded := 0

def goto (client : Client waitMap Req Rsp) (task : Nat) (pc : TaskPc Req Rsp) :
    Client waitMap Req Rsp :=
  { client with tasks := Function.update client.tasks task pc }

/-- The task goes on and drops its `wait` future. -/
def leave (client : Client waitMap Req Rsp) (task : Nat) (pc : TaskPc Req Rsp) :
    Client waitMap Req Rsp :=
  { client.goto task pc with map := waitMap.drop client.map task }

/-- One step of a task, `none` while it waits. -/
def run (bits : Nat) (build : Build) (client : Client waitMap Req Rsp) (task : Nat)
    (full : Bool) : Option (Client waitMap Req Rsp × List (Event Rsp)) :=
  match client.tasks task with
  | .reserving body =>
      match tryReserve client.link.tx full with
      | .ok () => some (client.goto task (.drawing body), [])
      | .error .full => none
      | .error .disconnected =>
          some (client.goto task (.returned (.error .becauseISaidSo)), [])
      | .error (.error reset) => some (client.goto task (.returned (.error reset)), [])
  | .drawing body =>
      some ({ client.goto task (.enqueuing body client.seq) with
          seq := (client.seq + 1) % 2 ^ bits }, [.drew task client.seq])
  | .enqueuing body seq =>
      match waitMap.enqueue client.map seq task with
      | .ok map => some ({ client.goto task (.sending body seq none) with map := map }, [])
      | .error error =>
          match handleWaitError build (tryReserve client.link.tx full) error with
          | .ok (.reset reset) => some (client.leave task (.returned (.error reset)), [])
          | .ok .seqInUse => some (client.leave task (.drawing body), [])
          | .error message => some (client.leave task (.panicked message), [])
  | .sending body seq answer =>
      match client.link.tx with
      | none =>
          some ({ client.goto task (.waiting seq answer) with
              requests := client.requests ++ [⟨seq, body⟩] }, [.requested task seq])
      | some _ => some (client.goto task (.waiting seq answer), [])
  | .waiting _ (some body) =>
      some (client.leave task (.returned (.ok body)), [.returned task body])
  | .waiting _ none =>
      match waitMap.poll client.map task with
      | none => none
      | some error =>
          match handleWaitError build (tryReserve client.link.tx full) error with
          | .ok (.reset reset) => some (client.leave task (.returned (.error reset)), [])
          | .ok .seqInUse =>
              some (client.leave task (.panicked
                ("we should have already enqueued the waiter, so its " ++
                  "sequence number should be okay. this is a bug!")), [])
          | .error message => some (client.leave task (.panicked message), [])
  | .dispatching =>
      if client.link.shutdown then some (client.goto task (.dispatched (.ok ())), [])
      else
        match client.responses, client.link.rx with
        | (number, response) :: rest, _ =>
            some ({ client.goto task (.waking number response) with responses := rest }, [])
        | [], some error => some (client.goto task (.resetting (resetOf error)), [])
        | [], none => none
  | .waking number response =>
      match waitMap.wake client.map response.seq with
      | .woke waiter map =>
          let woken := client.goto waiter ((client.tasks waiter).answered response.body)
          some ({ woken.goto task .dispatching with map := map }, [.woke number waiter])
      | .noMatch => some (client.goto task .dispatching, [])
      | .closed =>
          match build with
          | .debug =>
              some (client.goto task (.panicked
                "the dispatcher should not be closed if it is still running..."), [])
          | .release => some (client.goto task .dispatching, [])
  | .resetting reset =>
      some ({ client.goto task (.closingMap reset) with link := client.link.close reset }, [])
  | .closingMap reset =>
      some ({ client.goto task (.dispatched (.error (.connectionReset reset))) with
          map := waitMap.close client.map }, [])
  | .shuttingChannel =>
      some ({ client.goto task .shuttingMap with
          link := client.link.close .becauseISaidSo }, [])
  | .shuttingMap =>
      some ({ client.goto task .shutDown with map := waitMap.close client.map }, [])
  | .unstarted | .returned _ | .dispatched _ | .shutDown | .panicked _ | .cancelled => none

/-- The future of a task is dropped. -/
def cancel (client : Client waitMap Req Rsp) (task : Nat) :
    Option (Client waitMap Req Rsp) :=
  match client.tasks task with
  | .reserving _ | .dispatching => some (client.goto task .cancelled)
  | .enqueuing _ _ | .waiting _ _ => some (client.leave task .cancelled)
  | _ => none

/-- A call begins. -/
def start (client : Client waitMap Req Rsp) (task : Nat) (pc : TaskPc Req Rsp) :
    Option (Client waitMap Req Rsp) :=
  match client.tasks task with
  | .unstarted => some (client.goto task pc)
  | _ => none

def step (bits : Nat) (build : Build) (client : Client waitMap Req Rsp) :
    Action Req Rsp → Option (Client waitMap Req Rsp × List (Event Rsp))
  | .request task body => (client.start task (.reserving body)).map (·, [])
  | .dispatch task =>
      if client.link.hasDispatcher then
        match build with
        | .debug =>
            (client.start task (.panicked
              ("a client connection may only have one running dispatcher " ++
                "task! a second call to `Client::dispatch` is likely a bug. " ++
                "this is a panic in debug mode."))).map (·, [])
        | .release =>
            (client.start task (.dispatched (.error .alreadyRunning))).map (·, [])
      else
        (client.start task .dispatching).map fun next =>
          ({ next with link := { next.link with hasDispatcher := true } }, [])
  | .shutdown task =>
      (client.start task .shuttingChannel).map fun next =>
        ({ next with link := { next.link with shutdown := true } }, [])
  | .run task full => client.run bits build task full
  | .cancel task => (client.cancel task).map (·, [])
  | .respond index body =>
      match client.requests[index]? with
      | none => none
      | some request =>
          let response := request.respond body
          some ({ client with
              -- A response that finds the channel closed is lost.
              responses := client.responses ++
                if client.link.rx = none then [(client.responded, response)] else []
              responded := client.responded + 1 }, [.responded response])
  | .closeTx error => some ({ client with link := { client.link with tx := some error } }, [])
  | .closeRx error => some ({ client with link := { client.link with rx := some error } }, [])

end Client

end ReqRsp

end Calliope

end Mgnp
