import Mgnp.Message
import Mgnp.OneshotAnswers
import Mgnp.SerBox

/-!
# The connector of a client

This file translates `Connector::connect`.  All calls of a connector share one
`Sharer`, for the hello message, and one oneshot channel, for the answer; each takes
the steps that `SerBox` and `Oneshot` give it.  A call may be dropped whenever it
waits, and the next call finds what it left behind.

`tx.reserve()` may succeed, fail or wait for any time.  A request that was sent is
with the machine, in the queue of `tx` or in the connection table, which may answer
it, drop its sender and drop its hello message at any time.
-/

namespace Mgnp

namespace Calliope

open Oneshot

inductive ConnectError
  | interfaceDead
  | nak (rejection : Rejection)
  deriving DecidableEq

/-- The message of the oneshot channel. -/
abbrev ConnectAnswer : Type := Except Rejection Unit

namespace Connector

/-- What a call keeps of its arguments, with its number. -/
structure Call where
  number : Nat
  identity : Identity
  /-- The channels, one half of which goes with the request. -/
  channel : Nat
  deriving DecidableEq

/-- An `OutboundConnect`. -/
structure Request where
  identity : Identity
  /-- The `Consumer` of the hello message. -/
  hello : Nat
  channel : Nat
  /-- The `Sender` for the answer. -/
  rsp : Nat
  deriving DecidableEq

/-- Where a call of `connect` stands. -/
inductive Pc (Hello : Type*)
  | idle
  /-- In `tx.reserve()`. -/
  | reserving (call : Call) (hello : Hello)
  /-- In `share`, before `try_share`. -/
  | sharing (call : Call) (hello : Hello)
  /-- In `share`, waiting for `sharer_ready`. -/
  | parked (call : Call) (hello : Hello)
  /-- In `try_share`, which won its compare-exchange. -/
  | writing (call : Call)
  /-- In `rsp.sender()`, with the `Consumer` of the hello message. -/
  | taking (call : Call) (hello : Nat)
  /-- Before `permit.send`. -/
  | sending (call : Call) (hello sender : Nat)
  /-- In `rsp.recv()`. -/
  | receiving (call : Call) (sender : Nat)
  /-- `rsp.sender().await.unwrap()` has panicked. -/
  | panicked (error : SenderError)

/-- What a call ended with. -/
inductive Ending
  /-- `reserve` found `tx` closed. -/
  | closed
  /-- `recv` returned. -/
  | received (result : Except Oneshot.RecvError (Received ConnectAnswer))
  deriving DecidableEq

/-- What `connect` returns, with the call's own channels.  An uninitialized cell has
no result, and the typed receiver returns no references. -/
def Ending.result (call : Call) : Ending → Option (Except ConnectError Nat)
  | .closed | .received (.error _) => some (.error .interfaceDead)
  | .received (.ok (.value (some (_, .error nak)))) => some (.error (.nak nak))
  | .received (.ok (.value (some (_, .ok ())))) => some (.ok call.channel)
  | .received (.ok (.value none)) | .received (.ok (.ref _)) => none

inductive Event
  | rsp (event : Oneshot.Event ConnectAnswer)
  /-- `permit.send`. -/
  | requested (call : Call) (request : Request)
  /-- The machine dropped this sender without an answer. -/
  | droppedRsp (sender : Nat)
  | returned (call : Call) (ending : Ending)
  /-- The future of the call was dropped. -/
  | abandoned (call : Call)
  | panicked (call : Call) (error : SenderError)
  deriving DecidableEq

inductive Action (Hello : Type*)
  | connect (identity : Identity) (hello : Hello) (channel : Nat)
  /-- `tx.reserve()` ends, and whether it returned a permit. -/
  | reserved (permit : Bool)
  /-- The wait for `sharer_ready` ends. -/
  | sharerReady
  /-- The next step of the call. -/
  | run
  /-- The call is polled again in `recv`. -/
  | woken
  /-- The future of the call is dropped. -/
  | cancel
  /-- `start_connecting` with a full table, `process_ack` or `reject` answers a request. -/
  | answer (request : Nat) (answer : ConnectAnswer)
  /-- A request or its connecting socket is dropped with its sender. -/
  | dropRsp (request : Nat)
  | runSender (sender : Nat)
  | serialize (request : Nat)
  /-- The hello message of a request is dropped, after the frame was sent or with it. -/
  | dropHello (request : Nat)
  | runHello (hello : Nat)

end Connector

structure Connector (Hello : Type*) where
  helloSharer : SerBox.Sharing Hello
  rsp : Channel ConnectAnswer
  /-- How many calls were made. -/
  calls : Nat
  pc : Connector.Pc Hello
  /-- The requests that were sent. -/
  requests : List Connector.Request

namespace Connector

variable {Hello : Type*}

/-- `connector_with` a `Sharer` and a `Receiver` that are new. -/
def new (Hello : Type*) : Connector Hello where
  helloSharer := .boxed
  rsp := .new ConnectAnswer
  calls := 0
  pc := .idle
  requests := []

def shareFailed : SerBox.Event Hello → Bool
  | .shareFailed _ _ => true
  | .claimed _ | .claimFailed | .shared _ _ | .serialized _ _ | .droppedData _ | .freed | .woken
  | .touchedFreed => false

/-- Someone takes a step with the hello message. -/
def onHello (storage : SerBox.Storage) (connector : Connector Hello)
    (action : SerBox.Action Hello) : Option (Connector Hello × List Event) :=
  (SerBox.step storage connector.helloSharer action).map fun result =>
    ({ connector with helloSharer := result.1 }, [])

/-- The machine takes a step with a sender. -/
def onSender (connector : Connector Hello) (action : Oneshot.Action ConnectAnswer)
    (events : List Event) : Option (Connector Hello × List Event) :=
  (connector.rsp.step action).map fun result =>
    ({ connector with rsp := result.1 }, events ++ result.2.map .rsp)

/-- A call that ends drops the `Consumer` that it holds. -/
def releaseHello (storage : SerBox.Storage) (connector : Connector Hello) (hello : Nat) :
    Connector Hello :=
  match SerBox.step storage connector.helloSharer (.dropConsumer hello) with
  | some (helloSharer, _) => { connector with helloSharer := helloSharer }
  | none => connector

/-- The call goes on with what `rsp.sender()` or `rsp.recv()` has returned. -/
def resume (storage : SerBox.Storage) (connector : Connector Hello)
    (answer : Option (Answer ConnectAnswer)) : Connector Hello × List Event :=
  match connector.pc, answer with
  | .taking call hello, some (.sender (.ok sender)) =>
      ({ connector with pc := .sending call hello sender }, [])
  | .taking call hello, some (.sender (.error error)) =>
      ({ connector.releaseHello storage hello with pc := .panicked error },
        [.panicked call error])
  | .receiving call _, some (.recv result) =>
      ({ connector with pc := .idle }, [.returned call (.received result)])
  | _, _ => (connector, [])

/-- A step of the call in `rsp.sender()` or `rsp.recv()`. -/
def onRsp (storage : SerBox.Storage) (connector : Connector Hello)
    (action : Oneshot.Action ConnectAnswer) : Option (Connector Hello × List Event) :=
  (connector.rsp.step action).map fun result =>
    let resumed := { connector with rsp := result.1 }.resume storage (connector.rsp.answer action)
    (resumed.1, result.2.map .rsp ++ resumed.2)

/-- The next step of the call, `none` while it waits. -/
def run (storage : SerBox.Storage) (connector : Connector Hello) :
    Option (Connector Hello × List Event) :=
  match connector.pc with
  | .sharing call hello =>
      match SerBox.step storage connector.helloSharer (.tryShare 0 hello) with
      | some (helloSharer, events) =>
          some ({ connector with
              helloSharer := helloSharer
              pc := if events.any shareFailed then .parked call hello else .writing call }, [])
      | none => none
  | .writing call =>
      match SerBox.step storage connector.helloSharer (.runSharer 0),
          connector.rsp.step .sender with
      | some (helloSharer, _), some (rsp, _) =>
          some ({ connector with
              helloSharer := helloSharer
              rsp := rsp
              pc := .taking call connector.helloSharer.consumers.length }, [])
      | _, _ => none
  | .taking _ _ | .receiving _ _ => connector.onRsp storage .runRx
  | .sending call hello sender =>
      let request : Request := ⟨call.identity, hello, call.channel, sender⟩
      match connector.rsp.step .recv with
      | some (rsp, _) =>
          some ({ connector with
              rsp := rsp
              pc := .receiving call sender
              requests := connector.requests ++ [request] }, [.requested call request])
      | none => none
  | .idle | .reserving _ _ | .parked _ _ | .panicked _ => none

/-- The future of the call is dropped where it waits. -/
def cancel (storage : SerBox.Storage) (connector : Connector Hello) :
    Option (Connector Hello × List Event) :=
  match connector.pc with
  | .reserving call _ | .parked call _ =>
      some ({ connector with pc := .idle }, [.abandoned call])
  | .taking call hello =>
      (connector.rsp.step .cancel).map fun result =>
        ({ connector.releaseHello storage hello with rsp := result.1, pc := .idle },
          [.abandoned call])
  | .receiving call _ =>
      (connector.rsp.step .cancel).map fun result =>
        ({ connector with rsp := result.1, pc := .idle }, [.abandoned call])
  | .idle | .sharing _ _ | .writing _ | .sending _ _ _ | .panicked _ => none

def step (storage : SerBox.Storage) (connector : Connector Hello) :
    Action Hello → Option (Connector Hello × List Event)
  | .connect identity hello channel =>
      match connector.pc with
      | .idle =>
          some ({ connector with
              calls := connector.calls + 1
              pc := .reserving ⟨connector.calls, identity, channel⟩ hello }, [])
      | _ => none
  | .reserved permit =>
      match connector.pc with
      | .reserving call hello =>
          if permit then some ({ connector with pc := .sharing call hello }, [])
          else some ({ connector with pc := .idle }, [.returned call .closed])
      | _ => none
  | .sharerReady =>
      match connector.pc with
      | .parked call hello => some ({ connector with pc := .sharing call hello }, [])
      | _ => none
  | .run => connector.run storage
  | .woken => connector.onRsp storage .woken
  | .cancel => connector.cancel storage
  | .answer i answer =>
      match connector.requests[i]? with
      | some request => connector.onSender (.send request.rsp answer false) []
      | none => none
  | .dropRsp i =>
      match connector.requests[i]? with
      | some request =>
          connector.onSender (.dropSender request.rsp) [.droppedRsp request.rsp]
      | none => none
  | .runSender sender => connector.onSender (.runSender sender) []
  | .serialize i =>
      match connector.requests[i]? with
      | some request => connector.onHello storage (.serialize request.hello)
      | none => none
  | .dropHello i =>
      match connector.requests[i]? with
      | some request => connector.onHello storage (.dropConsumer request.hello)
      | none => none
  | .runHello hello => connector.onHello storage (.runConsumer hello)

end Connector

end Calliope

end Mgnp
