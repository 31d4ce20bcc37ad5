import Mgnp.ConnTableFreeList
import Mgnp.ConnTableSockets
import Mgnp.MessageCodec
import Mgnp.Simulation

/-!
# The loop of a machine

This file translates `Machine::run` in `lib.rs` for one machine whose wire may bring
any bytes and may fail at any time.  One iteration of the loop is one step.  An
iteration that fails ends the call with an error, after which `run` may be called
again.

A call into a local service may panic, as `commit_send` of its channel can.  Nothing else
does, whatever the wire brings.  Each error of the wire ends the call, and a frame is lost
exactly when the error is one of sending.
-/

namespace Mgnp

namespace Calliope

open ExceptRules LabelledRuns PositionWord

inductive InterfaceErrorKind (Error : Type)
  | send (error : Error)
  | recv (error : Error)
  | proto (message : String)
  deriving DecidableEq

structure InterfaceError (Error : Type) where
  kind : InterfaceErrorKind Error
  ctx : Option String
  deriving DecidableEq

namespace InterfaceError

variable {Error : Type}

def send (error : Error) : InterfaceError Error := ⟨.send error, none⟩

def recv (error : Error) : InterfaceError Error := ⟨.recv error, none⟩

def withContext (error : InterfaceError Error) (ctx : String) : InterfaceError Error :=
  { error with ctx := some ctx }

end InterfaceError

/-- The call that an inbound frame makes into a local service. -/
inductive LocalCall
  /-- The body of a DATA frame is sent to a channel. -/
  | send (channel : Nat) (body : List UInt8)
  /-- `Registry::connect`. -/
  | connect (identity : Identity) (hello : List UInt8)
  deriving DecidableEq

/-- No call into a local service panics. -/
def LocalCall.returns (_ : LocalCall) : Option String := none

/-- The call that `process_inbound` makes, if any.  It makes it before it touches the
table. -/
def ConnTable.localCall {capacity : Nat} (table : ConnTable capacity) (frame : InboundFrame) :
    Option LocalCall :=
  match frame.header with
  | .data localId id =>
      match (table.entry id).bind Entry.socket with
      | some ⟨.opened remoteId, channel⟩ =>
          if localId ≠ remoteId then none else some (.send channel frame.body)
      | some ⟨.connecting _, _⟩ | none => none
  | .connect _ identity => some (.connect identity frame.body)
  | .ack _ _ | .reject _ _ | .reset _ _ => none

/-- A frame that makes no call is processed without an answer of the local services. -/
theorem ConnTable.processInbound_of_no_call {capacity : Nat} {table : ConnTable capacity}
    {frame : InboundFrame} (noCall : table.localCall frame = none) (locals : Locals)
    (channel : Nat) (send : Nat → List UInt8 → Except SerSendError Unit)
    (connect : Identity → List UInt8 → Except Rejection Unit) :
    table.processInbound { locals with send := send, connect := connect } channel frame =
      table.processInbound locals channel frame := by
  obtain ⟨header, body⟩ := frame
  cases header with
  | data localId id =>
      simp only [processInbound, processData, localCall] at noCall ⊢
      split at noCall
      · rename_i remoteId bound found
        split at noCall
        · rename_i other
          simp only [found, if_pos other]
        · contradiction
      · rename_i rsp bound found
        simp only [found]
      · rename_i found
        simp only [found]
  | connect localId identity => cases noCall
  | ack | reject | reset => rfl

/-- What an iteration finds ready.  `sent` is the wire's answer if a frame is sent, and
`crash` is the message of a call into a local service that panics. -/
inductive Turn (Error : Type)
  /-- `wire.recv()` is ready. -/
  | inbound (buf : Except Error (List UInt8)) (locals : Locals)
      (crash : LocalCall → Option String) (sent : Except Error Unit)
  /-- `next_outbound` is polled. -/
  | outbound (locals : Locals) (sent : Except Error Unit)
  /-- `next_outbound` is pending and `conns_rx.recv()` is ready. -/
  | connect (locals : Locals) (conn : Option (Identity × List UInt8))
      (sent : Except Error Unit)
  /-- `run` is called again after it returned. -/
  | again

inductive RunEvent (Error : Type)
  | table (event : Event)
  | undecodable (error : DecodeError)
  | sent (frame : OutboundFrame) (account : Option Nat)
  | lost (frame : OutboundFrame) (account : Option Nat)
  | returned (error : InterfaceError Error)
  deriving DecidableEq

/-- How a call of `run` ends. -/
inductive RunEnd (Error : Type)
  | returned (error : InterfaceError Error)
  | panicked (message : String)
  /-- The panic of a local service unwinds through the call. -/
  | crashed (call : LocalCall) (message : String)
  deriving DecidableEq

/-- A machine and its last call of `run`.  Every channel of a connection is new. -/
structure Running (Error : Type) (capacity : Nat) where
  table : ConnTable capacity
  freshChannel : Nat
  connsRemaining : Bool
  ended : Option (RunEnd Error)

namespace Running

variable {Error : Type} {capacity : Nat}

def new (Error : Type) (capacity : Nat) : Running Error capacity :=
  ⟨.new capacity, 0, true, none⟩

def panic (running : Running Error capacity) (message : String) :
    Running Error capacity × List (RunEvent Error) :=
  ({ running with ended := some (.panicked message) }, [])

def fail (running : Running Error capacity) (error : InterfaceError Error) :
    Running Error capacity × List (RunEvent Error) :=
  ({ running with ended := some (.returned error) }, [.returned error])

/-- The frame of an operation is sent.  A failure returns `onError`. -/
def send (running : Running Error capacity) (outcome : Outcome capacity)
    (sent : Except Error Unit) (onError : Error → InterfaceError Error) :
    Running Error capacity × List (RunEvent Error) :=
  let after := { running with table := outcome.table, freshChannel := running.freshChannel + 1 }
  let events := outcome.events.map .table
  match outcome.frame with
  | none => (after, events)
  | some frame =>
      match sent with
      | .ok () => (after, events ++ [.sent frame outcome.account])
      | .error error =>
          let (failed, returned) := after.fail (onError error)
          (failed, events ++ .lost frame outcome.account :: returned)

/-- The table performs an operation. -/
def perform (running : Running Error capacity) (operated : Except String (Outcome capacity))
    (sent : Except Error Unit) (onError : Error → InterfaceError Error) :
    Running Error capacity × List (RunEvent Error) :=
  match operated with
  | .error message => running.panic message
  | .ok outcome => running.send outcome sent onError

/-- The call into a local service that a frame makes, and how it panics. -/
def crashing (running : Running Error capacity) (crash : LocalCall → Option String)
    (frame : InboundFrame) : Option (LocalCall × String) := do
  let call ← running.table.localCall frame
  let message ← crash call
  return (call, message)

/-- An inbound buffer is decoded and processed.  A connection that it opens is bound to
`channel`. -/
def inbound (width : PointerWidth) (running : Running Error capacity) (buf : List UInt8)
    (locals : Locals) (crash : LocalCall → Option String) (channel : Nat)
    (sent : Except Error Unit) : Running Error capacity × List (RunEvent Error) :=
  match Frame.fromBytes width buf with
  | .error error => (running, [.undecodable error])
  | .ok frame =>
      if frame.header.linkId = LinkId.interface then
        running.panic "not yet implemented: eliza: handle interface frame"
      else
        match running.crashing crash frame with
        | some (call, message) =>
            ({ running with ended := some (.crashed call message) }, [])
        | none =>
            running.perform (running.table.processInbound locals channel frame) sent
              fun error =>
                (InterfaceError.send error).withContext
                  "while sending inbound frame response (ACK/NAK)"

/-- `next_outbound` is polled, and its frame is sent. -/
def outbound (build : Build) (running : Running Error capacity) (locals : Locals)
    (sent : Except Error Unit) : Running Error capacity × List (RunEvent Error) :=
  running.perform (running.table.nextOutbound build locals) sent .send

/-- A locally-initiated connect request. -/
def connect (running : Running Error capacity) (locals : Locals) (conn : OutboundConnect)
    (sent : Except Error Unit) : Running Error capacity × List (RunEvent Error) :=
  running.perform (running.table.startConnecting locals conn) sent fun error =>
    (InterfaceError.send error).withContext "while sending local-initiated CONNECT"

/-- What `conns_rx.recv()` returned: a request, or the end of the stream. -/
def takeConn (running : Running Error capacity) (locals : Locals)
    (conn : Option (Identity × List UInt8)) (sent : Except Error Unit) :
    Running Error capacity × List (RunEvent Error) :=
  match conn with
  | some (identity, hello) =>
      running.connect locals
        ⟨identity, hello, running.freshChannel, running.freshChannel⟩ sent
  | none => ({ running with connsRemaining := false }, [])

/-- `next_outbound` was polled and is pending. -/
def polled (running : Running Error capacity) (table : ConnTable capacity) :
    Running Error capacity :=
  { running with table := table, freshChannel := running.freshChannel + 1 }

/-- One iteration of the loop, or another call. -/
def step (build : Build) (width : PointerWidth) (running : Running Error capacity)
    (turn : Turn Error) : Option (Running Error capacity × List (RunEvent Error)) :=
  match running.ended, turn with
  | none, .inbound (.error error) _ _ _ => some (running.fail (.recv error))
  | none, .inbound (.ok buf) locals crash sent =>
      some (running.inbound width buf locals crash running.freshChannel sent)
  | none, .outbound locals sent => some (running.outbound build locals sent)
  | none, .connect locals conn sent =>
      match running.connsRemaining, running.table.nextOutbound build locals with
      | true, .ok ⟨table, none, _, events⟩ =>
          let (after, later) := (running.polled table).takeConn locals conn sent
          some (after, events.map .table ++ later)
      | true, .ok ⟨_, some _, _, _⟩ | true, .error _ | false, _ => none
  | some (.returned _), .again =>
      some ({ running with connsRemaining := true, ended := none }, [])
  | none, .again | some _, _ => none

/-- The operations of the table alone. -/
def session (running : Running Error capacity) : Session capacity where
  table := running.table
  freshChannel := running.freshChannel
  panic :=
    match running.ended with
    | some (.panicked message) => some message
    | some (.returned _) | some (.crashed _ _) | none => none

end Running

/-- What the table reports of an event.  It does not learn whether its frame was sent. -/
def RunEvent.ofTable {Error : Type} : RunEvent Error → Option Event
  | .table event => some event
  | .sent frame account | .lost frame account => some (.emitted frame account)
  | .undecodable _ | .returned _ => none

section Simulations

variable {Error : Type} {capacity : Nat} {build : Build} {width : PointerWidth}
  {running next : Running Error capacity} {turn : Turn Error} {events : List (RunEvent Error)}

theorem RunEvent.ofTable_map (events : List Event) :
    (events.map (@RunEvent.table Error)).filterMap RunEvent.ofTable = events := by
  rw [List.filterMap_map]
  exact List.filterMap_some

theorem Running.send_simulates (calm : running.ended = none) (outcome : Outcome capacity)
    (sent : Except Error Unit) (onError : Error → InterfaceError Error) :
    (running.send outcome sent onError).1.session =
        ⟨outcome.table, running.freshChannel + 1, none⟩ ∧
      (running.send outcome sent onError).2.filterMap RunEvent.ofTable =
        outcome.events ++ outcome.frame.toList.map (.emitted · outcome.account) := by
  unfold Running.send
  cases outcome.frame with
  | none =>
      refine ⟨by simp [Running.session, calm], ?_⟩
      exact (RunEvent.ofTable_map _).trans (List.append_nil _).symm
  | some frame =>
      cases sent with
      | ok =>
          refine ⟨by simp [Running.session, calm], ?_⟩
          dsimp only
          rw [List.filterMap_append, RunEvent.ofTable_map]
          rfl
      | error error =>
          refine ⟨by simp [Running.session, Running.fail], ?_⟩
          dsimp only [Running.fail]
          rw [List.filterMap_append, RunEvent.ofTable_map]
          rfl

theorem Running.session_panic (calm : running.ended = none) : running.session.panic = none := by
  simp [Running.session, calm]

/-- Performing an operation is a step of the table. -/
theorem Running.perform_simulates (build : Build) (calm : running.ended = none)
    (action : Action) (sent : Except Error Unit) (onError : Error → InterfaceError Error) :
    Run (Session.step build) anyStep running.session
      ((running.perform (running.session.operation build action) sent onError).2.filterMap
        RunEvent.ofTable)
      (running.perform (running.session.operation build action) sent onError).1.session := by
  have admitted : anyStep running.session action := trivial
  apply Run.single admitted
  unfold Session.step Running.perform
  rw [Running.session_panic calm]
  cases operated : running.session.operation build action with
  | error message => rfl
  | ok outcome =>
      obtain ⟨session, events⟩ := Running.send_simulates calm outcome sent onError
      dsimp only
      rw [session, events]
      rfl

/-- An inbound buffer makes the table process the frame that it encodes, if any. -/
theorem Running.inbound_simulates (build : Build) (width : PointerWidth)
    (calm : running.ended = none) (buf : List UInt8) (locals : Locals)
    (crash : LocalCall → Option String) (sent : Except Error Unit) :
    Run (Session.step build) anyStep running.session
      ((running.inbound width buf locals crash running.freshChannel sent).2.filterMap
        RunEvent.ofTable)
      (running.inbound width buf locals crash running.freshChannel sent).1.session := by
  unfold Running.inbound
  cases Frame.fromBytes width buf with
  | error error => exact .refl
  | ok frame =>
      dsimp only
      rw [if_neg frame.header.linkId_ne_interface]
      cases running.crashing crash frame with
      | none => exact Running.perform_simulates build calm (.processInbound locals frame) sent _
      | some crashed =>
          obtain ⟨call, message⟩ := crashed
          have same : ({ running with ended := some (.crashed call message) } :
              Running Error capacity).session = running.session := by
            simp [Running.session, calm]
          dsimp only
          rw [same]
          exact .refl

/-- Polling a pending `next_outbound` is a step of the table. -/
theorem Running.polled_simulates (calm : running.ended = none) {locals : Locals}
    {table : ConnTable capacity} {account : Option Nat} {cleanup : List Event}
    (pending : running.table.nextOutbound build locals = .ok ⟨table, none, account, cleanup⟩) :
    Run (Session.step build) anyStep running.session cleanup (running.polled table).session := by
  have operated : running.session.operation build (.nextOutbound locals) =
      .ok ⟨table, none, account, cleanup⟩ := pending
  have admitted : anyStep running.session (Action.nextOutbound locals) := trivial
  apply Run.single admitted
  unfold Session.step
  rw [Running.session_panic calm, operated]
  simp [Running.session, Running.polled, calm]

theorem Running.takeConn_simulates (build : Build) (calm : running.ended = none)
    (locals : Locals) (conn : Option (Identity × List UInt8)) (sent : Except Error Unit) :
    Run (Session.step build) anyStep running.session
      ((running.takeConn locals conn sent).2.filterMap RunEvent.ofTable)
      (running.takeConn locals conn sent).1.session := by
  cases conn with
  | none => exact .refl
  | some request =>
      obtain ⟨identity, hello⟩ := request
      exact Running.perform_simulates build calm (.startConnecting locals identity hello) sent _

/-- What an iteration does in a call that has not ended. -/
inductive Running.Iterates (build : Build) (width : PointerWidth)
    (running next : Running Error capacity) (events : List (RunEvent Error)) : Prop
  | recvFailed (error : Error) (result : running.fail (.recv error) = (next, events))
  | inbound (buf : List UInt8) (locals : Locals) (crash : LocalCall → Option String)
      (sent : Except Error Unit)
      (result : running.inbound width buf locals crash running.freshChannel sent =
        (next, events))
  | outbound (locals : Locals) (sent : Except Error Unit)
      (result : running.outbound build locals sent = (next, events))
  | connect (locals : Locals) (conn : Option (Identity × List UInt8))
      (sent : Except Error Unit) {table : ConnTable capacity} {account : Option Nat}
      {cleanup : List Event} {later : List (RunEvent Error)}
      (pending : running.table.nextOutbound build locals =
        .ok ⟨table, none, account, cleanup⟩)
      (result : (running.polled table).takeConn locals conn sent = (next, later))
      (eventsEq : events = cleanup.map .table ++ later)

/-- A step is an iteration of a call that has not ended, or the next call. -/
theorem Running.step_cases (stepTo : running.step build width turn = some (next, events)) :
    (running.ended = none ∧ running.Iterates build width next events) ∨
    ∃ error, running.ended = some (.returned error) ∧ events = [] ∧
      next = { running with connsRemaining := true, ended := none } := by
  unfold Running.step at stepTo
  split at stepTo
  · rename_i error locals crash sent calm
    exact .inl ⟨calm, .recvFailed error (Option.some.inj stepTo)⟩
  · rename_i buf locals crash sent calm
    exact .inl ⟨calm, .inbound buf locals crash sent (Option.some.inj stepTo)⟩
  · rename_i locals sent calm
    exact .inl ⟨calm, .outbound locals sent (Option.some.inj stepTo)⟩
  · rename_i locals conn sent calm
    split at stepTo
    · rename_i table account cleanup remaining pending
      obtain ⟨rfl, rfl⟩ := by simpa using stepTo
      exact .inl ⟨calm, .connect locals conn sent pending rfl rfl⟩
    all_goals contradiction
  · rename_i error ended
    obtain ⟨rfl, rfl⟩ := by simpa using stepTo
    exact .inr ⟨error, ended, rfl, rfl⟩
  all_goals contradiction

/-- Every iteration performs at most two operations of the table. -/
theorem Running.step_simulates
    (stepTo : running.step build width turn = some (next, events)) :
    Run (Session.step build) anyStep running.session (events.filterMap RunEvent.ofTable)
      next.session := by
  rcases Running.step_cases stepTo with ⟨calm, iterates⟩ | ⟨error, ended, rfl, rfl⟩
  · cases iterates with
    | recvFailed error result =>
        obtain ⟨rfl, rfl⟩ := by simpa [Running.fail] using result
        have same : Running.session { running with ended := some (.returned (.recv error)) } =
            running.session := by
          simp [Running.session, calm]
        rw [same]
        exact .refl
    | inbound buf locals crash sent result =>
        have simulates := Running.inbound_simulates build width calm buf locals crash sent
        rwa [result] at simulates
    | outbound locals sent result =>
        have simulates := Running.perform_simulates build calm (.nextOutbound locals) sent .send
        change Run _ _ _ ((running.outbound build locals sent).2.filterMap _)
          (running.outbound build locals sent).1.session at simulates
        rwa [result] at simulates
    | @connect locals conn sent table account cleanup later pending result eventsEq =>
        have calmed : (running.polled table).ended = none := calm
        have takes := Running.takeConn_simulates build calmed locals conn sent
        rw [result] at takes
        rw [eventsEq, List.filterMap_append, RunEvent.ofTable_map]
        exact (Running.polled_simulates calm pending).trans takes
  · have same : ({ running with connsRemaining := true, ended := none } :
        Running Error capacity).session = running.session := by
      simp [Running.session, ended]
    rw [same]
    exact .refl

/-- The table sees only its operations. -/
def Running.simulation (Error : Type) (capacity : Nat) (build : Build) (width : PointerWidth) :
    Simulation (Running.step build width) anyStep (Running.new Error capacity)
      (Session.step build) anyStep (Session.new capacity) where
  related running session := running.session = session
  seen := RunEvent.ofTable
  initially := rfl
  simulates := by
    rintro running next turn events session rfl - stepTo
    exact ⟨next.session, Running.step_simulates stepTo, rfl⟩

/-- Whatever bytes the wire brings, whenever it fails and however often `run` is called,
the table goes through a run of its own. -/
theorem machine_run_table {history : List (RunEvent Error)} {final : Running Error capacity}
    (run : Run (Running.step build width) anyStep (Running.new Error capacity) history final) :
    Run (Session.step build) anyStep (Session.new capacity)
      (history.filterMap RunEvent.ofTable) final.session := by
  obtain ⟨session, simulated, rfl⟩ := (Running.simulation Error capacity build width).run run
  exact simulated

end Simulations

section Errors

variable {Error : Type} {capacity : Nat} {build : Build} {width : PointerWidth}
  {running next final : Running Error capacity} {turn : Turn Error}
  {history events : List (RunEvent Error)}

/-- The contexts in which a frame with this header is sent. -/
def Header.contexts : Header → List (Option String)
  | .connect _ _ => [some "while sending local-initiated CONNECT"]
  | .data _ _ => [none]
  | .ack _ _ | .reject _ _ => [some "while sending inbound frame response (ACK/NAK)"]
  | .reset _ _ => [none, some "while sending inbound frame response (ACK/NAK)"]

def RunEvent.lostFrame : RunEvent Error → Option OutboundFrame
  | .lost frame _ => some frame
  | .table _ | .undecodable _ | .sent _ _ | .returned _ => none

/-- The error of a failure to send. -/
def RunEvent.sendError : RunEvent Error → Option (InterfaceError Error)
  | .returned ⟨.send error, ctx⟩ => some ⟨.send error, ctx⟩
  | .returned ⟨.recv _, _⟩ | .returned ⟨.proto _, _⟩ => none
  | .table _ | .undecodable _ | .sent _ _ | .lost _ _ => none

/-- The event does not report that the call fails. -/
def RunEvent.fine : RunEvent Error → Bool
  | .table _ | .undecodable _ | .sent _ _ => true
  | .lost _ _ | .returned _ => false

/-- How an iteration ends the call, if it does, with the events that report it. -/
inductive Ending : Option (RunEnd Error) → List (RunEvent Error) → Prop
  | continues : Ending none []
  | panicked (message : String) : Ending (some (.panicked message)) []
  | crashed (call : LocalCall) (message : String) : Ending (some (.crashed call message)) []
  | recvFailed (error : Error) :
      Ending (some (.returned (.recv error))) [.returned (.recv error)]
  | sendFailed {frame : OutboundFrame} {account : Option Nat} {error : Error}
      {ctx : Option String} (fits : ctx ∈ frame.header.contexts) :
      Ending (some (.returned ⟨.send error, ctx⟩))
        [.lost frame account, .returned ⟨.send error, ctx⟩]

/-- The events of an iteration, of which only the last report a failure. -/
def Ends (next : Running Error capacity) (events : List (RunEvent Error)) : Prop :=
  ∃ quiet ending, events = quiet ++ ending ∧ (∀ event ∈ quiet, event.fine = true) ∧
    Ending next.ended ending

theorem Ends.of_quiet (calm : next.ended = none)
    (quiet : ∀ event ∈ events, event.fine = true) : Ends next events :=
  ⟨events, [], (List.append_nil _).symm, quiet, calm ▸ .continues⟩

theorem Ends.append (ends : Ends next events) {earlier : List (RunEvent Error)}
    (quiet : ∀ event ∈ earlier, event.fine = true) : Ends next (earlier ++ events) := by
  obtain ⟨own, ending, rfl, fine, isEnding⟩ := ends
  refine ⟨earlier ++ own, ending, (List.append_assoc ..).symm, ?_, isEnding⟩
  exact List.forall_mem_append.mpr ⟨quiet, fine⟩

theorem RunEvent.fine_map (events : List Event) :
    ∀ event ∈ events.map (@RunEvent.table Error), event.fine = true := by
  simp [RunEvent.fine]

theorem Running.send_ends (calm : running.ended = none) {outcome : Outcome capacity}
    (sent : Except Error Unit) {onError : Error → InterfaceError Error} {ctx : Option String}
    (isSend : ∀ error, onError error = ⟨.send error, ctx⟩)
    (fits : ∀ frame ∈ outcome.frame, ctx ∈ frame.header.contexts) :
    Ends (running.send outcome sent onError).1 (running.send outcome sent onError).2 := by
  unfold Running.send
  cases isFrame : outcome.frame with
  | none => exact .of_quiet calm (RunEvent.fine_map _)
  | some frame =>
      cases sent with
      | ok =>
          apply Ends.of_quiet calm
          exact List.forall_mem_append.mpr ⟨RunEvent.fine_map _, by simp [RunEvent.fine]⟩
      | error error =>
          refine ⟨_, _, rfl, RunEvent.fine_map _, ?_⟩
          simp only [Running.fail, isSend]
          exact .sendFailed (fits frame isFrame)

theorem Running.perform_ends (calm : running.ended = none)
    {operated : Except String (Outcome capacity)} {sent : Except Error Unit}
    {onError : Error → InterfaceError Error} {ctx : Option String}
    (result : running.perform operated sent onError = (next, events))
    (isSend : ∀ error, onError error = ⟨.send error, ctx⟩)
    (fits : Ensures operated fun outcome =>
      ∀ frame ∈ outcome.frame, ctx ∈ frame.header.contexts) :
    Ends next events := by
  unfold Running.perform at result
  cases operated with
  | error message =>
      obtain ⟨rfl, rfl⟩ := by simpa [Running.panic] using result
      exact ⟨[], [], rfl, by simp, .panicked message⟩
  | ok outcome =>
      have ends := Running.send_ends calm sent isSend (fits outcome rfl)
      dsimp only at result
      rwa [result] at ends

section Frames

variable (locals : Locals) (table : ConnTable capacity)

/-- A table whose entries all have ids is a map of sockets. -/
theorem ConnTable.exists_shows (small : capacity < 2 ^ 16 - 1) :
    ∃ view, table.Shows view := by
  refine ⟨⟨fun id => (table.entry id).bind Entry.socket, table.deadIndex⟩, fun _ => rfl, rfl, ?_⟩
  intro index socket found
  obtain ⟨inside, -⟩ := Vector.getElem?_eq_some_iff.mp found
  exact Nat.lt_trans inside small

theorem ConnTable.processInbound_contexts (small : capacity < 2 ^ 16 - 1) (channel : Nat)
    (inbound : InboundFrame) :
    Ensures (table.processInbound locals channel inbound) fun outcome =>
      ∀ frame ∈ outcome.frame,
        some "while sending inbound frame response (ACK/NAK)" ∈ frame.header.contexts := by
  obtain ⟨view, agrees⟩ := table.exists_shows small
  intro outcome operated
  obtain ⟨after, -, receives⟩ := agrees.processInbound channel inbound outcome operated
  generalize outcome.frame = frame at receives ⊢
  generalize outcome.account = account at receives
  generalize outcome.events = events at receives
  generalize inbound.header = header at receives
  cases receives <;> simp [Header.contexts, Frame.reset, Frame.ack, Frame.reject]

theorem ConnTable.nextOutbound_contexts (small : capacity < 2 ^ 16 - 1) (build : Build) :
    Ensures (table.nextOutbound build locals) fun outcome =>
      ∀ frame ∈ outcome.frame, none ∈ frame.header.contexts := by
  obtain ⟨view, agrees⟩ := table.exists_shows small
  intro outcome operated
  obtain ⟨after, events, -, sends, -⟩ := agrees.nextOutbound build outcome operated
  generalize outcome.frame = frame at sends ⊢
  generalize outcome.account = account at sends
  cases sends <;> simp [Header.contexts, Frame.data, Frame.reset]

theorem ConnTable.startConnecting_contexts (small : capacity < 2 ^ 16 - 1)
    (conn : OutboundConnect) :
    Ensures (table.startConnecting locals conn) fun outcome =>
      ∀ frame ∈ outcome.frame,
        some "while sending local-initiated CONNECT" ∈ frame.header.contexts := by
  obtain ⟨view, agrees⟩ := table.exists_shows small
  intro outcome operated
  obtain ⟨after, -, starts⟩ := agrees.startConnecting conn outcome operated
  generalize outcome.frame = frame at starts ⊢
  generalize outcome.account = account at starts
  generalize outcome.events = events at starts
  cases starts <;> simp [Header.contexts, Frame.connect]

end Frames

theorem Running.Iterates.ends (small : capacity < 2 ^ 16 - 1) (calm : running.ended = none)
    (iterates : running.Iterates build width next events) : Ends next events := by
  cases iterates with
  | recvFailed error result =>
      obtain ⟨rfl, rfl⟩ := by simpa [Running.fail] using result
      exact ⟨[], _, rfl, by simp, .recvFailed error⟩
  | inbound buf locals crash sent result =>
      unfold Running.inbound at result
      split at result
      · obtain ⟨rfl, rfl⟩ := by simpa using result
        exact .of_quiet calm (by simp [RunEvent.fine])
      · rename_i frame decoded
        rw [if_neg frame.header.linkId_ne_interface] at result
        split at result
        · rename_i call message crashes
          obtain ⟨rfl, rfl⟩ := by simpa using result
          exact ⟨[], [], rfl, by simp, .crashed call message⟩
        · exact Running.perform_ends calm result (fun _ => rfl)
            (ConnTable.processInbound_contexts locals running.table small running.freshChannel
              frame)
  | outbound locals sent result =>
      exact Running.perform_ends calm result (fun _ => rfl)
        (ConnTable.nextOutbound_contexts locals running.table small build)
  | @connect locals conn sent table account cleanup later pending result eventsEq =>
      rw [eventsEq]
      apply Ends.append _ (RunEvent.fine_map cleanup)
      cases conn with
      | none =>
          obtain ⟨rfl, rfl⟩ := by simpa [Running.takeConn] using result
          exact .of_quiet calm (by simp)
      | some request =>
          have calmed : (running.polled table).ended = none := calm
          exact Running.perform_ends calmed result (fun _ => rfl)
            (ConnTable.startConnecting_contexts locals table small _)

/-- What a machine has lost and returned. -/
structure Accounted (history : List (RunEvent Error)) (final : Running Error capacity) :
    Prop where
  /-- Every error of sending loses one frame, which its context names. -/
  lost : List.Forall₂ (fun frame error => error.ctx ∈ frame.header.contexts)
    (history.filterMap RunEvent.lostFrame) (history.filterMap RunEvent.sendError)
  /-- Every other error is one of receiving. -/
  received : ∀ error, .returned error ∈ history →
    (∃ failed, error = .recv failed) ∨ (RunEvent.returned error).sendError = some error
  last : ∀ error, final.ended = some (.returned error) →
    history.getLast? = some (.returned error)

theorem RunEvent.filterMap_fine {quiet : List (RunEvent Error)}
    (fine : ∀ event ∈ quiet, event.fine = true) :
    quiet.filterMap lostFrame = [] ∧ quiet.filterMap sendError = [] := by
  constructor
  · apply List.filterMap_eq_nil_iff.mpr
    intro event member
    have isFine := fine event member
    cases event <;> first | rfl | cases isFine
  · apply List.filterMap_eq_nil_iff.mpr
    intro event member
    have isFine := fine event member
    cases event <;> first | rfl | cases isFine

theorem Accounted.extend (accounted : Accounted history running) (ends : Ends next events) :
    Accounted (history ++ events) next := by
  obtain ⟨quiet, ending, rfl, fine, isEnding⟩ := ends
  obtain ⟨noneLost, noneFailed⟩ := RunEvent.filterMap_fine fine
  have quietly : ∀ error, .returned error ∉ quiet := by
    intro error member
    cases fine _ member
  constructor
  · simp only [List.filterMap_append, noneLost, noneFailed, List.nil_append]
    apply List.rel_append accounted.lost
    generalize next.ended = ended at isEnding
    cases isEnding with
    | continues | panicked | crashed | recvFailed => exact .nil
    | sendFailed fits => exact .cons fits .nil
  · intro error member
    rcases List.mem_append.mp member with before | now
    · exact accounted.received error before
    rcases List.mem_append.mp now with inQuiet | atEnd
    · exact absurd inQuiet (quietly error)
    · generalize next.ended = ended at isEnding
      cases isEnding with
      | continues | panicked | crashed => cases atEnd
      | recvFailed failed =>
          obtain rfl := by simpa using atEnd
          exact .inl ⟨failed, rfl⟩
      | sendFailed fits =>
          obtain rfl := by simpa using atEnd
          exact .inr rfl
  · intro error returned
    rw [returned] at isEnding
    cases isEnding with
    | recvFailed failed => simp
    | sendFailed fits => simp

theorem Running.perform_not_crashed (calm : running.ended = none)
    {operated : Except String (Outcome capacity)} {sent : Except Error Unit}
    {onError : Error → InterfaceError Error}
    (result : running.perform operated sent onError = (next, events)) (call : LocalCall)
    (message : String) : next.ended ≠ some (.crashed call message) := by
  unfold Running.perform Running.send at result
  split at result
  · obtain ⟨rfl, -⟩ := by simpa [Running.panic] using result
    simp
  · dsimp only at result
    split at result
    · obtain ⟨rfl, -⟩ := by simpa using result
      simp [calm]
    · split at result
      · obtain ⟨rfl, -⟩ := by simpa using result
        simp [calm]
      · obtain ⟨rfl, -⟩ := by simpa [Running.fail] using result
        simp

/-- When a local service has panicked, the table is as it was when a frame made the call
into that service. -/
def Running.CrashedByCall (running : Running Error capacity) : Prop :=
  ∀ call message, running.ended = some (.crashed call message) →
    ∃ frame, running.table.localCall frame = some call

theorem Running.Iterates.crashedByCall (calm : running.ended = none)
    (iterates : running.Iterates build width next events) : next.CrashedByCall := by
  intro call message ended
  cases iterates with
  | recvFailed error result =>
      obtain ⟨rfl, -⟩ := by simpa [Running.fail] using result
      simp at ended
  | inbound buf locals crash sent result =>
      unfold Running.inbound at result
      split at result
      · obtain ⟨rfl, -⟩ := by simpa using result
        simp [calm] at ended
      · rename_i frame decoded
        rw [if_neg frame.header.linkId_ne_interface] at result
        split at result
        · rename_i made failure crashes
          obtain ⟨rfl, -⟩ := by simpa using result
          obtain ⟨own, isCall, fails, isMessage, same⟩ :
              ∃ own, running.table.localCall frame = some own ∧
                ∃ fails, crash own = some fails ∧ (own, fails) = (made, failure) := by
            simpa [Running.crashing, Option.bind_eq_some_iff] using crashes
          obtain ⟨rfl, rfl⟩ := Prod.mk.inj same
          obtain ⟨rfl, -⟩ := by simpa using ended
          exact ⟨frame, isCall⟩
        · exact absurd ended (Running.perform_not_crashed calm result call message)
  | outbound locals sent result =>
      exact absurd ended (Running.perform_not_crashed calm result call message)
  | @connect locals conn sent table account cleanup later pending result eventsEq =>
      have calmed : (running.polled table).ended = none := calm
      cases conn with
      | none =>
          obtain ⟨rfl, -⟩ := by simpa [Running.takeConn] using result
          simp [calmed] at ended
      | some request =>
          exact absurd ended (Running.perform_not_crashed calmed result call message)

/-- A machine whose table leaves one id unused does not panic, whatever the wire brings.
Its call is ended by a panic only when a call that it makes into a local service panics.
It loses a frame for each error of sending that it returns, and none besides. -/
theorem machine_survives (small : capacity < 2 ^ 16 - 1)
    (run : Run (Running.step build width) anyStep (Running.new Error capacity) history final) :
    (∀ message, final.ended ≠ some (.panicked message)) ∧ final.CrashedByCall ∧
      final.table.Represented ∧ Accounted history final := by
  obtain ⟨noPanic, represented, -⟩ := table_represented small (machine_run_table run)
  have kept : final.CrashedByCall ∧ Accounted history final := by
    apply run.invariant fun past running => running.CrashedByCall ∧ Accounted past running
    · refine ⟨?_, .nil, by simp, by simp [Running.new]⟩
      intro call message ended
      cases ended
    · intro past events before after turn invariant _ stepTo
      obtain ⟨-, accounted⟩ := invariant
      rcases Running.step_cases stepTo with ⟨calm, iterates⟩ | ⟨error, -, rfl, rfl⟩
      · exact ⟨iterates.crashedByCall calm, accounted.extend (iterates.ends small calm)⟩
      · rw [List.append_nil]
        refine ⟨?_, accounted.lost, accounted.received, by simp⟩
        intro call message ended
        cases ended
  refine ⟨?_, kept.1, represented, kept.2⟩
  intro message ended
  simp [Running.session, ended] at noPanic

/-- Sending to a local channel panics. -/
def LocalCall.sendPanics : LocalCall → Option String
  | .send _ _ => some "internal error: entered unreachable code"
  | .connect _ _ => none

/-- A buffer that does not decode, a DATA frame for no connection whose RESET is lost, a
second call that fails to receive, and a third in which the receiver of the message
panics. -/
def hostileTurns : List (Turn Nat) :=
  [.inbound (.ok [255]) .quiet LocalCall.returns (.ok ()),
    .connect .quiet (some (.sample, [])) (.ok ()),
    .inbound (.ok [1, 5, 5, 0]) .quiet LocalCall.returns (.error 7), .again,
    .inbound (.error 9) .quiet LocalCall.returns (.ok ()), .again,
    .inbound (.ok [2, 5, 1]) .quiet LocalCall.sendPanics (.ok ()),
    .inbound (.ok [1, 5, 1, 7]) .quiet LocalCall.sendPanics (.ok ())]

theorem machine_survives_hostile :
    ∃ history final,
      Run (Running.step .debug .bits64) anyStep (Running.new Nat 1) history final ∧
      history.filterMap RunEvent.lostFrame = [.reset ⟨5, by decide⟩ .noSuchConn] ∧
      final.ended =
        some (.crashed (.send 1 [7]) "internal error: entered unreachable code") ∧
      final.CrashedByCall ∧ final.table.Represented ∧ Accounted history final := by
  obtain ⟨history, final, run, observed⟩ :=
    exists_run_of_exec (Running.step .debug .bits64) anyStep (Running.new Nat 1) hostileTurns
      (fun reached => decide
        (reached.2.filterMap RunEvent.lostFrame = [.reset ⟨5, by decide⟩ .noSuchConn] ∧
          reached.1.ended =
            some (.crashed (.send 1 [7]) "internal error: entered unreachable code")))
      (show _ = some true by decide +kernel)
  obtain ⟨lost, ended⟩ := of_decide_eq_true observed
  obtain ⟨-, byCall, represented, accounted⟩ := machine_survives (by decide) run
  exact ⟨history, final, run, lost, ended, byCall, represented, accounted⟩

/-- The table of that machine has done its own part of the run. -/
theorem machine_run_table_hostile :
    ∃ history final,
      Run (Running.step .debug .bits64) anyStep (Running.new Nat 1) history final ∧
      .undecodable (.header .unexpectedEnd) ∈ history ∧
      Run (Session.step .debug) anyStep (Session.new 1) (history.filterMap RunEvent.ofTable)
        final.session := by
  obtain ⟨history, final, run, observed⟩ :=
    exists_run_of_exec (Running.step .debug .bits64) anyStep (Running.new Nat 1) hostileTurns
      (fun reached => decide (.undecodable (.header .unexpectedEnd) ∈ reached.2))
      (show _ = some true by decide +kernel)
  exact ⟨history, final, run, of_decide_eq_true observed, machine_run_table run⟩

end Errors

end Calliope

end Mgnp
