import Mgnp.Message

/-!
# The connection table

This file translates `ConnTable` of `conn_table.rs`.  Channels and response
senders are numbers, and what the local ends of them answer is collected in
`Locals`.  A panic is an error with the message of the panic; the decrement of
`len` is taken to panic at zero in both builds.

An operation reports what becomes visible outside the table as events, and with
an outbound frame the channel of the socket on whose account it is sent.
-/

namespace Mgnp

namespace Calliope

inductive State
  | opened (remoteId : Id)
  | connecting (rsp : Nat)
  deriving DecidableEq

structure Socket where
  state : State
  channel : Nat
  deriving DecidableEq

inductive Entry
  | unused
  /-- The field is the next id of the free list. -/
  | closed (next : Id)
  | occupied (socket : Socket)
  deriving DecidableEq

def Entry.socket : Entry → Option Socket
  | .occupied socket => some socket
  | .unused | .closed _ => none

@[simp] theorem Entry.socket_unused : Entry.unused.socket = none := rfl

@[simp] theorem Entry.socket_closed (next : Id) : (Entry.closed next).socket = none := rfl

@[simp] theorem Entry.socket_occupied (socket : Socket) :
    (Entry.occupied socket).socket = some socket := rfl

/-- `mpsc::error::RecvError<Reset>`. -/
inductive RecvError
  | disconnected
  | error (reason : Reset)
  deriving DecidableEq

/-- `mpsc::error::SerSendError<Reset>`. -/
inductive SerSendError
  | deserialize (error : PostcardError)
  | disconnected
  | error (reason : Reset)
  deriving DecidableEq

/-- What the local services, clients and the registry answer during one call. -/
structure Locals where
  /-- `poll_recv` on a channel, with `none` for `Poll::Pending`. -/
  pollRecv : Nat → Option (Except RecvError (List UInt8))
  /-- Sending the body of a DATA frame to a channel. -/
  send : Nat → List UInt8 → Except SerSendError Unit
  /-- Whether a response sender's receiver is still there. -/
  initiatorAlive : Nat → Bool
  /-- `Registry::connect`. -/
  connect : Identity → List UInt8 → Except Rejection Unit

/-- Open streams without data, and peers that accept everything. -/
def Locals.quiet : Locals where
  pollRecv _ := none
  send _ _ := .ok ()
  initiatorAlive _ := true
  connect _ _ := .ok ()

/-- A stream that has closed, with every other answer quiet. -/
def Locals.streamClosed : Locals :=
  { Locals.quiet with pollRecv := fun _ => some (.error .disconnected) }

/-- Open streams with one byte to send. -/
def Locals.dataReady : Locals :=
  { Locals.quiet with pollRecv := fun _ => some (.ok [0]) }

/-- Streams that take no more data. -/
def Locals.sendFails : Locals :=
  { Locals.quiet with send := fun _ _ => .error .disconnected }

/-- An outbound connect request. -/
structure OutboundConnect where
  identity : Identity
  hello : List UInt8
  channel : Nat
  rsp : Nat

structure ConnTable (capacity : Nat) where
  conns : Vector Entry capacity
  nextId : Id
  len : Nat
  deadIndex : Option Id
  deriving DecidableEq

inductive Event
  | started (id : Id) (channel : Nat)
  | accepted (id remoteId : Id) (channel : Nat)
  /-- `process_ack` turned a connecting socket into an open one. -/
  | opened (id remoteId : Id) (channel : Nat)
  /-- `rsp.send(Ok(()))`, or `rsp.send(Err(rejection))`, with its success. -/
  | answered (rsp : Nat) (rejection : Option Rejection) (received : Bool)
  | delivered (channel : Nat) (body : List UInt8)
  /-- The socket of a DATA frame that could not be delivered was removed. -/
  | undeliverable (id : Id) (removed : Option Socket)
  /-- `next_outbound` found the local stream closed. -/
  | markedDead (id : Id) (channel : Nat)
  | cleanedUp (id : Id) (removed : Option Socket)
  | rejected (id : Id) (removed : Option Socket)
  | reset (id : Id) (removed : Option Socket)
  | closedWithError (channel : Nat) (reason : Reset)
  | emitted (frame : OutboundFrame) (account : Option Nat)
  deriving DecidableEq

/-- The result of an operation that may produce an outbound frame. -/
structure Outcome (capacity : Nat) where
  table : ConnTable capacity
  frame : Option OutboundFrame
  /-- The channel of the socket on whose account the frame is sent. -/
  account : Option Nat
  events : List Event

namespace ConnTable

variable {capacity : Nat}

def new (capacity : Nat) : ConnTable capacity where
  conns := Vector.replicate capacity .unused
  nextId := .first
  len := 0
  deadIndex := none

/-- `Entries::get_mut`, as a read. -/
def entry (table : ConnTable capacity) (id : Id) : Option Entry :=
  table.conns[id.toIndex]?

def setEntry (table : ConnTable capacity) (id : Id) (entry : Entry) :
    ConnTable capacity :=
  { table with conns := table.conns.setIfInBounds id.toIndex entry }

def remove (table : ConnTable capacity) (localId : Id) :
    Except String (ConnTable capacity × Option Socket) :=
  match table.entry localId with
  | none => .ok (table, none)
  | some (.occupied sock) =>
      if table.len = 0 then .error "attempt to subtract with overflow"
      else
        .ok ({ table.setEntry localId (.closed table.nextId) with
                nextId := localId
                len := table.len - 1 }, some sock)
  | some _ => .ok (table, none)

def reserveId (table : ConnTable capacity) : Option Id :=
  if table.len = capacity then none else some table.nextId

def insertAt (table : ConnTable capacity) (localId : Id) (socket : Socket) :
    Except String (ConnTable capacity) :=
  let inserted (next : Id) : ConnTable capacity :=
    { table.setEntry localId (.occupied socket) with
      nextId := next
      len := table.len + 1 }
  match table.entry localId with
  | none => .error "ID should be present"
  | some .unused =>
      match table.nextId.checkedAdd 1 with
      | none => .error "connection ID overflow"
      | some next => .ok (inserted next)
  | some (.closed next) => .ok (inserted next)
  | some (.occupied _) =>
      .error "we should never reassign to an occupied connection"

def insert (table : ConnTable capacity) (socket : Socket) :
    Except String (ConnTable capacity × Option Id) :=
  match table.reserveId with
  | none => .ok (table, none)
  | some localId => do
      let table ← table.insertAt localId socket
      return (table, some localId)

def cleanupDead (table : ConnTable capacity) :
    Except String (ConnTable capacity × List Event) :=
  match table.deadIndex with
  | none => .ok (table, [])
  | some localId => do
      let (table, removed) ← { table with deadIndex := none }.remove localId
      return (table, [.cleanedUp localId removed])

/-- What the loop of `next_outbound` found ready. -/
structure Ready where
  frame : OutboundFrame
  channel : Nat
  dead : Option Id

/-- The loop of `next_outbound` over the entries from index `idx` on. -/
def pollConns (build : Build) (locals : Locals) :
    List Entry → Nat → Except String (Option Ready)
  | [], _ => .ok none
  | entry :: entries, idx =>
      match entry.socket with
      | some ⟨.opened remoteId, channel⟩ =>
          match locals.pollRecv channel with
          | some (.ok data) => do
              let localId ← Id.fromIndex build idx
              return some ⟨.data remoteId localId data, channel, none⟩
          | some (.error error) => do
              let localId ← Id.fromIndex build idx
              let reason := match error with
                | .disconnected => .becauseISaidSo
                | .error reason => reason
              return some ⟨.reset remoteId reason, channel, some localId⟩
          | none => pollConns build locals entries (idx + 1)
      | some ⟨.connecting _, _⟩ | none => pollConns build locals entries (idx + 1)

/-- One poll of `next_outbound`.  It is pending when the result has no frame. -/
def nextOutbound (build : Build) (locals : Locals) (table : ConnTable capacity) :
    Except String (Outcome capacity) := do
  let (table, events) ← table.cleanupDead
  match ← pollConns build locals table.conns.toList 0 with
  | none => return ⟨table, none, none, events⟩
  | some ⟨frame, channel, none⟩ => return ⟨table, some frame, some channel, events⟩
  | some ⟨frame, channel, some dead⟩ =>
      return ⟨{ table with deadIndex := some dead }, some frame, some channel,
        events ++ [.markedDead dead channel]⟩

def startConnecting (locals : Locals) (table : ConnTable capacity)
    (connect : OutboundConnect) : Except String (Outcome capacity) :=
  match table.reserveId with
  | none =>
      .ok ⟨table, none, none,
        [.answered connect.rsp (some (.connTableFull capacity))
          (locals.initiatorAlive connect.rsp)]⟩
  | some localId => do
      let table ← table.insertAt localId ⟨.connecting connect.rsp, connect.channel⟩
      return ⟨table, some (.connect localId connect.identity connect.hello),
        some connect.channel, [.started localId connect.channel]⟩

def processData (locals : Locals) (table : ConnTable capacity) (localId id : Id)
    (body : List UInt8) : Except String (Outcome capacity) :=
  let noSuchConn : Outcome capacity :=
    ⟨table, some (.reset localId .noSuchConn), none, []⟩
  match (table.entry id).bind Entry.socket with
  | none => .ok noSuchConn
  | some ⟨.opened remoteId, channel⟩ =>
      if localId ≠ remoteId then .ok noSuchConn
      else
        match locals.send channel body with
        | .ok () => .ok ⟨table, none, none, [.delivered channel body]⟩
        | .error error => do
            let reset := match error with
              | .deserialize error => Reset.badFrame error
              | .disconnected => .becauseISaidSo
              | .error reason => reason
            let (table, removed) ← table.remove id
            return ⟨table, some (.reset localId reset), some channel,
              [.undeliverable id removed]⟩
  | some ⟨.connecting _, _⟩ => .ok noSuchConn

def processAck (locals : Locals) (table : ConnTable capacity) (localId remoteId : Id) :
    Outcome capacity :=
  match table.entry localId with
  | some (.occupied ⟨.opened _, _⟩) =>
      ⟨table, some (.reset remoteId .yesSuchConn), none, []⟩
  | some (.occupied ⟨.connecting rsp, channel⟩) =>
      let table := table.setEntry localId (.occupied ⟨.opened remoteId, channel⟩)
      let events := [.opened localId remoteId channel,
        .answered rsp none (locals.initiatorAlive rsp)]
      if locals.initiatorAlive rsp then ⟨table, none, none, events⟩
      else ⟨table, some (.reset remoteId .becauseISaidSo), some channel, events⟩
  | some .unused | some (.closed _) | none =>
      ⟨table, some (.reset remoteId .noSuchConn), none, []⟩

def accept (table : ConnTable capacity) (remoteId : Id) (channel : Nat) :
    Except String (Outcome capacity) := do
  let (table, inserted) ← table.insert ⟨.opened remoteId, channel⟩
  match inserted with
  | some localId =>
      return ⟨table, some (.ack localId remoteId), some channel,
        [.accepted localId remoteId channel]⟩
  | none =>
      return ⟨table, some (.reject remoteId (.connTableFull capacity)), none, []⟩

/-- How `reject` answers the initiator of the socket it removed. -/
def answerRejected (locals : Locals) (rejection : Rejection) : Option Socket → List Event
  | some ⟨.connecting rsp, _⟩ =>
      [.answered rsp (some rejection) (locals.initiatorAlive rsp)]
  | some ⟨.opened _, _⟩ | none => []

def reject (locals : Locals) (table : ConnTable capacity) (localId : Id)
    (rejection : Rejection) : Except String (Outcome capacity) := do
  let (table, removed) ← table.remove localId
  return ⟨table, none, none,
    .rejected localId removed :: answerRejected locals rejection removed⟩

/-- How `reset` closes the channel of the socket it removed. -/
def closeReset (reason : Reset) : Option Socket → List Event
  | some ⟨.opened _, channel⟩ => [.closedWithError channel reason]
  | some ⟨.connecting _, _⟩ | none => []

def reset (table : ConnTable capacity) (localId : Id) (reason : Reset) :
    Except String (Outcome capacity) := do
  let (table, removed) ← table.remove localId
  return ⟨table, none, none, .reset localId removed :: closeReset reason removed⟩

/-- `process_inbound`.  The registry binds an accepted connection to `channel`. -/
def processInbound (locals : Locals) (channel : Nat) (table : ConnTable capacity)
    (frame : InboundFrame) : Except String (Outcome capacity) :=
  match frame.header with
  | .data localId remoteId => table.processData locals localId remoteId frame.body
  | .ack localId remoteId => .ok (table.processAck locals remoteId localId)
  | .reject remoteId reason => table.reject locals remoteId reason
  | .reset remoteId reason => table.reset remoteId reason
  | .connect localId identity =>
      match locals.connect identity frame.body with
      | .ok () => table.accept localId channel
      | .error reason => .ok ⟨table, some (.reject localId reason), none, []⟩

end ConnTable

/-- A connection table in use.  Every channel handed to the table is new. -/
structure Session (capacity : Nat) where
  table : ConnTable capacity
  freshChannel : Nat
  /-- The message of the panic that ended the session. -/
  panic : Option String

def Session.new (capacity : Nat) : Session capacity := ⟨.new capacity, 0, none⟩

inductive Action
  | startConnecting (locals : Locals) (identity : Identity) (hello : List UInt8)
  | processInbound (locals : Locals) (frame : InboundFrame)
  | nextOutbound (locals : Locals)

section Steps

variable {capacity : Nat}

/-- The operation of the table that an action stands for. -/
def Session.operation (build : Build) (session : Session capacity) :
    Action → Except String (Outcome capacity)
  | .startConnecting locals identity hello =>
      session.table.startConnecting locals
        ⟨identity, hello, session.freshChannel, session.freshChannel⟩
  | .processInbound locals frame =>
      session.table.processInbound locals session.freshChannel frame
  | .nextOutbound locals => session.table.nextOutbound build locals

def Session.step (build : Build) (session : Session capacity) (action : Action) :
    Option (Session capacity × List Event) :=
  match session.panic, session.operation build action with
  | some _, _ => none
  | none, .error message => some ({ session with panic := some message }, [])
  | none, .ok outcome =>
      some (⟨outcome.table, session.freshChannel + 1, none⟩,
        outcome.events ++ outcome.frame.toList.map (.emitted · outcome.account))

/-- A step performs its operation or ends the session. -/
theorem Session.step_cases {build : Build} {session next : Session capacity}
    {action : Action} {events : List Event}
    (stepTo : session.step build action = some (next, events)) :
    (∃ message, session.operation build action = .error message ∧
      next = { session with panic := some message } ∧ events = []) ∨
    ∃ outcome, session.operation build action = .ok outcome ∧
      next = ⟨outcome.table, session.freshChannel + 1, none⟩ ∧
      events = outcome.events ++ outcome.frame.toList.map (.emitted · outcome.account) := by
  unfold step at stepTo
  split at stepTo
  · contradiction
  · rename_i message _ operated
    obtain ⟨rfl, rfl⟩ := by simpa using stepTo
    exact .inl ⟨message, operated, rfl, rfl⟩
  · rename_i outcome _ operated
    obtain ⟨rfl, rfl⟩ := by simpa using stepTo
    exact .inr ⟨outcome, operated, rfl, rfl⟩

end Steps

end Calliope

end Mgnp
