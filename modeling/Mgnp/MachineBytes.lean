import Mgnp.Machine
import Mgnp.MachineRun

/-!
# Two machines that exchange bytes

The wires of two machines carry the bytes of `to_vec`, and each machine decodes them
before its table sees a frame.  Nothing is lost between the two: every step is a step of
the machines that exchange the frames themselves.  The local services do not panic here.
-/

namespace Mgnp

namespace Calliope

open ExceptRules LabelledRuns PositionWord

/-- The rejections of a registry are values of their type. -/
def Locals.Typed (width : PointerWidth) (locals : Locals) : Prop :=
  ∀ identity hello reason, locals.connect identity hello = .error reason →
    reason.Representable width

def Move.Typed (width : PointerWidth) : Move → Prop
  | .receive locals | .poll locals | .connect locals _ _ => locals.Typed width
  | .close _ => True

structure TypedAction (width : PointerWidth) where
  action : WorldAction
  typed : action.move.Typed width

/-- The bytes of a frame on a wire, with the connection it is about. -/
structure TaggedBytes where
  connection : Nat
  bytes : List UInt8
  deriving DecidableEq

def Tagged.encode (width : PointerWidth) (tagged : Tagged) : TaggedBytes :=
  ⟨tagged.connection, tagged.frame.toVec width⟩

@[simp] theorem Tagged.connection_encode (width : PointerWidth) (tagged : Tagged) :
    (tagged.encode width).connection = tagged.connection := rfl

structure ByteMachine (capacity : Nat) where
  /-- Its wire has no errors. -/
  running : Running Empty capacity
  sent : List TaggedBytes
  closed : List Nat

structure ByteWorld (capacity : Side → Nat) where
  machine : (side : Side) → ByteMachine (capacity side)
  freshConnection : Nat
  /-- The errors of the buffers that did not decode. -/
  undecodable : List DecodeError

namespace ByteWorld

variable {capacity : Side → Nat}

def new (capacity : Side → Nat) : ByteWorld capacity where
  machine side := ⟨.new Empty (capacity side), [], []⟩
  freshConnection := 0
  undecodable := []

/-- The bytes that the events put on the wire.  A frame without an account is about the
connection whose frame it answers. -/
def sends (width : PointerWidth) (connection : Option Nat → Nat)
    (events : List (RunEvent Empty)) : List TaggedBytes :=
  events.filterMap fun
    | .sent frame account => some ⟨connection account, frame.toVec width⟩
    | .table _ | .undecodable _ | .lost _ _ | .returned _ => none

def errors (events : List (RunEvent Empty)) : List DecodeError :=
  events.filterMap fun
    | .undecodable error => some error
    | .table _ | .sent _ _ | .lost _ _ | .returned _ => none

def tableEvents (events : List (RunEvent Empty)) : List Event :=
  events.filterMap fun
    | .table event => some event
    | .undecodable _ | .sent _ _ | .lost _ _ | .returned _ => none

/-- One machine did an iteration of its loop. -/
def perform (width : PointerWidth) (world : ByteWorld capacity) (side : Side)
    (connection : Option Nat → Nat)
    (result : Running Empty (capacity side) × List (RunEvent Empty)) : ByteWorld capacity :=
  { world with
    machine := Function.update world.machine side
      { world.machine side with
        running := result.1
        sent := (world.machine side).sent ++ sends width connection result.2 }
    undecodable := world.undecodable ++ errors result.2 }

/-- Take the oldest buffer from the wire of `side`. -/
def takeBuffer (world : ByteWorld capacity) (side : Side) (rest : List TaggedBytes) :
    ByteWorld capacity :=
  { world with
    machine := Function.update world.machine side
      { world.machine side with sent := rest } }

/-- One iteration of the loop of one machine, or a local stream closing. -/
def step (build : Build) (width : PointerWidth) (world : ByteWorld capacity)
    (typed : TypedAction width) : Option (ByteWorld capacity × List Occurrence) :=
  let side := typed.action.side
  let own := world.machine side
  match own.running.ended, typed.action.move with
  | some _, _ => none
  | none, .receive locals =>
      match (world.machine side.other).sent with
      | [] => none
      | buf :: rest =>
          let result := own.running.inbound width buf.bytes (locals.within own.closed)
            LocalCall.returns buf.connection (.ok ())
          some ((world.takeBuffer side.other rest).perform width side
              (fun _ => buf.connection) result,
            (tableEvents result.2).map (⟨side, some buf.connection, ·⟩))
  | none, .poll locals =>
      let result := own.running.outbound build (locals.within own.closed) (.ok ())
      some (world.perform width side (·.getD 0) result,
        (tableEvents result.2).map (⟨side, none, ·⟩))
  | none, .connect locals identity hello =>
      match own.running.table.nextOutbound build (locals.within own.closed) with
      | .ok ⟨table, none, _, events⟩ =>
          let connection := world.freshConnection
          let result := (own.running.polled table).connect (locals.within own.closed)
            ⟨identity, hello, connection, connection⟩ (.ok ())
          some ({ world.perform width side (fun _ => connection) result with
              freshConnection := connection + 1 },
            (events ++ tableEvents result.2).map (⟨side, none, ·⟩))
      | .ok ⟨_, some _, _, _⟩ | .error _ => none
  | none, .close connection =>
      some ({ world with
        machine := Function.update world.machine side
          { own with closed := connection :: own.closed } }, [])

end ByteWorld

section Encoding

variable {capacity : Side → Nat} {build : Build} {width : PointerWidth}
  {bytes : ByteWorld capacity} {world : World capacity} {side : Side}

/-- The wire carries the encodings of frames that decode again, and the machine has
neither panicked nor returned. -/
structure ByteMachine.Encodes {size : Nat} (width : PointerWidth) (bytes : ByteMachine size)
    (machine : Machine size) : Prop where
  table : bytes.running.table = machine.table
  calm : bytes.running.ended = none
  wire : bytes.sent = machine.sent.map (Tagged.encode width)
  closed : bytes.closed = machine.closed
  constructed : ∀ tagged ∈ machine.sent, Frame.Constructed width tagged.frame
  represented : machine.table.Represented

/-- Both machines are encoded, and no buffer was dropped. -/
structure ByteWorld.Encodes (width : PointerWidth) (bytes : ByteWorld capacity)
    (world : World capacity) : Prop where
  machine : ∀ side, (bytes.machine side).Encodes width (world.machine side)
  fresh : bytes.freshConnection = world.freshConnection
  decoded : bytes.undecodable = []

theorem ByteWorld.encodes_new (width : PointerWidth) (capacity : Side → Nat) :
    (ByteWorld.new capacity).Encodes width (World.new capacity) where
  machine side := ⟨rfl, rfl, rfl, rfl, by simp [World.new], .new (capacity side)⟩
  fresh := rfl
  decoded := rfl

/-- Replacing one machine on both levels. -/
theorem ByteWorld.Encodes.update (encodes : bytes.Encodes width world) (side : Side)
    {own : ByteMachine (capacity side)} {machine : Machine (capacity side)}
    (ownEncodes : own.Encodes width machine) :
    ByteWorld.Encodes width
      { bytes with machine := Function.update bytes.machine side own }
      { world with machine := Function.update world.machine side machine } where
  machine other := by
    rcases other.eq_or_eq_other side with rfl | rfl
    · simpa using ownEncodes
    · simpa using encodes.machine side.other
  fresh := encodes.fresh
  decoded := encodes.decoded

/-- A wire without errors takes the frame. -/
theorem Running.send_ok {size : Nat} (running : Running Empty size) (outcome : Outcome size)
    (onError : Empty → InterfaceError Empty) :
    running.send outcome (.ok ()) onError =
      ({ running with table := outcome.table, freshChannel := running.freshChannel + 1 },
        outcome.events.map .table ++
          outcome.frame.toList.map (.sent · outcome.account)) := by
  unfold Running.send
  cases outcome.frame with
  | none => simp
  | some frame => rfl

theorem ByteWorld.sends_operation (width : PointerWidth) (connection : Option Nat → Nat)
    (events : List Event) (frame : Option OutboundFrame) (account : Option Nat) :
    sends width connection (events.map .table ++ frame.toList.map (.sent · account)) =
      (Tagged.send (connection account) frame).map (Tagged.encode width) := by
  cases frame with
  | none => simp [sends, Tagged.send]
  | some frame => simp [sends, Tagged.send, Tagged.encode]

theorem ByteWorld.errors_operation (events : List Event) (frame : Option OutboundFrame)
    (account : Option Nat) :
    errors (events.map .table ++ frame.toList.map (.sent · account)) = [] := by
  apply List.filterMap_eq_nil_iff.mpr
  intro event member
  rcases List.mem_append.mp member with table | sent
  · obtain ⟨own, -, rfl⟩ := List.mem_map.mp table
    rfl
  · obtain ⟨own, -, rfl⟩ := List.mem_map.mp sent
    rfl

theorem ByteWorld.tableEvents_operation (events : List Event) (frame : Option OutboundFrame)
    (account : Option Nat) :
    tableEvents (events.map .table ++ frame.toList.map (.sent · account)) = events := by
  unfold tableEvents
  rw [List.filterMap_append, List.filterMap_map]
  cases frame with
  | none => exact (List.append_nil _).trans List.filterMap_some
  | some frame => exact (List.append_nil _).trans List.filterMap_some

/-- An operation that both machines perform. -/
theorem ByteWorld.Encodes.perform (encodes : bytes.Encodes width world) (side : Side)
    (connection : Option Nat → Nat) (onError : Empty → InterfaceError Empty)
    {running : Running Empty (capacity side)} {outcome : Outcome (capacity side)}
    (calm : running.ended = none) (represented : outcome.table.Represented)
    (constructed : ∀ frame ∈ outcome.frame, Frame.Constructed width frame) :
    (bytes.perform width side connection (running.send outcome (.ok ()) onError)).Encodes width
      (world.perform side outcome (connection outcome.account)) := by
  have own := encodes.machine side
  have noErrors := ByteWorld.errors_operation outcome.events outcome.frame outcome.account
  unfold ByteWorld.perform World.perform
  rw [Running.send_ok]
  dsimp only
  rw [noErrors, List.append_nil]
  refine encodes.update side ⟨rfl, calm, ?_, own.closed, ?_, represented⟩
  · dsimp only
    rw [own.wire, ByteWorld.sends_operation, List.map_append]
  · intro tagged member
    rcases List.mem_append.mp member with old | new
    · exact own.constructed tagged old
    · obtain ⟨frame, isFrame, rfl⟩ := List.mem_map.mp new
      exact constructed frame (by simpa using isFrame)

/-- Taking the oldest buffer is taking the frame that it encodes. -/
theorem ByteWorld.Encodes.takeBuffer (encodes : bytes.Encodes width world)
    {tagged : Tagged} {rest : List Tagged} (head : (world.machine side).sent = tagged :: rest) :
    (bytes.takeBuffer side (rest.map (Tagged.encode width))).Encodes width
      (world.takeFrame side rest) := by
  have own := encodes.machine side
  refine encodes.update side ⟨own.table, own.calm, rfl, own.closed, ?_, own.represented⟩
  intro kept member
  apply own.constructed kept
  rw [head]
  exact List.mem_cons_of_mem _ member

theorem ByteWorld.Encodes.closeStream (encodes : bytes.Encodes width world) (side : Side)
    (connection : Nat) :
    ByteWorld.Encodes width
      { bytes with
        machine := Function.update bytes.machine side
          { bytes.machine side with
            closed := connection :: (bytes.machine side).closed } }
      { world with
        machine := Function.update world.machine side
          { world.machine side with
            closed := connection :: (world.machine side).closed } } := by
  have own := encodes.machine side
  exact encodes.update side ⟨own.table, own.calm, own.wire, congrArg _ own.closed,
    own.constructed, own.represented⟩

section Frames

variable {size : Nat} {locals : Locals} {table : ConnTable size}

theorem Locals.Typed.within (typed : locals.Typed width) (closed : List Nat) :
    (locals.within closed).Typed width := typed

/-- A table that is small enough to number its entries has a representable capacity. -/
theorem representable_connTableFull (width : PointerWidth) (small : size < 2 ^ 16 - 1) :
    (Rejection.connTableFull size).Representable width := by
  have inU16 : size < 2 ^ 16 := by omega
  cases width with
  | bits32 => exact inU16.trans (by decide)
  | bits64 => exact inU16.trans (by decide)

theorem ConnTable.accept_constructed (width : PointerWidth) (small : size < 2 ^ 16 - 1)
    (table : ConnTable size) (remoteId : Id) (channel : Nat) :
    Ensures (table.accept remoteId channel) fun outcome =>
      ∀ frame ∈ outcome.frame, Frame.Constructed width frame := by
  unfold ConnTable.accept
  have inserts : Ensures (table.insert ⟨.opened remoteId, channel⟩) fun _ => True :=
    fun _ _ => trivial
  refine inserts.bind ?_
  rintro ⟨inserted, id⟩ -
  cases id with
  | none =>
      refine ensures_pure.mpr ?_
      rintro frame ⟨⟩
      exact .reject remoteId _ (representable_connTableFull width small)
  | some localId =>
      refine ensures_pure.mpr ?_
      rintro frame ⟨⟩
      exact .ack localId remoteId

theorem Sockets.Receives.constructed (width : PointerWidth) {granted : Option Id}
    {channel : Nat} {view next : Sockets} {header : Header} {frame : Option OutboundFrame}
    {account : Option Nat} {events : List Event}
    (receives : view.Receives locals granted channel header next frame account events)
    (notConnect : ∀ localId identity, header ≠ .connect localId identity) :
    ∀ sent ∈ frame, Frame.Constructed width sent := by
  cases receives with
  | dataDelivered | ackOpened | rejected | reset => simp
  | dataStray | dataFailed | ackStray | ackAbandoned =>
      rintro sent ⟨⟩
      exact .reset _ _
  | connectAccepted | connectRefused => exact absurd rfl (notConnect _ _)

theorem ConnTable.processInbound_constructed (small : size < 2 ^ 16 - 1)
    (typed : locals.Typed width) (table : ConnTable size) (channel : Nat)
    (inbound : InboundFrame) :
    Ensures (table.processInbound locals channel inbound) fun outcome =>
      ∀ frame ∈ outcome.frame, Frame.Constructed width frame := by
  obtain ⟨header, body⟩ := inbound
  obtain ⟨view, agrees⟩ := table.exists_shows small
  intro outcome operated
  cases header with
  | connect localId identity =>
      unfold ConnTable.processInbound at operated
      dsimp only at operated
      split at operated
      · exact ConnTable.accept_constructed width small table localId channel outcome operated
      · rename_i reason refused
        cases operated
        rintro frame ⟨⟩
        exact .reject localId reason (typed identity body reason refused)
  | data | ack | reject | reset =>
      obtain ⟨after, -, receives⟩ := agrees.processInbound channel _ outcome operated
      exact receives.constructed width (by simp)

theorem ConnTable.nextOutbound_constructed (width : PointerWidth) (small : size < 2 ^ 16 - 1)
    (build : Build) (locals : Locals) (table : ConnTable size) :
    Ensures (table.nextOutbound build locals) fun outcome =>
      ∀ frame ∈ outcome.frame, Frame.Constructed width frame := by
  obtain ⟨view, agrees⟩ := table.exists_shows small
  intro outcome operated
  obtain ⟨after, events, -, sends, -⟩ := agrees.nextOutbound build outcome operated
  generalize outcome.frame = frame at sends ⊢
  generalize outcome.account = account at sends
  cases sends with
  | idle => simp
  | data => rintro frame ⟨⟩; exact .data _ _ _
  | closed => rintro frame ⟨⟩; exact .reset _ _

theorem ConnTable.startConnecting_constructed (width : PointerWidth)
    (small : size < 2 ^ 16 - 1) (locals : Locals) (table : ConnTable size)
    (conn : OutboundConnect) :
    Ensures (table.startConnecting locals conn) fun outcome =>
      ∀ frame ∈ outcome.frame, Frame.Constructed width frame := by
  obtain ⟨view, agrees⟩ := table.exists_shows small
  intro outcome operated
  obtain ⟨after, -, starts⟩ := agrees.startConnecting conn outcome operated
  generalize outcome.frame = frame at starts ⊢
  generalize outcome.account = account at starts
  generalize outcome.events = events at starts
  cases starts with
  | full => simp
  | started => rintro frame ⟨⟩; exact .connect _ _ _

end Frames

end Encoding

section Runs

variable {capacity : Side → Nat} {build : Build} {width : PointerWidth}
  {bytes next : ByteWorld capacity} {world : World capacity} {history occurred : List Occurrence}

/-- The buffer in front of the wire decodes to the frame that it encodes. -/
theorem Running.inbound_of_encoded {size : Nat} {running : Running Empty size}
    {tagged : Tagged} {locals : Locals} {channel : Nat} {outcome : Outcome size}
    (constructed : Frame.Constructed width tagged.frame)
    (processed : running.table.processInbound locals channel tagged.frame.received =
      .ok outcome) :
    ∃ onError,
      running.inbound width (tagged.encode width).bytes locals LocalCall.returns channel
        (.ok ()) = running.send outcome (.ok ()) onError := by
  refine ⟨fun error => (InterfaceError.send error).withContext
    "while sending inbound frame response (ACK/NAK)", ?_⟩
  have decoded : Frame.fromBytes width (tagged.encode width).bytes =
      .ok tagged.frame.received := Frame.fromBytes_toVec_of_constructed width constructed
  have noPanic : running.crashing LocalCall.returns tagged.frame.received = none := by
    unfold Running.crashing
    cases running.table.localCall tagged.frame.received <;> rfl
  unfold Running.inbound
  rw [decoded]
  dsimp only
  rw [if_neg tagged.frame.received.header.linkId_ne_interface, noPanic, processed]
  rfl

theorem ByteWorld.tableEvents_send {size : Nat} (running : Running Empty size)
    (outcome : Outcome size) (onError : Empty → InterfaceError Empty) :
    tableEvents (running.send outcome (.ok ()) onError).2 = outcome.events := by
  rw [Running.send_ok]
  exact ByteWorld.tableEvents_operation ..

theorem ByteWorld.Encodes.receive (small : ∀ side, capacity side < 2 ^ 16 - 1)
    (encodes : bytes.Encodes width world) {side : Side} {locals : Locals}
    (typed : (Move.receive locals).Typed width)
    (stepTo : bytes.step build width ⟨⟨side, .receive locals⟩, typed⟩ = some (next, occurred)) :
    ∃ after, world.step build ⟨side, .receive locals⟩ = some (after, occurred) ∧
      next.Encodes width after := by
  have own := encodes.machine side
  have peer := encodes.machine side.other
  unfold ByteWorld.step at stepTo
  dsimp only at stepTo
  rw [own.calm, peer.wire, own.closed] at stepTo
  dsimp only at stepTo
  cases sent : (world.machine side.other).sent with
  | nil =>
      rw [sent] at stepTo
      cases stepTo
  | cons tagged rest =>
      have returns : Returns ((world.machine side).table.processInbound
          (locals.within (world.machine side).closed) tagged.connection tagged.frame.received)
          fun outcome => outcome.table.Represented :=
        own.represented.processInbound (small side) _ _
      obtain ⟨outcome, processed, represented⟩ := returns
      have constructed := ConnTable.processInbound_constructed (small side)
        (Locals.Typed.within typed _) _ _ _ outcome processed
      have isHead : Frame.Constructed width tagged.frame :=
        peer.constructed tagged (by simp [sent])
      obtain ⟨onError, inbound⟩ := Running.inbound_of_encoded isHead
        (show (bytes.machine side).running.table.processInbound _ _ _ = _ by
          rw [own.table]
          exact processed)
      rw [sent, List.map_cons] at stepTo
      simp only [Tagged.connection_encode] at stepTo
      rw [inbound, ByteWorld.tableEvents_send] at stepTo
      cases stepTo
      refine ⟨(world.takeFrame side.other rest).perform side outcome tagged.connection, ?_, ?_⟩
      · unfold World.step
        dsimp only
        rw [sent]
        dsimp only
        rw [processed]
      · exact (encodes.takeBuffer sent).perform side _ _ own.calm represented constructed

theorem ByteWorld.Encodes.poll (small : ∀ side, capacity side < 2 ^ 16 - 1)
    (encodes : bytes.Encodes width world) {side : Side} {locals : Locals}
    (typed : (Move.poll locals).Typed width)
    (stepTo : bytes.step build width ⟨⟨side, .poll locals⟩, typed⟩ = some (next, occurred)) :
    ∃ after, world.step build ⟨side, .poll locals⟩ = some (after, occurred) ∧
      next.Encodes width after := by
  have own := encodes.machine side
  unfold ByteWorld.step at stepTo
  dsimp only at stepTo
  rw [own.calm, own.closed] at stepTo
  dsimp only at stepTo
  have returns : Returns ((world.machine side).table.nextOutbound build
      (locals.within (world.machine side).closed)) fun outcome => outcome.table.Represented :=
    own.represented.nextOutbound (small side)
  obtain ⟨outcome, polled, represented⟩ := returns
  have constructed := ConnTable.nextOutbound_constructed width (small side) build _ _ outcome
    polled
  have outbound : (bytes.machine side).running.outbound build
      (locals.within (world.machine side).closed) (.ok ()) =
      (bytes.machine side).running.send outcome (.ok ()) .send := by
    unfold Running.outbound
    rw [own.table, polled]
    rfl
  rw [outbound, ByteWorld.tableEvents_send] at stepTo
  cases stepTo
  refine ⟨world.perform side outcome (outcome.account.getD 0), ?_, ?_⟩
  · unfold World.step
    dsimp only
    rw [polled]
  · exact encodes.perform side _ _ own.calm represented constructed

theorem ByteWorld.Encodes.connect (small : ∀ side, capacity side < 2 ^ 16 - 1)
    (encodes : bytes.Encodes width world) {side : Side} {locals : Locals} {identity : Identity}
    {hello : List UInt8} (typed : (Move.connect locals identity hello).Typed width)
    (stepTo : bytes.step build width ⟨⟨side, .connect locals identity hello⟩, typed⟩ =
      some (next, occurred)) :
    ∃ after, world.step build ⟨side, .connect locals identity hello⟩ = some (after, occurred) ∧
      next.Encodes width after := by
  have own := encodes.machine side
  unfold ByteWorld.step at stepTo
  dsimp only at stepTo
  rw [own.calm, own.closed, own.table] at stepTo
  dsimp only at stepTo
  split at stepTo
  · rename_i table account cleanup pending
    have polled : Returns ((world.machine side).table.nextOutbound build
        (locals.within (world.machine side).closed)) fun outcome =>
          outcome.table.Represented := own.represented.nextOutbound (small side)
    obtain ⟨pendingOutcome, isPending, tableRepresented⟩ := polled
    cases pending.symm.trans isPending
    let conn : OutboundConnect := ⟨identity, hello, world.freshConnection, world.freshConnection⟩
    have returns : Returns (table.startConnecting (locals.within (world.machine side).closed)
        conn) fun outcome => outcome.table.Represented :=
      tableRepresented.startConnecting (small side) conn
    obtain ⟨outcome, started, represented⟩ := returns
    have constructed := ConnTable.startConnecting_constructed width (small side) _ _ conn outcome
      started
    let onError (error : Empty) : InterfaceError Empty :=
      (InterfaceError.send error).withContext "while sending local-initiated CONNECT"
    have connects : ((bytes.machine side).running.polled table).connect
        (locals.within (world.machine side).closed) conn (.ok ()) =
        ((bytes.machine side).running.polled table).send outcome (.ok ()) onError := by
      change Running.perform _ (table.startConnecting _ conn) _ _ = _
      rw [started]
      rfl
    rw [encodes.fresh, connects, ByteWorld.tableEvents_send] at stepTo
    cases stepTo
    refine ⟨{ world.perform side outcome world.freshConnection with
      freshConnection := world.freshConnection + 1 }, ?_, ?_⟩
    · unfold World.step
      dsimp only
      rw [pending]
      dsimp only
      rw [started]
    · have calmed : ((bytes.machine side).running.polled table).ended = none := own.calm
      have performed := encodes.perform side (fun _ => world.freshConnection) onError calmed
        represented constructed
      exact ⟨performed.machine, rfl, performed.decoded⟩
  · contradiction
  · contradiction

/-- Machines that exchange bytes are simulated by machines that exchange frames. -/
def ByteWorld.simulation (capacity : Side → Nat) (small : ∀ side, capacity side < 2 ^ 16 - 1)
    (build : Build) (width : PointerWidth) :
    Simulation (ByteWorld.step build width) anyStep (ByteWorld.new capacity)
      (World.step build) anyStep (World.new capacity) where
  related bytes world := bytes.Encodes width world
  seen := some
  initially := ByteWorld.encodes_new width capacity
  simulates := by
    rintro bytes next ⟨⟨side, move⟩, typed⟩ events world encodes - stepTo
    suffices matched : ∃ after, world.step build ⟨side, move⟩ = some (after, events) ∧
        next.Encodes width after by
      obtain ⟨after, moves, kept⟩ := matched
      rw [List.filterMap_some]
      exact ⟨after, .single trivial moves, kept⟩
    cases move with
    | receive locals => exact encodes.receive small typed stepTo
    | poll locals => exact encodes.poll small typed stepTo
    | connect locals identity hello => exact encodes.connect small typed stepTo
    | close connection =>
        unfold ByteWorld.step at stepTo
        dsimp only at stepTo
        rw [(encodes.machine side).calm] at stepTo
        cases stepTo
        exact ⟨_, rfl, encodes.closeStream side connection⟩

/-- Every run of two machines over bytes is one of the machines that exchange the frames,
and in it no buffer is dropped and no machine panics or returns. -/
theorem machine_bytes_frames {final : ByteWorld capacity}
    (small : ∀ side, capacity side < 2 ^ 16 - 1)
    (run : Run (ByteWorld.step build width) anyStep (ByteWorld.new capacity) history final) :
    ∃ world, Run (World.step build) anyStep (World.new capacity) history world ∧
      final.Encodes width world := by
  obtain ⟨world, simulated, encodes⟩ :=
    (ByteWorld.simulation capacity small build width).run run
  have unchanged : history.filterMap (ByteWorld.simulation capacity small build width).seen =
      history := List.filterMap_some
  rw [unchanged] at simulated
  exact ⟨world, simulated, encodes⟩

theorem Locals.typed_quiet (width : PointerWidth) : Locals.quiet.Typed width := by
  simp [Locals.Typed, Locals.quiet]

theorem Locals.typed_dataReady (width : PointerWidth) : Locals.dataReady.Typed width := by
  simp [Locals.Typed, Locals.dataReady, Locals.quiet]

/-- A connection is opened and a message crosses it. -/
theorem machine_bytes_frames_delivered :
    ∃ history final,
      Run (ByteWorld.step .debug .bits32) anyStep (ByteWorld.new fun _ => 1) history final ∧
      ⟨.right, some 0, .delivered 0 [0]⟩ ∈ history ∧
      ∃ world, Run (World.step .debug) anyStep (World.new fun _ => 1) history world ∧
        final.Encodes .bits32 world := by
  obtain ⟨history, final, run, observed⟩ :=
    exists_run_of_exec (ByteWorld.step .debug .bits32) anyStep (ByteWorld.new fun _ => 1)
      [⟨⟨.left, .connect .quiet .sample []⟩, Locals.typed_quiet _⟩,
        ⟨⟨.right, .receive .quiet⟩, Locals.typed_quiet _⟩,
        ⟨⟨.left, .receive .quiet⟩, Locals.typed_quiet _⟩,
        ⟨⟨.left, .poll .dataReady⟩, Locals.typed_dataReady _⟩,
        ⟨⟨.right, .receive .quiet⟩, Locals.typed_quiet _⟩]
      (fun reached => decide (⟨.right, some 0, .delivered 0 [0]⟩ ∈ reached.2))
      (show _ = some true by decide +kernel)
  exact ⟨history, final, run, of_decide_eq_true observed,
    machine_bytes_frames (fun _ => by decide) run⟩

end Runs

end Calliope

end Mgnp
