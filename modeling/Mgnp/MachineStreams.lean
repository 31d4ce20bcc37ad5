import Mgnp.ConnTableStreams
import Mgnp.FifoStream
import Mgnp.MachineAgreement

/-!
# Streams from one machine to the other

The local channels of two machines are FIFO queues.  What an application commits to
its channel of a connection crosses two tables and a wire before the peer's
application receives it.  As long as ids are not handed out while something refers to
them, the peer receives a prefix of what was committed, and while its socket is there
nothing is missing between the two but what is on the wire or still queued.
-/

namespace Mgnp

namespace Calliope

open ExceptRules LabelledRuns

/-- The events of one machine. -/
def eventsOf (side : Side) (history : List Occurrence) : List Event :=
  history.filterMap fun occurrence =>
    if occurrence.side = side then some occurrence.event else none

/-- The body of a DATA frame about this connection. -/
def Tagged.body (connection : Nat) (tagged : Tagged) : Option (List UInt8) :=
  if tagged.connection = connection ∧ tagged.frame.isData = true then
    some tagged.frame.body.toVec
  else none

def Sockets.Holds (view : Sockets) (connection : Nat) : Prop :=
  ∃ id state, view.socket id = some ⟨state, connection⟩

/-- The bodies that each side has taken from its channels, after it put the frames on
its wire. -/
def takeBodies (taken : Side → Nat → List (List UInt8)) (side : Side) (sends : List Tagged) :
    Side → Nat → List (List UInt8) :=
  Function.update taken side fun connection =>
    taken side connection ++ sends.filterMap (Tagged.body connection)

/-- The messages of one connection that this side sends. -/
def Network.stream (net : Network) (taken : Side → Nat → List (List UInt8))
    (history : List Occurrence) (side : Side) (connection : Nat) : FifoStream (List UInt8) where
  taken := taken side connection
  inFlight := (net.sent side).filterMap (Tagged.body connection)
  delivered := deliveredTo connection (eventsOf side.other history)

section Histories

variable {side : Side} {connection : Nat} {history occurred : List Occurrence}
  {events : List Event} {answering : Option Nat} {taken : Side → Nat → List (List UInt8)}
  {sends : List Tagged}

theorem eventsOf_append :
    eventsOf side (history ++ occurred) = eventsOf side history ++ eventsOf side occurred :=
  List.filterMap_append

@[simp] theorem eventsOf_own :
    eventsOf side (events.map (⟨side, answering, ·⟩)) = events := by
  simp [eventsOf, List.filterMap_map]

@[simp] theorem eventsOf_peer :
    eventsOf side.other (events.map (⟨side, answering, ·⟩)) = [] := by
  simp [eventsOf, List.filterMap_map]

@[simp] theorem takeBodies_self : takeBodies taken side sends side connection =
    taken side connection ++ sends.filterMap (Tagged.body connection) := by
  simp [takeBodies]

@[simp] theorem takeBodies_other :
    takeBodies taken side sends side.other = taken side.other :=
  Function.update_of_ne side.other_ne ..

/-- Only DATA frames have bodies that a side takes from its channels. -/
theorem Tagged.body_silent (silent : ∀ tagged ∈ sends, tagged.frame.isData = false) :
    sends.filterMap (Tagged.body connection) = [] := by
  apply List.filterMap_eq_nil_iff.mpr
  intro tagged member
  simp [Tagged.body, silent tagged member]

theorem Tagged.send_silent {frame : Option OutboundFrame}
    (silent : ∀ sent ∈ frame, sent.isData = false) :
    ∀ tagged ∈ Tagged.send connection frame, tagged.frame.isData = false := by
  intro tagged member
  obtain ⟨sent, isSent, rfl⟩ := List.mem_map.mp member
  exact silent sent (by simpa using isSent)

/-- Without frames about the connection there are no bodies. -/
theorem Tagged.body_of_about (unsent : sends.filterMap (Tagged.about connection) = []) :
    sends.filterMap (Tagged.body connection) = [] := by
  rw [List.filterMap_eq_nil_iff] at unsent ⊢
  intro tagged member
  have notAbout := unsent tagged member
  unfold Tagged.about at notAbout
  unfold Tagged.body
  split at notAbout
  · contradiction
  · rename_i different
    simp [different]

end Histories

section Phases

variable {own peer : End} {localId remoteId id other : Id} {identity : Identity}
  {rest : List Header} {first second : Option Id}

/-- Of a connection an end has one socket. -/
theorem Phase.single (phase : Phase own peer) (one : own.held id first)
    (another : own.held other second) : other = id := by
  cases phase with
  | unborn idle => exact absurd one (idle.1.absent id first)
  | started stage =>
      cases stage with
      | requested waiting | refused waiting =>
          rw [((waiting.held _ _).mp one).1, ((waiting.held _ _).mp another).1]
      | joined joined =>
          rw [(joined.near.held _ _ one).1, (joined.near.held _ _ another).1]
  | answering stage =>
      cases stage with
      | requested _ _ idle | refused _ _ idle => exact absurd one (idle.absent id first)
      | joined joined =>
          rw [(joined.far.held _ _ one).1, (joined.far.held _ _ another).1]

theorem Joined.data_matches {ownId peerId : Id} (joined : Joined own peer ownId peerId)
    (head : peer.sent = .data localId remoteId :: rest) (isHeld : own.held id first) :
    own.held remoteId (some localId) := by
  have frame := joined.far.frames (.data localId remoteId) (by simp [head])
  obtain ⟨rfl, rfl⟩ : localId = peerId ∧ remoteId = ownId := by simpa using frame
  obtain ⟨rfl, rfl | rfl⟩ := joined.near.held id first isHeld
  · obtain ⟨-, -, later, sentEq, -⟩ := joined.near.waits isHeld
    simp [head] at sentEq
  · exact isHeld

/-- A DATA frame in front of the wire matches the socket of its connection. -/
theorem Phase.data_matches (phase : Phase own peer)
    (head : peer.sent = .data localId remoteId :: rest) (isHeld : own.held id first) :
    own.held remoteId (some localId) := by
  cases phase with
  | unborn _ unsent => simp [unsent.2] at head
  | started stage =>
      cases stage with
      | requested _ _ _ peerSent | refused _ _ _ peerSent => simp [peerSent] at head
      | joined joined => exact joined.data_matches head isHeld
  | answering stage =>
      cases stage with
      | requested _ sent | refused _ sent => simp [sent] at head
      | joined joined => exact joined.symm.data_matches head isHeld

/-- A CONNECT frame is the only frame about its connection, whose socket waits. -/
theorem Phase.connect_alone (phase : Phase own peer)
    (head : peer.sent = .connect id identity :: rest) :
    rest = [] ∧ ∃ waiting, peer.held waiting none := by
  have noConnect : ∀ {one another : End} {oneId anotherId : Id},
      Joined one another oneId anotherId → .connect id identity ∉ another.sent := by
    intro one another oneId anotherId joined member
    simpa using joined.far.frames _ member
  have inFront : .connect id identity ∈ peer.sent := by simp [head]
  cases phase with
  | unborn _ unsent => simp [unsent.2] at head
  | started stage =>
      cases stage with
      | requested _ _ _ peerSent | refused _ _ _ peerSent => simp [peerSent] at head
      | joined joined => exact absurd inFront (noConnect joined)
  | answering stage =>
      cases stage with
      | requested waiting sent =>
          exact ⟨(List.cons.inj (head.symm.trans sent)).2, _, (waiting.held _ _).mpr ⟨rfl, rfl⟩⟩
      | refused _ sent => simp [sent] at head
      | joined joined => exact absurd inFront (noConnect joined.symm)

end Phases

section Networks

variable {net after : Network} {side : Side} {next : Sockets} {sends rest : List Tagged}
  {tagged : Tagged} {granted : Option Id} {locals : Locals} {connection fresh : Nat}
  {frame : Option OutboundFrame} {account answering : Option Nat} {events : List Event}
  {history : List Occurrence} {taken : Side → Nat → List (List UInt8)} {id : Id}
  {state : State}

theorem Sockets.Holds.of_erase {view : Sockets} (holds : (view.erase id).Holds connection) :
    view.Holds connection := by
  obtain ⟨other, state, found⟩ := holds
  exact ⟨other, state, (Sockets.socket_erase_eq_some_iff.mp found).2⟩

/-- Opening a socket does not change the connection it is of. -/
theorem Sockets.Holds.of_put {view : Sockets} {old new : State} {channel : Nat}
    (found : view.socket id = some ⟨old, channel⟩)
    (holds : (view.put id ⟨new, channel⟩).Holds connection) : view.Holds connection := by
  obtain ⟨other, state, isPut⟩ := holds
  rcases Sockets.socket_put_eq_some_iff.mp isPut with ⟨-, same⟩ | ⟨-, before⟩
  · obtain ⟨-, rfl⟩ := by simpa using same
    exact ⟨id, old, found⟩
  · exact ⟨other, state, before⟩

theorem Network.held_of_socket (found : (net.sockets side).socket id = some ⟨state, connection⟩) :
    (net.endOf side connection).held id state.remote :=
  ⟨state, found, rfl⟩

/-- A connection has one socket on each side. -/
theorem Network.Independent.single (independent : net.Independent) {other : Id} {second : State}
    (one : (net.sockets side).socket id = some ⟨state, connection⟩)
    (another : (net.sockets side).socket other = some ⟨second, connection⟩) :
    other = id ∧ second = state := by
  obtain rfl : other = id := (independent.phase side connection).single
    (Network.held_of_socket one) (Network.held_of_socket another)
  simpa [another] using one

/-- A connection that has a socket has begun. -/
theorem Network.Independent.begun (independent : net.Independent)
    (found : (net.sockets side).socket id = some ⟨state, connection⟩) : connection < net.fresh := by
  by_contra unused
  have idle := (independent.unborn side connection (Nat.le_of_not_lt unused)).1
  exact idle.absent id _ (Network.held_of_socket found)

/-- Where the messages of each stream are.  A side whose socket is still connecting has
taken none. -/
structure Flows (net : Network) (taken : Side → Nat → List (List UInt8))
    (history : List Occurrence) : Prop where
  sound : ∀ side connection, (net.stream taken history side connection).Sound
    ((net.sockets side.other).Holds connection)
  waiting : ∀ {side id rsp connection},
    (net.sockets side).socket id = some ⟨.connecting rsp, connection⟩ →
      taken side connection = []
  early : ∀ {side connection}, net.fresh ≤ connection → taken side connection = []

theorem Flows.initial : Flows .empty (fun _ _ => []) [] where
  sound _ _ := FifoStream.Sound.initial
  waiting _ := rfl
  early _ := rfl

/-- One side takes frames off the wire, changes its sockets and sends. -/
theorem Flows.act (flows : Flows net taken history) (independent : net.Independent)
    (grows : net.fresh ≤ fresh)
    (arrives : ∀ connection, FifoStream.Sound
      ⟨taken side.other connection, rest.filterMap (Tagged.body connection),
        deliveredTo connection (eventsOf side history) ++ deliveredTo connection events⟩
      (next.Holds connection))
    (speaks : ∀ tagged ∈ sends, tagged.frame.isData = true →
      ∃ id remoteId, (net.sockets side).socket id = some ⟨.opened remoteId, tagged.connection⟩)
    (starts : ∀ {id rsp connection}, next.socket id = some ⟨.connecting rsp, connection⟩ →
      (net.sockets side).socket id = some ⟨.connecting rsp, connection⟩ ∨
        net.fresh ≤ connection) :
    Flows { (net.takeFrame side rest).perform side next sends with fresh := fresh }
      (takeBodies taken side sends) (history ++ events.map (⟨side, answering, ·⟩)) := by
  have unspoken : ∀ {connection}, (∀ id remoteId,
      (net.sockets side).socket id ≠ some ⟨.opened remoteId, connection⟩) →
      sends.filterMap (Tagged.body connection) = [] := by
    intro connection closed
    apply List.filterMap_eq_nil_iff.mpr
    intro tagged member
    unfold Tagged.body
    split
    · rename_i isBody
      obtain ⟨rfl, isData⟩ := isBody
      obtain ⟨id, remoteId, isOpen⟩ := speaks tagged member isData
      exact absurd isOpen (closed id remoteId)
    · rfl
  have unborn : ∀ {connection}, net.fresh ≤ connection →
      sends.filterMap (Tagged.body connection) = [] := fun unused =>
    unspoken fun _ _ found => absurd (independent.begun found) (Nat.not_lt_of_le unused)
  constructor
  · intro other connection
    rcases other.eq_or_eq_other side with rfl | rfl
    · have sent := (flows.sound other connection).send
        (sends.filterMap (Tagged.body connection))
      simpa [Network.stream, eventsOf_append] using sent
    · simpa [Network.stream, eventsOf_append, deliveredTo_append] using arrives connection
  · intro other id rsp connection isConnecting
    rcases other.eq_or_eq_other side with rfl | rfl
    · rw [takeBodies_self]
      rcases starts (by simpa using isConnecting) with before | unused
      · rw [flows.waiting before, List.nil_append]
        apply unspoken
        intro opened remoteId isOpen
        simpa using (independent.single before isOpen).2
      · rw [flows.early unused, unborn unused, List.append_nil]
    · rw [takeBodies_other]
      exact flows.waiting (by simpa using isConnecting)
  · intro other connection unused
    have before : net.fresh ≤ connection := Nat.le_trans grows unused
    rcases other.eq_or_eq_other side with rfl | rfl
    · rw [takeBodies_self, flows.early before, unborn before, List.append_nil]
    · rw [takeBodies_other]
      exact flows.early before

/-- The messages that are on their way to this side. -/
theorem Flows.arriving (flows : Flows net taken history) (side : Side) (connection : Nat) :
    FifoStream.Sound ⟨taken side.other connection,
      (net.sent side.other).filterMap (Tagged.body connection),
      deliveredTo connection (eventsOf side history)⟩ ((net.sockets side).Holds connection) := by
  simpa [Network.stream] using flows.sound side.other connection

theorem Network.takeFrame_self (net : Network) (side : Side) :
    net.takeFrame side (net.sent side.other) = net := by
  simp [takeFrame]

/-- A step of one side that takes nothing off the wire and delivers nothing. -/
theorem Flows.perform (flows : Flows net taken history) (independent : net.Independent)
    (grows : net.fresh ≤ fresh)
    (held : ∀ connection, next.Holds connection →
      (net.sockets side).Holds connection ∨ net.fresh ≤ connection)
    (silent : ∀ event ∈ events, event.delivers = false)
    (speaks : ∀ tagged ∈ sends, tagged.frame.isData = true →
      ∃ id remoteId, (net.sockets side).socket id = some ⟨.opened remoteId, tagged.connection⟩)
    (starts : ∀ {id rsp connection}, next.socket id = some ⟨.connecting rsp, connection⟩ →
      (net.sockets side).socket id = some ⟨.connecting rsp, connection⟩ ∨
        net.fresh ≤ connection) :
    Flows { net.perform side next sends with fresh := fresh }
      (takeBodies taken side sends) (history ++ events.map (⟨side, answering, ·⟩)) := by
  have acted : Flows { (net.takeFrame side (net.sent side.other)).perform side next sends with
      fresh := fresh } (takeBodies taken side sends)
      (history ++ events.map (⟨side, answering, ·⟩)) := by
    apply flows.act independent grows _ speaks starts
    intro connection
    rw [deliveredTo_quiet silent, List.append_nil]
    have arriving := flows.arriving side connection
    by_cases unused : net.fresh ≤ connection
    · have unsent := Tagged.body_of_about (independent.unborn side.other connection unused).2
      rw [unsent]
      rw [flows.early unused] at arriving ⊢
      exact arriving.begin
    · exact arriving.mono fun holds => (held connection holds).resolve_right unused
  rwa [Network.takeFrame_self] at acted

/-- Polling sends a message of an open socket, or none. -/
theorem Flows.poll (flows : Flows net taken history) (independent : net.Independent)
    (sends : (net.sockets side).cleaned.Sends locals next frame account events) :
    Flows ((net.clean side).perform side next (Tagged.send (account.getD 0) frame))
      (takeBodies taken side (Tagged.send (account.getD 0) frame))
      (history ++ ((net.sockets side).cleanupEvents ++ events).map (⟨side, none, ·⟩)) := by
  have kept : ∀ {id socket}, next.socket id = some socket →
      (net.sockets side).socket id = some socket := by
    intro id socket found
    have cleaned : (net.sockets side).cleaned.socket id = some socket := by
      cases sends <;> exact found
    exact (Sockets.socket_cleaned_eq_some_iff.mp cleaned).2
  rw [Network.perform_clean]
  apply flows.perform independent (Nat.le_refl net.fresh)
  · rintro connection ⟨id, state, found⟩
    exact .inl ⟨id, state, kept found⟩
  · exact sends.undelivered
  · intro tagged member isData
    cases sends with
    | idle => simp [Tagged.send] at member
    | @data id remoteId channel bytes isOpen =>
        obtain rfl := List.mem_singleton.mp member
        exact ⟨id, remoteId, kept isOpen⟩
    | closed isOpen =>
        obtain rfl := List.mem_singleton.mp member
        cases isData
  · exact fun isConnecting => .inl (kept isConnecting)

/-- A connect request puts a fresh connection into the table. -/
theorem Flows.connect (flows : Flows net taken history) (independent : net.Independent)
    {identity : Identity} {hello : List UInt8}
    (starts : (net.sockets side).cleaned.Starts granted
      ⟨identity, hello, net.fresh, net.fresh⟩ next frame account events) :
    Flows { (net.clean side).perform side next (Tagged.send net.fresh frame) with
        fresh := net.fresh + 1 }
      (takeBodies taken side (Tagged.send net.fresh frame))
      (history ++ ((net.sockets side).cleanupEvents ++ events).map (⟨side, none, ·⟩)) := by
  have kept : ∀ {id state connection}, next.socket id = some ⟨state, connection⟩ →
      (net.sockets side).socket id = some ⟨state, connection⟩ ∨ net.fresh ≤ connection := by
    intro id state connection found
    cases starts with
    | full => exact .inl (Sockets.socket_cleaned_eq_some_iff.mp found).2
    | started =>
        rcases Sockets.socket_put_eq_some_iff.mp found with ⟨-, same⟩ | ⟨-, old⟩
        · obtain ⟨-, rfl⟩ := by simpa using same
          exact .inr (Nat.le_refl _)
        · exact .inl (Sockets.socket_cleaned_eq_some_iff.mp old).2
  rw [Network.perform_clean]
  apply flows.perform independent (Nat.le_succ net.fresh)
  · rintro connection ⟨id, state, found⟩
    exact (kept found).imp_left fun old => ⟨id, state, old⟩
  · intro event member
    rcases List.mem_append.mp member with cleaned | own
    · obtain ⟨id, removed, rfl⟩ := Sockets.mem_cleanupEvents cleaned
      rfl
    · exact starts.undelivered event own
  · intro tagged member isData
    have silent := Tagged.send_silent starts.notData tagged member
    simp [silent] at isData
  · exact kept

theorem Flows.closeStream (flows : Flows net taken history) (side : Side) (connection : Nat) :
    Flows (net.closeStream side connection) taken history :=
  ⟨flows.sound, flows.waiting, flows.early⟩

/-- Receiving brings only the socket of a CONNECT frame into the table. -/
theorem Sockets.Receives.holds_cases {view : Sockets} {channel : Nat} {header : Header}
    (receives : view.Receives locals granted channel header next frame account events)
    (holds : next.Holds connection) :
    view.Holds connection ∨
      connection = channel ∧ ∃ localId identity, header = .connect localId identity := by
  cases receives with
  | dataStray | dataDelivered | ackStray | connectRefused => exact .inl holds
  | dataFailed | rejected | reset => exact .inl holds.of_erase
  | ackOpened isConnecting | ackAbandoned isConnecting =>
      exact .inl (Sockets.Holds.of_put isConnecting holds)
  | connectAccepted =>
      obtain ⟨id, state, found⟩ := holds
      rcases Sockets.socket_put_eq_some_iff.mp found with ⟨-, same⟩ | ⟨-, old⟩
      · obtain ⟨-, rfl⟩ := by simpa using same
        exact .inr ⟨rfl, _, _, rfl⟩
      · exact .inl ⟨id, state, old⟩

/-- When the CONNECT frame of a connection arrives, its initiator has sent nothing else. -/
theorem Flows.arrives_connect (flows : Flows net taken history) (independent : net.Independent)
    (head : net.sent side.other = tagged :: rest) {localId : Id} {identity : Identity}
    (isConnect : tagged.frame.header = .connect localId identity) {holds : Prop} :
    FifoStream.Sound ⟨taken side.other tagged.connection,
      rest.filterMap (Tagged.body tagged.connection),
      deliveredTo tagged.connection (eventsOf side history)⟩ holds := by
  have headAbout : (net.endOf side.other tagged.connection).sent =
      .connect localId identity :: rest.filterMap (Tagged.about tagged.connection) := by
    simp [Network.endOf, Sockets.endOf, head, Tagged.about, isConnect]
  obtain ⟨alone, waiting, state, isWaiting, unknown⟩ :=
    (independent.phase side tagged.connection).connect_alone headAbout
  cases state with
  | opened remoteId => simp at unknown
  | connecting rsp =>
      have arriving := flows.arriving side tagged.connection
      rw [flows.waiting isWaiting] at arriving ⊢
      rw [Tagged.body_of_about alone]
      exact arriving.begin

/-- A DATA frame is delivered in its turn, or the socket of its connection is gone. -/
theorem Flows.arrives_data (flows : Flows net taken history) (independent : net.Independent)
    (head : net.sent side.other = tagged :: rest) {localId remoteId : Id}
    (isData : tagged.frame.header = .data localId remoteId)
    (receives : (net.sockets side).Receives locals granted tagged.connection
      tagged.frame.header next frame account events)
    (carries : ∀ bound body, .delivered bound body ∈ events →
      body = tagged.frame.body.toVec) :
    FifoStream.Sound ⟨taken side.other tagged.connection,
      rest.filterMap (Tagged.body tagged.connection),
      deliveredTo tagged.connection (eventsOf side history) ++
        deliveredTo tagged.connection events⟩ (next.Holds tagged.connection) := by
  have headAbout : (net.endOf side.other tagged.connection).sent =
      .data localId remoteId :: rest.filterMap (Tagged.about tagged.connection) := by
    simp [Network.endOf, Sockets.endOf, head, Tagged.about, isData]
  have isBody : Tagged.body tagged.connection tagged = some tagged.frame.body.toVec := by
    simp [Tagged.body, Frame.isData, isData]
  have arriving := flows.arriving side tagged.connection
  rw [head, List.filterMap_cons_some isBody] at arriving
  have isOwn : ∀ {state bound}, (net.sockets side).socket remoteId = some ⟨state, bound⟩ →
      bound = tagged.connection := fun found =>
    independent.unambiguous.head_connection head (by simp [isData, Header.linkId]) found
  rw [isData] at receives
  cases receives with
  | dataStray notOpen =>
      rw [show deliveredTo _ [] = [] from rfl, List.append_nil]
      apply arriving.lose
      rintro ⟨id, state, found⟩
      obtain ⟨opened, isOpen, known⟩ :=
        (independent.phase side tagged.connection).data_matches headAbout
          (Network.held_of_socket found)
      cases opened with
      | connecting rsp => simp at known
      | opened peerId =>
          obtain rfl : peerId = localId := by simpa using known
          exact notOpen _ isOpen
  | @dataDelivered _ _ bound body isOpen =>
      obtain rfl := isOwn isOpen
      rw [carries _ body List.mem_cons_self, deliveredTo_single, if_pos rfl]
      exact arriving.deliver ⟨remoteId, _, isOpen⟩
  | @dataFailed _ _ bound reason isOpen =>
      obtain rfl := isOwn isOpen
      rw [show deliveredTo _ [.undeliverable remoteId _] = [] from rfl, List.append_nil]
      apply arriving.lose
      rintro ⟨id, state, found⟩
      obtain ⟨different, before⟩ := Sockets.socket_erase_eq_some_iff.mp found
      exact different (independent.single isOpen before).1

/-- Only a DATA frame that matches an open socket is delivered. -/
theorem Sockets.Receives.delivered_matches {view : Sockets} {channel bound : Nat}
    {header : Header} {body : List UInt8}
    (receives : view.Receives locals granted channel header next frame account events)
    (delivered : .delivered bound body ∈ events) :
    ∃ localId remoteId, header = .data localId remoteId ∧
      view.socket remoteId = some ⟨.opened localId, bound⟩ := by
  by_cases isData : ∃ localId remoteId, header = .data localId remoteId
  · obtain ⟨localId, remoteId, rfl⟩ := isData
    cases receives with
    | dataStray | dataFailed => simp at delivered
    | dataDelivered isOpen =>
        obtain ⟨rfl, -⟩ := by simpa using delivered
        exact ⟨localId, remoteId, rfl, isOpen⟩
  · have quiet := receives.undelivered (fun localId remoteId same => isData ⟨_, _, same⟩) _
      delivered
    cases quiet

theorem deliveredTo_eq_nil (never : ∀ body, .delivered connection body ∉ events) :
    deliveredTo connection events = [] := by
  apply List.filterMap_eq_nil_iff.mpr
  intro event member
  cases event with
  | delivered bound body =>
      apply if_neg
      rintro rfl
      exact never body member
  | _ => rfl

/-- What a received frame brings to a connection: the message in front, or nothing. -/
theorem Flows.arrives (flows : Flows net taken history) (independent : net.Independent)
    (head : net.sent side.other = tagged :: rest)
    (receives : (net.sockets side).Receives locals granted tagged.connection
      tagged.frame.header next frame account events)
    (carries : ∀ bound body, .delivered bound body ∈ events →
      body = tagged.frame.body.toVec) (connection : Nat) :
    FifoStream.Sound ⟨taken side.other connection, rest.filterMap (Tagged.body connection),
      deliveredTo connection (eventsOf side history) ++ deliveredTo connection events⟩
      (next.Holds connection) := by
  by_cases about : tagged.connection = connection ∧
      ∃ localId remoteId, tagged.frame.header = .data localId remoteId
  · obtain ⟨rfl, localId, remoteId, isData⟩ := about
    exact flows.arrives_data independent head isData receives carries
  have undelivered : deliveredTo connection events = [] := by
    apply deliveredTo_eq_nil
    intro body delivered
    obtain ⟨localId, remoteId, isData, isOpen⟩ := receives.delivered_matches delivered
    have isOwn := independent.unambiguous.head_connection head
      (by simp [isData, Header.linkId]) isOpen
    exact about ⟨isOwn.symm, localId, remoteId, isData⟩
  have noBody : Tagged.body connection tagged = none := by
    apply if_neg
    rintro ⟨same, isData⟩
    apply about
    refine ⟨same, ?_⟩
    unfold Frame.isData at isData
    split at isData
    · exact ⟨_, _, by assumption⟩
    all_goals contradiction
  have arriving := flows.arriving side connection
  rw [head, List.filterMap_cons_none noBody] at arriving
  rw [undelivered, List.append_nil]
  by_cases isConnect : connection = tagged.connection ∧
      ∃ localId identity, tagged.frame.header = .connect localId identity
  · obtain ⟨rfl, localId, identity, isConnect⟩ := isConnect
    exact flows.arrives_connect independent head isConnect
  · exact arriving.mono fun holds => (receives.holds_cases holds).resolve_right isConnect

theorem Flows.receive (flows : Flows net taken history) (independent : net.Independent)
    (head : net.sent side.other = tagged :: rest)
    (receives : (net.sockets side).Receives locals granted tagged.connection
      tagged.frame.header next frame account events)
    (carries : ∀ bound body, .delivered bound body ∈ events →
      body = tagged.frame.body.toVec) :
    Flows ((net.takeFrame side rest).perform side next (Tagged.send tagged.connection frame))
      (takeBodies taken side (Tagged.send tagged.connection frame))
      (history ++ events.map (⟨side, some tagged.connection, ·⟩)) := by
  apply flows.act independent (Nat.le_refl net.fresh)
    (flows.arrives independent head receives carries)
  · intro sent member isData
    have silent := Tagged.send_silent receives.notData sent member
    simp [silent] at isData
  · exact fun isConnecting => .inl (receives.connecting_old isConnecting)

/-- What the events of a step deliver is the body of the frame in front. -/
def Network.Carries (net : Network) (side : Side) (occurred : List Occurrence) : Prop :=
  ∀ tagged rest, net.sent side.other = tagged :: rest →
    ∀ answering bound body, ⟨side, answering, .delivered bound body⟩ ∈ occurred →
      body = tagged.frame.body.toVec

/-- Every step that hands out only ids that nothing refers to moves the messages along. -/
theorem Flows.step (flows : Flows net taken history) (independent : net.Independent)
    {move : Move} {occurred : List Occurrence} (carries : net.Carries side occurred)
    (moves : net.Step side granted move after occurred) :
    ∃ sends, after.sent side = net.sent side ++ sends ∧
      Flows after (takeBodies taken side sends) (history ++ occurred) := by
  cases moves with
  | receive head receives =>
      refine ⟨_, by simp, flows.receive independent head receives ?_⟩
      intro bound body delivered
      exact carries _ _ head _ bound body (List.mem_map_of_mem delivered)
  | poll sends => exact ⟨_, by simp, flows.poll independent sends⟩
  | connect starts => exact ⟨_, by simp, flows.connect independent starts⟩
  | close connection =>
      refine ⟨[], by simp, ?_⟩
      have nothing : takeBodies taken side [] = taken := by
        simp [takeBodies]
      rw [nothing, List.append_nil]
      exact flows.closeStream side connection

end Networks

section Worlds

variable {capacity : Side → Nat} {build : Build}

/-- Channels that answer with what is queued in them. -/
def Move.queued (queue : Nat → List (List UInt8)) : Move → Move
  | .receive locals => .receive (locals.queued queue)
  | .poll locals => .poll (locals.queued queue)
  | .connect locals identity hello => .connect (locals.queued queue) identity hello
  | .close connection => .close connection

/-- The channel whose message a step takes. -/
def World.takesFrom (world : World capacity) (action : WorldAction) : Option Nat :=
  let own := world.machine action.side
  match action.move with
  | .poll locals =>
      (Session.mk own.table world.freshConnection none).takesFrom
        (.nextOutbound (locals.within own.closed))
  | .receive _ | .connect _ _ _ | .close _ => none

/-- Two machines with the queues of their local channels. -/
structure StreamWorld (capacity : Side → Nat) where
  world : World capacity
  queue : Side → Nat → List (List UInt8)
  /-- Everything that was committed to each channel. -/
  committed : Side → Nat → List (List UInt8)

inductive StreamAction
  | commit (side : Side) (connection : Nat) (body : List UInt8)
  | machine (action : WorldAction)

namespace StreamWorld

def new (capacity : Side → Nat) : StreamWorld capacity :=
  ⟨.new capacity, fun _ _ => [], fun _ _ => []⟩

/-- What a machine does when its channels answer with what is queued in them. -/
def asked (streams : StreamWorld capacity) (action : WorldAction) : WorldAction :=
  ⟨action.side, action.move.queued (streams.queue action.side)⟩

def step (build : Build) (streams : StreamWorld capacity) :
    StreamAction → Option (StreamWorld capacity × List Occurrence)
  | .commit side connection body =>
      some ({ streams with
          queue := Function.update streams.queue side
            (enqueue (streams.queue side) (connection, body))
          committed := Function.update streams.committed side
            (enqueue (streams.committed side) (connection, body)) }, [])
  | .machine action =>
      (streams.world.step build (streams.asked action)).map fun outcome =>
        ({ streams with
            world := outcome.1
            queue := Function.update streams.queue action.side
              (((streams.world.takesFrom (streams.asked action)).map
                (dequeue (streams.queue action.side))).getD (streams.queue action.side)) },
          outcome.2)

/-- The step hands out no id that something refers to. -/
def admits (streams : StreamWorld capacity) : StreamAction → Prop
  | .commit _ _ _ => True
  | .machine action => streams.world.grantsUnreferenced (streams.asked action)

instance (streams : StreamWorld capacity) (action : StreamAction) :
    Decidable (streams.admits action) :=
  match action with
  | .commit _ _ _ => inferInstanceAs (Decidable True)
  | .machine action =>
      inferInstanceAs (Decidable (streams.world.grantsUnreferenced (streams.asked action)))

end StreamWorld

section Steps

variable {world next : World capacity} {net : Network} {side : Side} {occurred : List Occurrence}

theorem Locals.pollRecv_of_within {closed : List Nat} {locals : Locals} {channel : Nat}
    {body : List UInt8} (polled : (locals.within closed).pollRecv channel = some (.ok body)) :
    locals.pollRecv channel = some (.ok body) := by
  simp only [Locals.within] at polled
  split at polled
  · split at polled
    · simp at polled
    · contradiction
  · exact polled

theorem Tagged.body_send_data (connection channel : Nat) (remoteId id : Id)
    (body : List UInt8) :
    (Tagged.send channel (some (.data remoteId id body))).filterMap (Tagged.body connection) =
      if channel = connection then [body] else [] := by
  by_cases same : channel = connection
  · simp [Tagged.send, Tagged.body, Frame.isData, Frame.data, OutboundData.toVec, same]
  · simp [Tagged.send, Tagged.body, same]

/-- What a move puts on its wire, when it takes a message from the channel. -/
def Move.Takes (move : Move) (sends : List Tagged) : Option Nat → Prop
  | some channel => ∃ locals body, move = .poll locals ∧
      locals.pollRecv channel = some (.ok body) ∧
      ∀ connection, sends.filterMap (Tagged.body connection) =
        if channel = connection then [body] else []
  | none => ∀ connection, sends.filterMap (Tagged.body connection) = []

/-- A step puts on its wire the message that it takes, and no other. -/
theorem World.step_takes {move : Move} (agrees : world.Shows net)
    (stepTo : world.step build ⟨side, move⟩ = some (next, occurred)) :
    ∃ sends, (next.machine side).sent = (world.machine side).sent ++ sends ∧
      move.Takes sends (world.takesFrom ⟨side, move⟩) := by
  cases World.step_cases stepTo with
  | @receive _ _ tagged _ outcome head processed =>
      obtain ⟨after, -, receives⟩ :=
        (agrees.tables side).processInbound tagged.connection _ outcome processed
      refine ⟨Tagged.send tagged.connection outcome.frame, ?_, fun connection =>
        Tagged.body_silent (Tagged.send_silent receives.notData)⟩
      simp [World.perform, World.takeFrame]
  | @poll _ locals outcome polled =>
      refine ⟨Tagged.send (outcome.account.getD 0) outcome.frame, by simp [World.perform], ?_⟩
      have takes := (Session.mk (world.machine side).table world.freshConnection
        none).nextOutbound_takes _ outcome polled
      unfold World.takesFrom
      dsimp only
      generalize (Session.mk (world.machine side).table world.freshConnection none).takesFrom
        _ = taken at takes ⊢
      cases taken with
      | some channel =>
          obtain ⟨remoteId, id, body, sent, account, ready⟩ := takes
          refine ⟨locals, body, rfl, Locals.pollRecv_of_within ready, ?_⟩
          intro connection
          rw [sent, account, Option.getD_some]
          exact Tagged.body_send_data connection channel remoteId id body
      | none => exact fun connection => Tagged.body_silent (Tagged.send_silent takes)
  | @connect _ _ _ _ _ _ _ outcome pending started =>
      have cleanedUp := ConnTable.cleanupDead_of_pending pending
      obtain ⟨tableCleaned, rfl⟩ := (agrees.tables side).cleanupDead _ cleanedUp
      obtain ⟨after, -, starts⟩ := tableCleaned.startConnecting _ outcome started
      refine ⟨Tagged.send world.freshConnection outcome.frame, by simp [World.perform],
        fun connection => Tagged.body_silent (Tagged.send_silent starts.notData)⟩
  | close _ connection => exact ⟨[], by simp, fun _ => rfl⟩

/-- What a frame delivers is its body. -/
theorem ConnTable.processInbound_carries {size channel bound : Nat} {table : ConnTable size}
    {locals : Locals} {frame : InboundFrame} {outcome : Outcome size} {view : Sockets}
    {body : List UInt8} (agrees : table.Shows view)
    (processed : table.processInbound locals channel frame = .ok outcome)
    (delivered : .delivered bound body ∈ outcome.events) : body = frame.body := by
  obtain ⟨header, bytes⟩ := frame
  obtain ⟨after, -, receives⟩ := agrees.processInbound channel _ outcome processed
  obtain ⟨localId, remoteId, rfl, -⟩ := receives.delivered_matches delivered
  rcases (Session.mk table 0 none).processData_delivers locals localId remoteId bytes with
    ⟨found, -, isDelivered⟩ | ⟨-, quiet⟩
  · cases processed.symm.trans isDelivered
    obtain ⟨-, rfl⟩ := by simpa using delivered
    rfl
  · cases quiet outcome processed _ delivered

theorem World.step_carries {move : Move} {after : Network} (agrees : world.Shows net)
    (stepTo : world.step build ⟨side, move⟩ = some (next, occurred))
    (moves : net.Step side (world.grants ⟨side, move⟩) move after occurred) :
    net.Carries side occurred := by
  intro tagged rest head answering bound body delivered
  cases move with
  | receive locals =>
      have worldHead := (agrees.sent side.other).trans head
      cases World.step_cases stepTo with
      | receive arrived processed =>
          obtain ⟨rfl, rfl⟩ := List.cons.inj (worldHead.symm.trans arrived)
          obtain ⟨event, member, same⟩ := List.mem_map.mp delivered
          cases same
          exact ConnTable.processInbound_carries (agrees.tables side) processed member
  | poll locals =>
      cases moves with
      | poll sends =>
          obtain ⟨event, member, same⟩ := List.mem_map.mp delivered
          cases same
          cases sends.undelivered _ member
  | connect locals identity hello =>
      cases moves with
      | connect starts =>
          obtain ⟨event, member, same⟩ := List.mem_map.mp delivered
          cases same
          rcases List.mem_append.mp member with cleaned | own
          · obtain ⟨id, removed, isCleanup⟩ := Sockets.mem_cleanupEvents cleaned
            cases isCleanup
          · cases starts.undelivered _ own
  | close connection => cases moves with
      | close => cases delivered

end Steps

section Runs

variable {streams next : StreamWorld capacity} {history occurred : List Occurrence}

/-- What was committed has been taken from the queue or is still in it, and what was taken
moves along. -/
def StreamWorld.Sound (history : List Occurrence) (streams : StreamWorld capacity) : Prop :=
  ∃ net taken, streams.world.Shows net ∧ net.Independent ∧ Flows net taken history ∧
    ∀ side connection, streams.committed side connection =
      taken side connection ++ streams.queue side connection

theorem StreamWorld.Sound.commit (sound : streams.Sound history) (side : Side)
    (connection : Nat) (body : List UInt8) :
    StreamWorld.Sound history
      { streams with
        queue := Function.update streams.queue side
          (enqueue (streams.queue side) (connection, body))
        committed := Function.update streams.committed side
          (enqueue (streams.committed side) (connection, body)) } := by
  obtain ⟨net, taken, agrees, independent, flows, accounted⟩ := sound
  refine ⟨net, taken, agrees, independent, flows, ?_⟩
  intro other channel
  have before := accounted other channel
  rcases other.eq_or_eq_other side with rfl | rfl
  · simp [enqueue_apply, before]
  · simpa using before

/-- Taking the first message of a queue leaves the rest of it. -/
theorem eq_append_dequeue {queue : Nat → List (List UInt8)} {channel : Nat} {body : List UInt8}
    (head : (queue channel).head? = some body) (connection : Nat) :
    queue connection =
      (if channel = connection then [body] else []) ++ dequeue queue channel connection := by
  by_cases same : channel = connection
  · subst same
    obtain ⟨rest, isHead⟩ := List.head?_eq_some_iff.mp head
    simp [dequeue, isHead]
  · simp [dequeue, Function.update_of_ne (Ne.symm same), same]

theorem World.Shows.independent_step {world : World capacity} {net after : Network}
    {action : WorldAction} (agrees : world.Shows net) (independent : net.Independent)
    (admitted : world.grantsUnreferenced action)
    (moves : net.Step action.side (world.grants action) action.move after occurred) :
    after.Independent := by
  refine independent.step (agrees.unmentioned admitted.1) ?_ moves
  intro locals isReceive id isGranted
  have spared := admitted.2
  rw [isReceive] at spared
  rw [← (agrees.tables action.side).dead_eq]
  exact spared id isGranted

theorem StreamWorld.Sound.machine (sound : streams.Sound history) {action : WorldAction}
    (admitted : streams.admits (.machine action))
    (stepTo : streams.step build (.machine action) = some (next, occurred)) :
    next.Sound (history ++ occurred) := by
  obtain ⟨net, taken, agrees, independent, flows, accounted⟩ := sound
  simp only [StreamWorld.step, Option.map_eq_some_iff, Prod.mk.injEq] at stepTo
  obtain ⟨⟨world, reported⟩, stepsTo, rfl, rfl⟩ := stepTo
  obtain ⟨after, shown, moves⟩ := agrees.step stepsTo
  obtain ⟨sends, sentEq, moved⟩ :=
    flows.step independent (World.step_carries agrees stepsTo moves) moves
  obtain ⟨others, worldSent, takes⟩ := World.step_takes agrees stepsTo
  obtain rfl : others = sends := by
    rw [shown.sent, agrees.sent, sentEq] at worldSent
    exact (List.append_cancel_left worldSent).symm
  refine ⟨after, takeBodies taken action.side others, shown,
    agrees.independent_step independent admitted moves, moved, ?_⟩
  intro other connection
  have before := accounted other connection
  rcases other.eq_or_eq_other action.side with rfl | rfl
  · rw [takeBodies_self, List.append_assoc]
    dsimp only
    rw [before, Function.update_self]
    congr 1
    change Move.Takes _ others (streams.world.takesFrom (streams.asked action)) at takes
    generalize streams.world.takesFrom (streams.asked action) = taking at takes ⊢
    cases taking with
    | none => simp [takes connection]
    | some channel =>
        obtain ⟨locals, body, isPoll, ready, bodies⟩ := takes
        have head : (streams.queue action.side channel).head? = some body := by
          obtain ⟨side, move⟩ := action
          cases move with
          | poll chosen =>
              cases isPoll
              exact Locals.head_of_queued ready
          | receive | connect | close => cases isPoll
        rw [bodies connection]
        exact eq_append_dequeue head connection
  · simpa using before

theorem StreamWorld.sound_of_run
    (run : Run (StreamWorld.step build) StreamWorld.admits (StreamWorld.new capacity)
      history streams) : streams.Sound history := by
  apply run.invariant StreamWorld.Sound
  · exact ⟨.empty, fun _ _ => [], .new capacity, .initial, .initial, fun _ _ => rfl⟩
  · intro past events before after action sound admitted stepTo
    cases action with
    | commit side connection body =>
        cases stepTo
        rw [List.append_nil]
        exact sound.commit side connection body
    | machine action => exact sound.machine admitted stepTo

/-- The socket of the connection is in the table of this side. -/
def World.Holds (world : World capacity) (side : Side) (connection : Nat) : Prop :=
  ∃ id state, (world.machine side).table.entry id = some (.occupied ⟨state, connection⟩)

/-- What the peer's application has received of a connection is a prefix of what was
committed to it, and while the peer has its socket only what is on the wire or still
queued is missing. -/
structure StreamWorld.Delivers (history : List Occurrence) (streams : StreamWorld capacity)
    (side : Side) (connection : Nat) : Prop where
  isPrefix : deliveredTo connection (eventsOf side.other history) <+:
    streams.committed side connection
  complete : streams.world.Holds side.other connection →
    streams.committed side connection =
      deliveredTo connection (eventsOf side.other history) ++
        ((streams.world.machine side).sent.filterMap (Tagged.body connection) ++
          streams.queue side connection)

/-- In every run in which ids are handed out only when nothing refers to them any more,
the streams of every connection arrive in order and without gaps. -/
theorem streams_delivered
    (run : Run (StreamWorld.step build) StreamWorld.admits (StreamWorld.new capacity)
      history streams) (side : Side) (connection : Nat) :
    streams.Delivers history side connection := by
  obtain ⟨net, taken, agrees, -, flows, accounted⟩ := StreamWorld.sound_of_run run
  have sound := flows.sound side connection
  constructor
  · rw [accounted]
    exact sound.isPrefix.trans (List.prefix_append _ _)
  · rintro ⟨id, state, found⟩
    rw [agrees.entry_iff] at found
    have complete : taken side connection =
        deliveredTo connection (eventsOf side.other history) ++
          (net.sent side).filterMap (Tagged.body connection) :=
      sound.complete ⟨id, state, found⟩
    rw [accounted, complete, agrees.sent, List.append_assoc]

/-- Of three messages one is received, one is on the wire and one is queued. -/
theorem streams_delivered_underway :
    ∃ history final,
      Run (StreamWorld.step .debug) StreamWorld.admits (StreamWorld.new fun _ => 1) history
        final ∧
      deliveredTo 0 (eventsOf .right history) = [[1]] ∧
      final.committed .left 0 = [[1], [2], [3]] ∧ final.queue .left 0 = [[3]] ∧
      final.Delivers history .left 0 ∧ final.Delivers history .right 0 := by
  obtain ⟨history, final, run, observed⟩ :=
    exists_run_of_exec (StreamWorld.step .debug) StreamWorld.admits
      (StreamWorld.new fun _ => 1)
      [.machine ⟨.left, .connect .quiet .sample []⟩, .commit .left 0 [1], .commit .left 0 [2],
        .machine ⟨.right, .receive .quiet⟩, .machine ⟨.left, .receive .quiet⟩,
        .machine ⟨.left, .poll .dataReady⟩, .commit .right 0 [9],
        .machine ⟨.right, .poll .dataReady⟩, .machine ⟨.right, .receive .quiet⟩,
        .machine ⟨.left, .poll .dataReady⟩, .commit .left 0 [3]]
      (fun reached => (deliveredTo 0 (eventsOf .right reached.2), reached.1.committed .left 0,
        reached.1.queue .left 0))
      (show _ = some ([[1]], [[1], [2], [3]], [[3]]) by decide +kernel)
  simp only [Prod.mk.injEq] at observed
  obtain ⟨received, committed, queued⟩ := observed
  exact ⟨history, final, run, received, committed, queued, streams_delivered run .left 0,
    streams_delivered run .right 0⟩

end Runs

end Worlds

end Calliope

end Mgnp
