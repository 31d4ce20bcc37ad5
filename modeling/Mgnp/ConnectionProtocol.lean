import Mgnp.Message

/-!
# The protocol of one connection

One connection between two machines, with everything else left out: each end has
the sockets of the connection, the ids it marked dead for it, the frames about it
that its peer has not received, and whether its local stream has closed.

The connection passes through four phases.  In the last, both ends know both ids,
and an end whose stream is open and that has no RESET coming has a partner.
-/

namespace Mgnp

namespace Calliope

/-- One end of a connection. -/
structure End where
  /-- The sockets, with the id of the peer once they are open. -/
  held : Id → Option Id → Prop
  marked : Id → Prop
  /-- The frames its peer has not received, oldest first. -/
  sent : List Header
  closed : Prop

namespace End

def push (own : End) (header : Header) : End :=
  { own with sent := own.sent ++ [header] }

def drop (own : End) (id : Id) : End :=
  { own with
    held := fun other remote => other ≠ id ∧ own.held other remote
    marked := fun other => other ≠ id ∧ own.marked other }

def hold (own : End) (id : Id) (remoteId : Option Id) : End :=
  { own with
    held := fun other remote =>
      (other = id ∧ remote = remoteId) ∨ (other ≠ id ∧ own.held other remote) }

def Present (own : End) : Prop := ∃ id remote, own.held id remote

/-- A RESET naming this id is on its way to the peer. -/
def Resets (own : End) (id : Id) : Prop := ∃ reason, .reset id reason ∈ own.sent

structure Idle (own : End) : Prop where
  absent : ∀ id remote, ¬ own.held id remote
  unmarked : ∀ id, ¬ own.marked id

/-- What receiving a frame about the connection does to an end. -/
inductive Receives (own : End) : Header → End → Prop
  | dataStray {localId remoteId : Id} {reason : Reset}
      (notOpen : ¬ own.held remoteId (some localId)) :
      Receives own (.data localId remoteId) (own.push (.reset localId reason))
  | dataDelivered {localId remoteId : Id} :
      Receives own (.data localId remoteId) own
  | dataFailed {localId remoteId : Id} {reason : Reset} :
      Receives own (.data localId remoteId)
        ((own.drop remoteId).push (.reset localId reason))
  | ackStray {localId remoteId : Id} {reason : Reset}
      (notConnecting : ¬ own.held remoteId none) :
      Receives own (.ack localId remoteId) (own.push (.reset localId reason))
  | ackOpened {localId remoteId : Id} (isConnecting : own.held remoteId none) :
      Receives own (.ack localId remoteId) (own.hold remoteId (some localId))
  | ackAbandoned {localId remoteId : Id} {reason : Reset}
      (isConnecting : own.held remoteId none) (closed : own.closed) :
      Receives own (.ack localId remoteId)
        ((own.hold remoteId (some localId)).push (.reset localId reason))
  | rejected {remoteId : Id} {reason : Rejection} :
      Receives own (.reject remoteId reason) (own.drop remoteId)
  | reset {remoteId : Id} {reason : Reset} :
      Receives own (.reset remoteId reason) (own.drop remoteId)
  | connectAccepted {localId id : Id} {identity : Identity} :
      Receives own (.connect localId identity)
        ((own.hold id (some localId)).push (.ack id localId))
  | connectRefused {localId : Id} {identity : Identity} {reason : Rejection} :
      Receives own (.connect localId identity) (own.push (.reject localId reason))

/-- A step of one end. -/
inductive Acts (own peer : End) : End → End → Prop
  | cleanup {id : Id} (isMarked : own.marked id) : Acts own peer (own.drop id) peer
  | data {id remoteId : Id} (isOpen : own.held id (some remoteId)) :
      Acts own peer (own.push (.data id remoteId)) peer
  | mark {id remoteId : Id} {reason : Reset} (isOpen : own.held id (some remoteId))
      (closed : own.closed) :
      Acts own peer { own.push (.reset remoteId reason) with marked := (· = id) } peer
  | close : Acts own peer { own with closed := True } peer
  | request {id : Id} {identity : Identity} (idle : own.Idle ∧ peer.Idle)
      (unsent : own.sent = [] ∧ peer.sent = []) :
      Acts own peer ((own.hold id none).push (.connect id identity)) peer
  | receive {header : Header} {rest : List Header} {after : End}
      (head : peer.sent = header :: rest) (receives : own.Receives header after) :
      Acts own peer after { peer with sent := rest }

end End

section Joined

variable {own peer : End} {ownId peerId : Id}

/-- What holds of one end once both ids are fixed. -/
structure Half (own peer : End) (ownId peerId : Id) : Prop where
  held : ∀ id remote, own.held id remote →
    id = ownId ∧ (remote = none ∨ remote = some peerId)
  single : ∀ id first second, own.held id first → own.held id second → first = second
  /-- A connecting end has sent nothing, and its ACK is the next frame it gets. -/
  waits : own.held ownId none → own.sent = [] ∧ (∀ id, ¬ own.marked id) ∧
    ∃ rest, peer.sent = .ack peerId ownId :: rest ∧ .ack peerId ownId ∉ rest
  frames : ∀ header ∈ own.sent, header = .ack ownId peerId ∨
    header = .data ownId peerId ∨ ∃ reason, header = .reset peerId reason
  acks : .ack ownId peerId ∈ own.sent → peer.held peerId none
  alive : own.Present → ¬ own.closed → ¬ peer.Resets ownId → peer.Present
  resetSent : own.Resets peerId → own.Present → own.closed
  marked : ∀ id, own.marked id → (∃ remote, own.held id remote) ∧ own.closed ∧
    (own.Resets peerId ∨ ¬ peer.Present)

/-- Both ends know both ids. -/
structure Joined (own peer : End) (ownId peerId : Id) : Prop where
  near : Half own peer ownId peerId
  far : Half peer own peerId ownId

theorem Joined.symm (joined : Joined own peer ownId peerId) :
    Joined peer own peerId ownId :=
  ⟨joined.far, joined.near⟩

theorem End.resets_push_reset (own : End) (id : Id) (reason : Reset) :
    (own.push (.reset id reason)).Resets id :=
  ⟨reason, by simp [push]⟩

theorem End.Resets.push {id : Id} (resets : own.Resets id) (header : Header) :
    (own.push header).Resets id := by
  obtain ⟨reason, member⟩ := resets
  exact ⟨reason, by simp [End.push, member]⟩

theorem Half.absent_drop (half : Half own peer ownId peerId) (id : Id)
    (remote : Option Id) : ¬ (own.drop ownId).held id remote := by
  rintro ⟨different, isHeld⟩
  exact different (half.held id remote isHeld).1

/-- An end that is not waiting and has no open socket has none. -/
theorem Half.not_present (half : Half own peer ownId peerId)
    (notWaiting : ¬ own.held ownId none) (notOpen : ¬ own.held ownId (some peerId)) :
    ¬ own.Present := by
  rintro ⟨id, remote, isHeld⟩
  obtain ⟨rfl, rfl | rfl⟩ := half.held id remote isHeld
  · exact notWaiting isHeld
  · exact notOpen isHeld

/-- Closing the local stream. -/
theorem Joined.close (joined : Joined own peer ownId peerId) :
    Joined { own with closed := True } peer ownId peerId := by
  obtain ⟨near, far⟩ := joined
  constructor
  · exact { near with
      alive := fun _ isOpen => absurd trivial isOpen
      resetSent := fun _ _ => trivial
      marked := fun id isMarked =>
        have ⟨isHeld, _, told⟩ := near.marked id isMarked
        ⟨isHeld, trivial, told⟩ }
  · exact ⟨far.held, far.single, far.waits, far.frames, far.acks, far.alive,
      far.resetSent, far.marked⟩

/-- Sending DATA, or a RESET when the socket is gone or its stream closed. -/
theorem Joined.push (joined : Joined own peer ownId peerId) {header : Header}
    (notWaiting : ¬ own.held ownId none)
    (kind : header = .data ownId peerId ∨ ∃ reason, header = .reset peerId reason)
    (settled : header = .data ownId peerId ∨ (own.Present → own.closed)) :
    Joined (own.push header) peer ownId peerId := by
  obtain ⟨near, far⟩ := joined
  have notAck : .ack ownId peerId ≠ header := by
    rcases kind with rfl | ⟨reason, rfl⟩ <;> simp
  constructor
  · constructor
    · exact near.held
    · exact near.single
    · exact fun isWaiting => absurd isWaiting notWaiting
    · intro sent member
      rcases List.mem_append.mp member with old | new
      · exact near.frames sent old
      · rw [List.mem_singleton.mp new]
        exact .inr kind
    · intro member
      rcases List.mem_append.mp member with old | new
      · exact near.acks old
      · exact absurd (List.mem_singleton.mp new) notAck
    · exact near.alive
    · rintro ⟨reason, member⟩ present
      rcases List.mem_append.mp member with old | new
      · exact near.resetSent ⟨reason, old⟩ present
      · rcases settled with isData | closed
        · rw [isData] at new
          simp at new
        · exact closed present
    · intro id isMarked
      obtain ⟨isHeld, closed, told | gone⟩ := near.marked id isMarked
      · exact ⟨isHeld, closed, .inl (told.push header)⟩
      · exact ⟨isHeld, closed, .inr gone⟩
  · constructor
    · exact far.held
    · exact far.single
    · intro isWaiting
      obtain ⟨unsent, unmarked, rest, sentEq, noAck⟩ := far.waits isWaiting
      refine ⟨unsent, unmarked, rest ++ [header], ?_, ?_⟩
      · simp [End.push, sentEq]
      · simp [noAck, notAck]
    · exact far.frames
    · exact far.acks
    · intro present isOpen noReset
      exact far.alive present isOpen fun resets => noReset (resets.push header)
    · exact far.resetSent
    · exact far.marked

/-- Removing the socket, once the peer is told or does not need to be. -/
theorem Joined.retire (joined : Joined own peer ownId peerId) (tail : List Header)
    (notWaiting : ¬ own.held ownId none)
    (resets : ∀ header ∈ tail, ∃ reason, header = .reset peerId reason)
    (told : peer.Present → ¬ peer.closed →
      End.Resets { own.drop ownId with sent := own.sent ++ tail } peerId) :
    Joined { own.drop ownId with sent := own.sent ++ tail } peer ownId peerId := by
  obtain ⟨near, far⟩ := joined
  have absent := near.absent_drop
  have notAck : .ack ownId peerId ∉ tail := by
    intro member
    obtain ⟨reason, same⟩ := resets _ member
    simp at same
  constructor
  · constructor
    · exact fun id remote isHeld => absurd isHeld (absent id remote)
    · exact fun id first _ isHeld => absurd isHeld (absent id first)
    · exact fun isHeld => absurd isHeld (absent _ _)
    · intro sent member
      rcases List.mem_append.mp member with old | new
      · exact near.frames sent old
      · exact .inr (.inr (resets sent new))
    · intro member
      rcases List.mem_append.mp member with old | new
      · exact near.acks old
      · exact absurd new notAck
    · exact fun ⟨id, remote, isHeld⟩ => absurd isHeld (absent id remote)
    · exact fun _ ⟨id, remote, isHeld⟩ => absurd isHeld (absent id remote)
    · rintro id ⟨different, isMarked⟩
      obtain ⟨⟨remote, isHeld⟩, -⟩ := near.marked id isMarked
      exact absurd (near.held id remote isHeld).1 different
  · constructor
    · exact far.held
    · exact far.single
    · intro isWaiting
      obtain ⟨unsent, unmarked, rest, sentEq, noAck⟩ := far.waits isWaiting
      refine ⟨unsent, unmarked, rest ++ tail, ?_, ?_⟩
      · simp [sentEq]
      · simp [noAck, notAck]
    · exact far.frames
    · exact fun member => absurd (far.acks member) notWaiting
    · exact fun present isOpen noReset => absurd (told present isOpen) noReset
    · exact far.resetSent
    · intro id isMarked
      obtain ⟨isHeld, closed, -⟩ := far.marked id isMarked
      exact ⟨isHeld, closed, .inr fun ⟨id, remote, isHeld⟩ => absent id remote isHeld⟩

/-- Taking a frame other than the ACK, and a RESET only once the socket is gone. -/
theorem Joined.pop (joined : Joined own peer ownId peerId) {header : Header}
    {rest : List Header} (head : peer.sent = header :: rest)
    (notAck : header ≠ .ack peerId ownId)
    (settled : ∀ reason, header = .reset ownId reason → ¬ own.Present) :
    Joined own { peer with sent := rest } ownId peerId := by
  obtain ⟨near, far⟩ := joined
  have tail : ∀ kept ∈ rest, kept ∈ peer.sent := by
    intro kept member
    rw [head]
    exact List.mem_cons_of_mem _ member
  have stillResets : peer.Resets ownId → own.Present →
      End.Resets { peer with sent := rest } ownId := by
    rintro ⟨reason, member⟩ present
    rw [head] at member
    rcases List.mem_cons.mp member with same | later
    · exact absurd present (settled reason same.symm)
    · exact ⟨reason, later⟩
  constructor
  · constructor
    · exact near.held
    · exact near.single
    · intro isWaiting
      obtain ⟨-, -, later, sentEq, -⟩ := near.waits isWaiting
      rw [head] at sentEq
      exact absurd (List.cons.inj sentEq).1 notAck
    · exact near.frames
    · exact near.acks
    · intro present isOpen noReset
      exact near.alive present isOpen fun resets => noReset (stillResets resets present)
    · exact near.resetSent
    · exact near.marked
  · constructor
    · exact far.held
    · exact far.single
    · intro isWaiting
      have unsent := (far.waits isWaiting).1
      rw [head] at unsent
      contradiction
    · exact fun sent member => far.frames sent (tail sent member)
    · exact fun member => far.acks (tail _ member)
    · exact far.alive
    · exact fun ⟨reason, member⟩ present => far.resetSent ⟨reason, tail _ member⟩ present
    · intro id isMarked
      obtain ⟨isHeld, closed, told⟩ := far.marked id isMarked
      refine ⟨isHeld, closed, ?_⟩
      by_cases present : own.Present
      · rcases told with resets | gone
        · exact .inl (stillResets resets present)
        · exact absurd present gone
      · exact .inr present

/-- The ACK opens the waiting socket. -/
theorem Joined.open (joined : Joined own peer ownId peerId) {rest : List Header}
    (head : peer.sent = .ack peerId ownId :: rest) :
    Joined (own.hold ownId (some peerId)) { peer with sent := rest } ownId peerId := by
  obtain ⟨near, far⟩ := joined
  have isWaiting : own.held ownId none := far.acks (by simp [head])
  obtain ⟨unsent, unmarked, later, sentEq, noAck⟩ := near.waits isWaiting
  obtain rfl : rest = later := by
    rw [head] at sentEq
    exact (List.cons.inj sentEq).2
  have present : own.Present := ⟨_, _, isWaiting⟩
  have stillResets : peer.Resets ownId → End.Resets { peer with sent := rest } ownId := by
    rintro ⟨reason, member⟩
    exact ⟨reason, by simpa [head] using member⟩
  have onlyOpen : ∀ id remote, (own.hold ownId (some peerId)).held id remote →
      id = ownId ∧ remote = some peerId := by
    rintro id remote (opened | ⟨different, isHeld⟩)
    · exact opened
    · exact absurd (near.held id remote isHeld).1 different
  constructor
  · constructor
    · intro id remote isHeld
      obtain ⟨rfl, rfl⟩ := onlyOpen id remote isHeld
      exact ⟨rfl, .inr rfl⟩
    · intro id first second isFirst isSecond
      rw [(onlyOpen id first isFirst).2, (onlyOpen id second isSecond).2]
    · intro stillWaiting
      have := (onlyOpen _ _ stillWaiting).2
      contradiction
    · exact near.frames
    · exact near.acks
    · intro _ isOpen noReset
      exact near.alive present isOpen fun resets => noReset (stillResets resets)
    · exact fun resets _ => near.resetSent resets present
    · exact fun id isMarked => absurd isMarked (unmarked id)
  · constructor
    · exact far.held
    · exact far.single
    · intro peerWaiting
      have peerUnsent := (far.waits peerWaiting).1
      rw [head] at peerUnsent
      contradiction
    · intro sent member
      exact far.frames sent (by simp [head, member])
    · exact fun member => absurd member noAck
    · exact fun _ _ _ => ⟨ownId, some peerId, .inl ⟨rfl, rfl⟩⟩
    · rintro ⟨reason, member⟩ peerPresent
      exact far.resetSent ⟨reason, by simp [head, member]⟩ peerPresent
    · intro id isMarked
      obtain ⟨isHeld, closed, told | gone⟩ := far.marked id isMarked
      · exact ⟨isHeld, closed, .inl (stillResets told)⟩
      · exact absurd present gone

/-- Marking an open socket whose peer has been told. -/
theorem Joined.mark (joined : Joined own peer ownId peerId)
    (isOpen : own.held ownId (some peerId)) (closed : own.closed)
    (told : own.Resets peerId) :
    Joined { own with marked := (· = ownId) } peer ownId peerId := by
  obtain ⟨near, far⟩ := joined
  constructor
  · exact { near with
      waits := fun isWaiting => absurd (near.single _ _ _ isWaiting isOpen) (by simp)
      marked := fun id isMarked => ⟨⟨_, isMarked ▸ isOpen⟩, closed, .inl told⟩ }
  · exact ⟨far.held, far.single, far.waits, far.frames, far.acks, far.alive,
      far.resetSent, far.marked⟩

theorem Joined.receive (joined : Joined own peer ownId peerId) {header : Header}
    {rest : List Header} {after : End} (head : peer.sent = header :: rest)
    (receives : own.Receives header after) :
    Joined after { peer with sent := rest } ownId peerId := by
  have frame := joined.far.frames header (by simp [head])
  have waits : own.held ownId none → header = .ack peerId ownId := by
    intro isWaiting
    obtain ⟨-, -, later, sentEq, -⟩ := joined.near.waits isWaiting
    rw [head] at sentEq
    exact (List.cons.inj sentEq).1
  cases receives with
  | dataStray notOpen =>
      obtain ⟨rfl, rfl⟩ := by simpa using frame
      have notWaiting : ¬ own.held _ none := fun isWaiting => by simpa using waits isWaiting
      have gone := joined.near.not_present notWaiting notOpen
      exact (joined.pop head (by simp) (by simp)).push notWaiting (.inr ⟨_, rfl⟩)
        (.inr fun present => absurd present gone)
  | dataDelivered => exact joined.pop head (by simp) (by simp)
  | @dataFailed localId remoteId reason =>
      obtain ⟨rfl, rfl⟩ := by simpa using frame
      have notWaiting : ¬ own.held _ none := fun isWaiting => by simpa using waits isWaiting
      exact (joined.pop head (by simp) (by simp)).retire [.reset localId reason] notWaiting
        (by simp) fun _ _ => ⟨reason, by simp⟩
  | ackStray notConnecting =>
      obtain ⟨rfl, rfl⟩ := by simpa using frame
      exact absurd (joined.far.acks (by simp [head])) notConnecting
  | ackOpened isConnecting =>
      obtain ⟨rfl, rfl⟩ := by simpa using frame
      exact joined.open head
  | ackAbandoned isConnecting closed =>
      obtain ⟨rfl, rfl⟩ := by simpa using frame
      refine (joined.open head).push ?_ (.inr ⟨_, rfl⟩) (.inr fun _ => closed)
      simp [End.hold]
  | rejected => simp at frame
  | @reset remoteId reason =>
      obtain rfl : remoteId = ownId := by simpa using frame
      have notWaiting : ¬ own.held remoteId none :=
        fun isWaiting => by simpa using waits isWaiting
      have resets : peer.Resets remoteId := ⟨reason, by simp [head]⟩
      have retired := joined.retire [] notWaiting (by simp) fun present isOpen =>
        absurd (joined.far.resetSent resets present) isOpen
      rw [List.append_nil] at retired
      refine retired.pop head (by simp) ?_
      rintro _ _ ⟨id, remote, isHeld⟩
      exact joined.near.absent_drop id remote isHeld
  | connectAccepted => simp at frame
  | connectRefused => simp at frame

end Joined

section Phases

variable {own peer after peerAfter : End}

/-- An end whose one socket is connecting. -/
structure End.Waiting (own : End) (id : Id) : Prop where
  held : ∀ other remote, own.held other remote ↔ other = id ∧ remote = none
  unmarked : ∀ other, ¬ own.marked other

/-- The phases of a connection that `own` has started. -/
inductive Stage (own peer : End) : Prop
  | requested {id : Id} {identity : Identity} (waiting : own.Waiting id)
      (sent : own.sent = [.connect id identity]) (peerIdle : peer.Idle)
      (peerSent : peer.sent = [])
  | refused {id : Id} {reason : Rejection} (waiting : own.Waiting id)
      (sent : own.sent = []) (peerIdle : peer.Idle)
      (peerSent : peer.sent = [.reject id reason])
  | joined {ownId peerId : Id} (joined : Joined own peer ownId peerId)

/-- A connection that no end has started, or that one of them has. -/
inductive Phase (own peer : End) : Prop
  | unborn (idle : own.Idle ∧ peer.Idle) (unsent : own.sent = [] ∧ peer.sent = [])
  | started (stage : Stage own peer)
  | answering (stage : Stage peer own)

theorem Phase.symm (phase : Phase own peer) : Phase peer own := by
  cases phase with
  | unborn idle unsent => exact .unborn idle.symm unsent.symm
  | started stage => exact .answering stage
  | answering stage => exact .started stage

/-- Starting a connection of which nothing is left. -/
theorem Phase.request (idle : own.Idle ∧ peer.Idle) (unsent : own.sent = [] ∧ peer.sent = [])
    (id : Id) (identity : Identity) :
    Phase ((own.hold id none).push (.connect id identity)) peer := by
  have waiting : ((own.hold id none).push (.connect id identity)).Waiting id := by
    refine ⟨fun other remote => ?_, idle.1.unmarked⟩
    simp [End.hold, End.push, idle.1.absent other remote]
  have sent : ((own.hold id none).push (.connect id identity)).sent =
      [.connect id identity] := by
    simp [End.push, End.hold, unsent.1]
  exact .started (.requested waiting sent idle.2 unsent.2)

theorem End.Idle.drop (idle : own.Idle) (id : Id) : (own.drop id).Idle :=
  ⟨fun _ _ isHeld => idle.absent _ _ isHeld.2, fun _ isMarked => idle.unmarked _ isMarked.2⟩

theorem End.Waiting.drop {id : Id} (waiting : own.Waiting id) : (own.drop id).Idle := by
  constructor
  · rintro other remote ⟨different, isHeld⟩
    exact different ((waiting.held other remote).mp isHeld).1
  · exact fun other isMarked => waiting.unmarked other isMarked.2

/-- Two ends without sockets or frames are joined under any ids. -/
theorem Joined.of_idle (idle : own.Idle ∧ peer.Idle) (unsent : own.sent = [] ∧ peer.sent = [])
    (ownId peerId : Id) : Joined own peer ownId peerId := by
  have half : ∀ {own peer : End} {ownId peerId : Id}, own.Idle → own.sent = [] →
      Half own peer ownId peerId := by
    intro own peer ownId peerId idle unsent
    constructor
    · exact fun id remote isHeld => absurd isHeld (idle.absent id remote)
    · exact fun id first _ isHeld => absurd isHeld (idle.absent id first)
    · exact fun isHeld => absurd isHeld (idle.absent _ _)
    · simp [unsent]
    · simp [unsent]
    · exact fun ⟨id, remote, isHeld⟩ => absurd isHeld (idle.absent id remote)
    · exact fun _ ⟨id, remote, isHeld⟩ => absurd isHeld (idle.absent id remote)
    · exact fun id isMarked => absurd isMarked (idle.unmarked id)
  exact ⟨half idle.1 unsent.1, half idle.2 unsent.2⟩

/-- The acceptor's socket and its ACK join the two ends. -/
theorem Joined.of_accept {id requestId : Id} (idle : own.Idle) (unsent : own.sent = [])
    (waiting : peer.Waiting requestId) (peerUnsent : peer.sent = []) :
    Joined ((own.hold id (some requestId)).push (.ack id requestId)) peer id requestId := by
  have onlyOpen : ∀ other remote, (own.hold id (some requestId)).held other remote ↔
      other = id ∧ remote = some requestId := by
    intro other remote
    simp [End.hold, idle.absent other remote]
  have isSent : ((own.hold id (some requestId)).push (.ack id requestId)).sent =
      [.ack id requestId] := by
    simp [End.push, End.hold, unsent]
  have notMarked : ∀ other, ¬ own.marked other := idle.unmarked
  constructor
  · constructor
    · intro other remote isHeld
      obtain ⟨rfl, rfl⟩ := (onlyOpen other remote).mp isHeld
      exact ⟨rfl, .inr rfl⟩
    · intro other first second isFirst isSecond
      rw [((onlyOpen other first).mp isFirst).2, ((onlyOpen other second).mp isSecond).2]
    · intro isWaiting
      have := ((onlyOpen _ _).mp isWaiting).2
      contradiction
    · simp [isSent]
    · exact fun _ => (waiting.held _ _).mpr ⟨rfl, rfl⟩
    · exact fun _ _ _ => ⟨requestId, none, (waiting.held _ _).mpr ⟨rfl, rfl⟩⟩
    · rintro ⟨reason, member⟩
      simp [isSent] at member
    · exact fun other isMarked => absurd isMarked (notMarked other)
  · constructor
    · intro other remote isHeld
      obtain ⟨rfl, rfl⟩ := (waiting.held other remote).mp isHeld
      exact ⟨rfl, .inl rfl⟩
    · intro other first second isFirst isSecond
      rw [((waiting.held other first).mp isFirst).2, ((waiting.held other second).mp isSecond).2]
    · exact fun _ => ⟨peerUnsent, waiting.unmarked, [], isSent, by simp⟩
    · simp [peerUnsent]
    · simp [peerUnsent]
    · exact fun _ _ _ => ⟨id, some requestId, (onlyOpen _ _).mpr ⟨rfl, rfl⟩⟩
    · rintro ⟨reason, member⟩
      simp [peerUnsent] at member
    · exact fun other isMarked => absurd isMarked (waiting.unmarked other)

theorem Joined.acts {ownId peerId : Id} (joined : Joined own peer ownId peerId)
    (acts : own.Acts peer after peerAfter) : Phase after peerAfter := by
  have opened : ∀ id remoteId, own.held id (some remoteId) →
      id = ownId ∧ remoteId = peerId ∧ ¬ own.held ownId none := by
    intro id remoteId isOpen
    obtain ⟨rfl, unknown | known⟩ := joined.near.held id _ isOpen
    · contradiction
    · refine ⟨rfl, Option.some.inj known, fun isWaiting => ?_⟩
      exact absurd (joined.near.single _ _ _ isWaiting isOpen) (by simp)
  cases acts with
  | @cleanup id isMarked =>
      obtain ⟨⟨remote, isHeld⟩, -, told⟩ := joined.near.marked id isMarked
      obtain rfl := (joined.near.held id remote isHeld).1
      have notWaiting : ¬ own.held id none :=
        fun isWaiting => (joined.near.waits isWaiting).2.1 id isMarked
      have retired := joined.retire [] notWaiting (by simp) fun present _ => by
        rcases told with ⟨reason, member⟩ | gone
        · exact ⟨reason, by simpa using member⟩
        · exact absurd present gone
      rw [List.append_nil] at retired
      exact .started (.joined retired)
  | data isOpen =>
      obtain ⟨rfl, rfl, notWaiting⟩ := opened _ _ isOpen
      exact .started (.joined (joined.push notWaiting (.inl rfl) (.inl rfl)))
  | @mark id remoteId reason isOpen closed =>
      obtain ⟨rfl, rfl, notWaiting⟩ := opened _ _ isOpen
      have pushed := joined.push notWaiting (.inr ⟨reason, rfl⟩) (.inr fun _ => closed)
      exact .started (.joined (pushed.mark isOpen closed (own.resets_push_reset _ _)))
  | close => exact .started (.joined joined.close)
  | request idle unsent => exact .request idle unsent _ _
  | receive head receives => exact .started (.joined (joined.receive head receives))

/-- An end without sockets of the connection only closes, starts it or answers. -/
theorem End.Idle.acts (idle : own.Idle) (acts : own.Acts peer after peerAfter) :
    (after = { own with closed := True } ∧ peerAfter = peer) ∨
    (Phase after peerAfter) ∨
    ∃ header rest, peer.sent = header :: rest ∧ own.Receives header after ∧
      peerAfter = { peer with sent := rest } := by
  cases acts with
  | cleanup isMarked => exact absurd isMarked (idle.unmarked _)
  | data isOpen => exact absurd isOpen (idle.absent _ _)
  | mark isOpen => exact absurd isOpen (idle.absent _ _)
  | close => exact .inl ⟨rfl, rfl⟩
  | request idle unsent => exact .inr (.inl (.request idle unsent _ _))
  | receive head receives => exact .inr (.inr ⟨_, _, head, receives, rfl⟩)

/-- An end that waits only closes or receives. -/
theorem End.Waiting.acts {id : Id} (waiting : own.Waiting id)
    (acts : own.Acts peer after peerAfter) :
    (after = { own with closed := True } ∧ peerAfter = peer) ∨
    ∃ header rest, peer.sent = header :: rest ∧ own.Receives header after ∧
      peerAfter = { peer with sent := rest } := by
  have notOpen : ∀ other remoteId, ¬ own.held other (some remoteId) := by
    intro other remoteId isOpen
    have := ((waiting.held other _).mp isOpen).2
    contradiction
  cases acts with
  | cleanup isMarked => exact absurd isMarked (waiting.unmarked _)
  | data isOpen => exact absurd isOpen (notOpen _ _)
  | mark isOpen => exact absurd isOpen (notOpen _ _)
  | close => exact .inl ⟨rfl, rfl⟩
  | request idle =>
      exact absurd ((waiting.held id none).mpr ⟨rfl, rfl⟩) (idle.1.absent _ _)
  | receive head receives => exact .inr ⟨_, _, head, receives, rfl⟩

/-- Every step of an end keeps the connection in one of its phases. -/
theorem Phase.acts (phase : Phase own peer) (acts : own.Acts peer after peerAfter) :
    Phase after peerAfter := by
  cases phase with
  | unborn idle unsent =>
      rcases idle.1.acts acts with ⟨rfl, rfl⟩ | phase | ⟨header, rest, head, -⟩
      · exact .unborn ⟨⟨idle.1.absent, idle.1.unmarked⟩, idle.2⟩ unsent
      · exact phase
      · simp [unsent.2] at head
  | started stage =>
      cases stage with
      | requested waiting sent peerIdle peerSent =>
          rcases waiting.acts acts with ⟨rfl, rfl⟩ | ⟨header, rest, head, -⟩
          · exact .started (.requested ⟨waiting.held, waiting.unmarked⟩ sent peerIdle peerSent)
          · simp [peerSent] at head
      | @refused id reason waiting sent peerIdle peerSent =>
          rcases waiting.acts acts with ⟨rfl, rfl⟩ | ⟨header, rest, head, receives, rfl⟩
          · exact .started (.refused ⟨waiting.held, waiting.unmarked⟩ sent peerIdle peerSent)
          · obtain ⟨rfl, rfl⟩ := by simpa [peerSent] using head
            cases receives with
            | rejected =>
                have taken : End.Idle { peer with sent := [] } :=
                  ⟨peerIdle.absent, peerIdle.unmarked⟩
                exact .started (.joined (.of_idle ⟨waiting.drop, taken⟩ ⟨sent, rfl⟩ id id))
      | joined joined => exact joined.acts acts
  | answering stage =>
      cases stage with
      | @requested id identity waiting sent peerIdle peerSent =>
          rcases peerIdle.acts acts with ⟨rfl, rfl⟩ | phase | ⟨header, rest, head, receives, rfl⟩
          · exact .answering
              (.requested waiting sent ⟨peerIdle.absent, peerIdle.unmarked⟩ peerSent)
          · exact phase
          · obtain ⟨rfl, rfl⟩ := by simpa [sent] using head
            cases receives with
            | connectAccepted =>
                exact .started (.joined (.of_accept peerIdle peerSent
                  ⟨waiting.held, waiting.unmarked⟩ rfl))
            | @connectRefused _ _ reason =>
                have answered : (own.push (.reject id reason)).sent = [.reject id reason] := by
                  simp [End.push, peerSent]
                exact .answering (.refused ⟨waiting.held, waiting.unmarked⟩ rfl
                  ⟨peerIdle.absent, peerIdle.unmarked⟩ answered)
      | refused waiting sent peerIdle peerSent =>
          rcases peerIdle.acts acts with ⟨rfl, rfl⟩ | phase | ⟨header, rest, head, -⟩
          · exact .answering
              (.refused waiting sent ⟨peerIdle.absent, peerIdle.unmarked⟩ peerSent)
          · exact phase
          · simp [sent] at head
      | joined joined => exact joined.symm.acts acts

/-- Without frames in flight no end waits, and an open end has a partner. -/
theorem Phase.quiescent (phase : Phase own peer) (unsent : own.sent = [] ∧ peer.sent = []) :
    (∀ id, ¬ own.held id none) ∧
    ∀ id remoteId, own.held id (some remoteId) → ¬ own.closed →
      peer.held remoteId (some id) := by
  have ofJoined : ∀ {ownId peerId : Id}, Joined own peer ownId peerId →
      (∀ id, ¬ own.held id none) ∧
      ∀ id remoteId, own.held id (some remoteId) → ¬ own.closed →
        peer.held remoteId (some id) := by
    intro ownId peerId joined
    have noWait : ∀ {one other : End} {oneId otherId : Id}, Half one other oneId otherId →
        other.sent = [] → ∀ id, ¬ one.held id none := by
      intro one other oneId otherId half otherUnsent id isWaiting
      obtain rfl := (half.held id none isWaiting).1
      obtain ⟨-, -, rest, sentEq, -⟩ := half.waits isWaiting
      simp [otherUnsent] at sentEq
    refine ⟨noWait joined.near unsent.2, ?_⟩
    intro id remoteId isOpen notClosed
    obtain ⟨rfl, unknown | known⟩ := joined.near.held id _ isOpen
    · contradiction
    obtain rfl := Option.some.inj known
    have present : peer.Present := by
      apply joined.near.alive ⟨_, _, isOpen⟩ notClosed
      rintro ⟨reason, member⟩
      simp [unsent.2] at member
    obtain ⟨peerId, remote, isHeld⟩ := present
    obtain ⟨rfl, rfl | rfl⟩ := joined.far.held peerId remote isHeld
    · exact absurd isHeld (noWait joined.far unsent.1 _)
    · exact isHeld
  cases phase with
  | unborn idle =>
      exact ⟨fun id => idle.1.absent id none, fun id _ isOpen => absurd isOpen (idle.1.absent _ _)⟩
  | started stage =>
      cases stage with
      | requested waiting sent => simp [unsent.1] at sent
      | refused waiting sent peerIdle peerSent => simp [unsent.2] at peerSent
      | joined joined => exact ofJoined joined
  | answering stage =>
      cases stage with
      | requested waiting sent => simp [unsent.2] at sent
      | refused waiting sent peerIdle peerSent => simp [unsent.1] at peerSent
      | joined joined => exact ofJoined joined.symm

end Phases

end Calliope

end Mgnp
