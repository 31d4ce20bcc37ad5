import Mgnp.ConnectionProtocol
import Mgnp.MachineReset

/-!
# The two tables agree when nothing is left to do

As long as ids are not handed out while something refers to them, no frame and
no socket of one connection touches another.  So the network is a product of
independent connections: each step of the machines is a step of one end of one
connection, or of two when a socket is cleaned up first.  The phases of the
connections then say that two quiescent machines agree.
-/

namespace Mgnp

namespace Calliope

open ExceptRules LabelledRuns

def State.remote : State → Option Id
  | .opened remoteId => some remoteId
  | .connecting _ => none

@[simp] theorem State.remote_opened (remoteId : Id) :
    (State.opened remoteId).remote = some remoteId := rfl

@[simp] theorem State.remote_connecting (rsp : Nat) : (State.connecting rsp).remote = none :=
  rfl

/-- The header of a frame about this connection. -/
def Tagged.about (connection : Nat) (tagged : Tagged) : Option Header :=
  if tagged.connection = connection then some tagged.frame.header else none

/-- What a map of sockets holds for one connection. -/
def Sockets.endOf (view : Sockets) (connection : Nat) (sent : List Header) (closed : Prop) :
    End where
  held id remote := ∃ state, view.socket id = some ⟨state, connection⟩ ∧ state.remote = remote
  marked id := view.dead = some id ∧ ∃ state, view.socket id = some ⟨state, connection⟩
  sent := sent
  closed := closed

theorem Tagged.about_send_self (connection : Nat) (frame : Option OutboundFrame) :
    (Tagged.send connection frame).filterMap (Tagged.about connection) =
      frame.toList.map Frame.header := by
  cases frame <;> simp [send, about]

theorem Tagged.about_send_of_ne {connection other : Nat} (different : other ≠ connection)
    (frame : Option OutboundFrame) :
    (Tagged.send connection frame).filterMap (Tagged.about other) = [] := by
  cases frame <;> simp [send, about, different.symm]

def Network.endOf (net : Network) (side : Side) (connection : Nat) : End :=
  (net.sockets side).endOf connection ((net.sent side).filterMap (Tagged.about connection))
    (connection ∈ net.closed side)

section Views

variable {view : Sockets} {connection other : Nat} {sent : List Header} {closed : Prop}
  {id : Id}

theorem End.ext_iff_fields {left right : End}
    (held : ∀ id remote, left.held id remote ↔ right.held id remote)
    (marked : ∀ id, left.marked id ↔ right.marked id) (sent : left.sent = right.sent)
    (closed : left.closed ↔ right.closed) : left = right := by
  obtain ⟨leftHeld, leftMarked, leftSent, leftClosed⟩ := left
  obtain ⟨rightHeld, rightMarked, rightSent, rightClosed⟩ := right
  obtain rfl : leftHeld = rightHeld := by
    ext id remote
    exact held id remote
  obtain rfl : leftMarked = rightMarked := by
    ext id
    exact marked id
  obtain rfl : leftClosed = rightClosed := propext closed
  obtain rfl : leftSent = rightSent := sent
  rfl

theorem Sockets.endOf_erase (view : Sockets) (id : Id) (connection : Nat)
    (sent : List Header) (closed : Prop) :
    (view.erase id).endOf connection sent closed =
      (view.endOf connection sent closed).drop id := by
  apply End.ext_iff_fields
  · intro shown remote
    simp only [endOf, End.drop, socket_erase_eq_some_iff]
    tauto
  · intro shown
    simp only [endOf, End.drop, socket_erase_eq_some_iff, dead_erase]
    tauto
  · rfl
  · rfl

/-- Dropping an id under which the connection has no socket changes nothing. -/
theorem Sockets.drop_endOf_of_absent
    (absent : ∀ state, view.socket id ≠ some ⟨state, connection⟩) :
    (view.endOf connection sent closed).drop id = view.endOf connection sent closed := by
  apply End.ext_iff_fields
  · intro shown remote
    simp only [endOf, End.drop]
    constructor
    · exact fun kept => kept.2
    · rintro ⟨state, found, known⟩
      refine ⟨?_, state, found, known⟩
      rintro rfl
      exact absent state found
  · intro shown
    simp only [endOf, End.drop]
    constructor
    · exact fun kept => kept.2
    · rintro ⟨isDead, state, found⟩
      refine ⟨?_, isDead, state, found⟩
      rintro rfl
      exact absent state found
  · rfl
  · rfl

/-- Storing a socket of the connection where it had one, or under an id that is
not marked. -/
theorem Sockets.endOf_put {state : State}
    (unmarked : view.dead = some id → ∃ old, view.socket id = some ⟨old, connection⟩) :
    (view.put id ⟨state, connection⟩).endOf connection sent closed =
      (view.endOf connection sent closed).hold id state.remote := by
  apply End.ext_iff_fields
  · intro shown remote
    simp only [endOf, End.hold, socket_put_eq_some_iff]
    constructor
    · rintro ⟨found, ⟨rfl, same⟩ | ⟨different, old⟩, known⟩
      · obtain rfl := (Socket.mk.inj same).1
        exact .inl ⟨rfl, known.symm⟩
      · exact .inr ⟨different, found, old, known⟩
    · rintro (⟨rfl, rfl⟩ | ⟨different, found, old, known⟩)
      · exact ⟨state, .inl ⟨rfl, rfl⟩, rfl⟩
      · exact ⟨found, .inr ⟨different, old⟩, known⟩
  · intro shown
    simp only [endOf, End.hold, socket_put_eq_some_iff, dead_put]
    constructor
    · rintro ⟨isDead, found, ⟨rfl, -⟩ | ⟨-, old⟩⟩
      · exact ⟨isDead, unmarked isDead⟩
      · exact ⟨isDead, found, old⟩
    · rintro ⟨isDead, found, old⟩
      refine ⟨isDead, ?_⟩
      by_cases same : shown = id
      · exact ⟨state, .inl ⟨same, rfl⟩⟩
      · exact ⟨found, .inr ⟨same, old⟩⟩
  · rfl
  · rfl

/-- Storing a socket of another connection where this one has none. -/
theorem Sockets.endOf_put_of_ne {state : State} (different : other ≠ connection)
    (absent : ∀ state, view.socket id ≠ some ⟨state, other⟩) :
    (view.put id ⟨state, connection⟩).endOf other sent closed =
      view.endOf other sent closed := by
  have found_iff : ∀ shown found,
      (view.put id ⟨state, connection⟩).socket shown = some ⟨found, other⟩ ↔
        view.socket shown = some ⟨found, other⟩ := by
    intro shown found
    rw [socket_put_eq_some_iff]
    constructor
    · rintro (⟨rfl, same⟩ | ⟨-, old⟩)
      · exact absurd (Socket.mk.inj same).2.symm different
      · exact old
    · intro old
      refine .inr ⟨?_, old⟩
      rintro rfl
      exact absent found old
  apply End.ext_iff_fields
  · intro shown remote
    simp only [endOf, found_iff]
  · intro shown
    simp only [endOf, found_iff, dead_put]
  · rfl
  · rfl

theorem Sockets.endOf_cleaned (connection : Nat) (sent : List Header) (closed : Prop)
    (marked : view.dead = some id) :
    view.cleaned.endOf connection sent closed =
      (view.endOf connection sent closed).drop id := by
  rw [← endOf_erase]
  apply End.ext_iff_fields
  · intro shown remote
    simp [endOf, cleaned, marked]
  · intro shown
    simp only [endOf, dead_cleaned, dead_erase, marked, socket_erase_eq_some_iff]
    simp only [reduceCtorEq, false_and, Option.some.injEq, false_iff]
    rintro ⟨rfl, state, different, -⟩
    exact different rfl
  · rfl
  · rfl

end Views

section Steps

variable {view next : Sockets} {connection other : Nat} {sent : List Header}
  {closed : List Nat} {granted : Option Id} {locals : Locals} {header : Header}
  {frame : Option OutboundFrame} {account : Option Nat} {events : List Event}

/-- Every socket of the map that the frame reaches is of this connection, and a
connecting socket has the response sender of its connection. -/
structure Sockets.OwnFrame (view : Sockets) (connection : Nat) (header : Header) : Prop where
  own : ∀ id ∈ header.linkId.remoteId, ∀ state channel,
    view.socket id = some ⟨state, channel⟩ → channel = connection
  rsp_eq : ∀ id rsp channel, view.socket id = some ⟨.connecting rsp, channel⟩ → rsp = channel

/-- A frame acts on its own connection as in the protocol of one connection. -/
theorem Sockets.Receives.end_own (sent : List Header)
    (ownFrame : view.OwnFrame connection header)
    (spared : ∀ id ∈ granted, view.dead ≠ some id)
    (receives : view.Receives (locals.within closed) granted connection header next
      frame account events) :
    (view.endOf connection sent (connection ∈ closed)).Receives header
      (next.endOf connection (sent ++ frame.toList.map Frame.header)
        (connection ∈ closed)) := by
  have openedBy : ∀ {id localId bound}, view.socket id = some ⟨.opened localId, bound⟩ →
      bound = connection → ∀ sent closed, (view.endOf connection sent closed).held id
        (some localId) := by
    rintro id localId bound isOpen rfl sent closed
    exact ⟨_, isOpen, rfl⟩
  cases receives with
  | @dataStray localId remoteId notOpen =>
      refine .dataStray ?_
      rintro ⟨state, found, known⟩
      cases state with
      | connecting rsp => simp at known
      | opened peerId =>
          obtain rfl : peerId = localId := by simpa using known
          exact notOpen _ found
  | dataDelivered isOpen =>
      simpa using End.Receives.dataDelivered
  | @dataFailed localId remoteId bound reason isOpen =>
      rw [Sockets.endOf_erase]
      exact .dataFailed
  | @ackStray localId remoteId reason notConnecting =>
      refine .ackStray ?_
      rintro ⟨state, found, known⟩
      cases state with
      | connecting rsp => exact notConnecting _ _ found
      | opened peerId => simp at known
  | @ackOpened localId remoteId rsp bound isConnecting =>
      obtain rfl := ownFrame.own remoteId rfl _ _ isConnecting
      have isHeld : (view.endOf bound sent (bound ∈ closed)).held remoteId none :=
        ⟨_, isConnecting, rfl⟩
      rw [Sockets.endOf_put fun _ => ⟨_, isConnecting⟩]
      simpa using End.Receives.ackOpened isHeld
  | @ackAbandoned localId remoteId rsp bound isConnecting gone =>
      obtain rfl := ownFrame.own remoteId rfl _ _ isConnecting
      obtain rfl := ownFrame.rsp_eq _ _ _ isConnecting
      rw [Sockets.endOf_put fun _ => ⟨_, isConnecting⟩]
      exact .ackAbandoned ⟨_, isConnecting, rfl⟩ (Locals.mem_closed_of_initiatorAlive gone)
  | rejected =>
      rw [Sockets.endOf_erase]
      simpa using End.Receives.rejected
  | reset =>
      rw [Sockets.endOf_erase]
      simpa using End.Receives.reset
  | @connectAccepted localId id identity isGranted free =>
      rw [Sockets.endOf_put fun marked => absurd marked (spared id isGranted)]
      exact .connectAccepted
  | connectRefused => exact .connectRefused

/-- A frame of another connection does nothing to this one. -/
theorem Sockets.Receives.end_other (ownFrame : view.OwnFrame connection header)
    (different : other ≠ connection)
    (receives : view.Receives locals granted connection header next frame account events)
    (isClosed : Prop) :
    next.endOf other sent isClosed = view.endOf other sent isClosed := by
  have erased : ∀ id ∈ header.linkId.remoteId,
      (view.erase id).endOf other sent isClosed = view.endOf other sent isClosed := by
    intro id named
    rw [Sockets.endOf_erase]
    apply Sockets.drop_endOf_of_absent
    intro state found
    exact different (ownFrame.own id named state other found)
  cases receives with
  | dataStray | dataDelivered | ackStray | connectRefused => rfl
  | dataFailed isOpen => exact erased _ rfl
  | rejected => exact erased _ rfl
  | reset => exact erased _ rfl
  | ackOpened isConnecting =>
      obtain rfl := ownFrame.own _ rfl _ _ isConnecting
      apply Sockets.endOf_put_of_ne different
      intro state found
      exact different (ownFrame.own _ rfl state other found)
  | ackAbandoned isConnecting =>
      obtain rfl := ownFrame.own _ rfl _ _ isConnecting
      apply Sockets.endOf_put_of_ne different
      intro state found
      exact different (ownFrame.own _ rfl state other found)
  | connectAccepted isGranted free =>
      apply Sockets.endOf_put_of_ne different
      simp [free]

/-- Polling does nothing to the end of a connection, or is a step of it. -/
theorem Sockets.Sends.end_cases (peer : End) (alive : view.dead = none)
    (sends : view.Sends (locals.within closed) next frame account events) (shown : Nat) :
    next.endOf shown
        (sent ++ (Tagged.send (account.getD 0) frame).filterMap (Tagged.about shown))
        (shown ∈ closed) = view.endOf shown sent (shown ∈ closed) ∨
    ¬ (view.endOf shown sent (shown ∈ closed)).Idle ∧
      (view.endOf shown sent (shown ∈ closed)).Acts peer
        (next.endOf shown
          (sent ++ (Tagged.send (account.getD 0) frame).filterMap (Tagged.about shown))
          (shown ∈ closed)) peer := by
  cases sends with
  | idle =>
      left
      simp [Tagged.send]
  | @data id remoteId channel bytes isOpen =>
      by_cases same : shown = channel
      · subst same
        right
        rw [Option.getD_some, Tagged.about_send_self]
        have isHeld : (view.endOf shown sent (shown ∈ closed)).held id (some remoteId) :=
          ⟨_, isOpen, rfl⟩
        exact ⟨fun idle => idle.absent _ _ isHeld, .data isHeld⟩
      · left
        rw [Option.getD_some, Tagged.about_send_of_ne same, List.append_nil]
  | @closed id remoteId channel error reason isOpen streamClosed =>
      by_cases same : shown = channel
      · subst same
        right
        rw [Option.getD_some, Tagged.about_send_self]
        have isHeld : (view.endOf shown sent (shown ∈ closed)).held id (some remoteId) :=
          ⟨_, isOpen, rfl⟩
        have isMarked : Sockets.endOf { view with dead := some id } shown
            (sent ++ [.reset remoteId reason]) (shown ∈ closed) =
            { (view.endOf shown sent (shown ∈ closed)).push (.reset remoteId reason) with
              marked := (· = id) } := by
          apply End.ext_iff_fields
          · exact fun _ _ => Iff.rfl
          · intro other
            constructor
            · exact fun marked => (Option.some.inj marked.1).symm
            · rintro rfl
              exact ⟨rfl, _, isOpen⟩
          · rfl
          · rfl
        refine ⟨fun idle => idle.absent _ _ isHeld, ?_⟩
        change End.Acts _ peer (Sockets.endOf _ shown (sent ++ [.reset remoteId reason]) _) peer
        rw [isMarked]
        exact .mark isHeld (Locals.mem_closed_of_pollRecv streamClosed)
      · left
        rw [Option.getD_some, Tagged.about_send_of_ne same, List.append_nil]
        apply End.ext_iff_fields
        · exact fun _ _ => Iff.rfl
        · intro other
          constructor
          · rintro ⟨marked, state, found⟩
            obtain rfl := Option.some.inj marked
            change view.socket id = _ at found
            rw [isOpen] at found
            exact absurd (Socket.mk.inj (Option.some.inj found)).2.symm same
          · intro marked
            rw [Sockets.endOf, alive] at marked
            exact absurd marked.1 (by simp)
        · rfl
        · rfl

/-- Cleaning up does nothing to the end of a connection, or is a step of it. -/
theorem Sockets.cleaned_end_cases (view : Sockets) (peer : End) (shown : Nat)
    (sent : List Header) (isClosed : Prop) :
    view.cleaned.endOf shown sent isClosed = view.endOf shown sent isClosed ∨
    ¬ (view.endOf shown sent isClosed).Idle ∧
      (view.endOf shown sent isClosed).Acts peer
        (view.cleaned.endOf shown sent isClosed) peer := by
  cases marked : view.dead with
  | none =>
      left
      rw [cleaned_of_none marked]
  | some id =>
      rw [endOf_cleaned shown sent isClosed marked]
      by_cases owned : ∃ state, view.socket id = some ⟨state, shown⟩
      · right
        have isMarked : (view.endOf shown sent isClosed).marked id := ⟨marked, owned⟩
        exact ⟨fun idle => idle.unmarked id isMarked, .cleanup isMarked⟩
      · left
        exact drop_endOf_of_absent (not_exists.mp owned)

/-- A connect request is a step of its own connection only. -/
theorem Sockets.Starts.end_cases (peer : End) (sent : List Header) (isClosed : Prop)
    (alive : view.dead = none) {identity : Identity} {hello : List UInt8}
    (starts : view.Starts granted ⟨identity, hello, connection, connection⟩ next
      frame account events) (shown : Nat)
    (unborn : shown = connection →
      ((view.endOf shown sent isClosed).Idle ∧ peer.Idle) ∧ sent = [] ∧ peer.sent = []) :
    next.endOf shown
        (sent ++ (Tagged.send connection frame).filterMap (Tagged.about shown))
        isClosed = view.endOf shown sent isClosed ∨
    shown = connection ∧ (view.endOf shown sent isClosed).Acts peer
      (next.endOf shown
        (sent ++ (Tagged.send connection frame).filterMap (Tagged.about shown))
        isClosed) peer := by
  cases starts with
  | full isFull =>
      left
      simp [Tagged.send]
  | @started id isReserved free =>
      by_cases same : shown = connection
      · subst same
        obtain ⟨idle, unsent⟩ := unborn rfl
        right
        rw [Tagged.about_send_self, Sockets.endOf_put fun marked => by simp [alive] at marked]
        exact ⟨rfl, .request idle unsent⟩
      · left
        rw [Tagged.about_send_of_ne same, List.append_nil]
        apply Sockets.endOf_put_of_ne same
        simp [free]

/-- Receiving creates no connecting socket. -/
theorem Sockets.Receives.connecting_old {id : Id} {rsp channel : Nat}
    (receives : view.Receives locals granted connection header next frame account events)
    (isConnecting : next.socket id = some ⟨.connecting rsp, channel⟩) :
    view.socket id = some ⟨.connecting rsp, channel⟩ := by
  cases receives with
  | dataStray | dataDelivered | ackStray | connectRefused => exact isConnecting
  | dataFailed | rejected | reset =>
      exact (Sockets.socket_erase_eq_some_iff.mp isConnecting).2
  | ackOpened | ackAbandoned | connectAccepted =>
      rcases Sockets.socket_put_eq_some_iff.mp isConnecting with ⟨-, same⟩ | ⟨-, old⟩
      · simp at same
      · exact old

end Steps

section Networks

variable {net after : Network} {side : Side} {next : Sockets} {sends rest : List Tagged}
  {tagged : Tagged} {granted : Option Id} {locals : Locals}
  {frame : Option OutboundFrame} {account : Option Nat} {events : List Event}

theorem Network.endOf_perform_self (net : Network) (side : Side) (next : Sockets)
    (sends : List Tagged) (connection : Nat) :
    (net.perform side next sends).endOf side connection =
      next.endOf connection
        ((net.sent side).filterMap (Tagged.about connection) ++
          sends.filterMap (Tagged.about connection))
        (connection ∈ net.closed side) := by
  simp [endOf]

theorem Network.endOf_perform_other (net : Network) (side : Side) (next : Sockets)
    (sends : List Tagged) (connection : Nat) :
    (net.perform side next sends).endOf side.other connection =
      net.endOf side.other connection := by
  simp [endOf]

theorem Network.endOf_takeFrame_other (net : Network) (side : Side) (rest : List Tagged)
    (connection : Nat) :
    (net.takeFrame side rest).endOf side.other connection =
      { net.endOf side.other connection with
        sent := rest.filterMap (Tagged.about connection) } := by
  simp [endOf, Sockets.endOf]

/-- The network is a product of connections in one of their phases each, and those
with numbers not used yet have not begun. -/
structure Network.Independent (net : Network) : Prop where
  unambiguous : net.Unambiguous
  rsp_eq : ∀ side id rsp channel,
    (net.sockets side).socket id = some ⟨.connecting rsp, channel⟩ → rsp = channel
  phase : ∀ side connection,
    Phase (net.endOf side connection) (net.endOf side.other connection)
  unborn : ∀ side connection, net.fresh ≤ connection →
    (net.endOf side connection).Idle ∧ (net.endOf side connection).sent = []

/-- It is enough to look at the phases from the acting side. -/
theorem Network.phase_of_side (side : Side)
    (phase : ∀ connection, Phase (net.endOf side connection) (net.endOf side.other connection)) :
    ∀ other connection,
      Phase (net.endOf other connection) (net.endOf other.other connection) := by
  intro other connection
  rcases other.eq_or_eq_other side with rfl | rfl
  · exact phase connection
  · rw [Side.other_other]
    exact (phase connection).symm

/-- Networks with the same ends in all unused connections have the same ones unborn. -/
theorem Network.unborn_of_side (side : Side)
    (unborn : ∀ other connection, net.fresh ≤ connection →
      (net.endOf other connection).Idle ∧ (net.endOf other connection).sent = [])
    (grown : net.fresh ≤ after.fresh)
    (same : ∀ connection, after.fresh ≤ connection →
      after.endOf side connection = net.endOf side connection ∧
      after.endOf side.other connection = net.endOf side.other connection) :
    ∀ other connection, after.fresh ≤ connection →
      (after.endOf other connection).Idle ∧ (after.endOf other connection).sent = [] := by
  intro other connection unused
  obtain ⟨sameOwn, samePeer⟩ := same connection unused
  have before := unborn other connection (Nat.le_trans grown unused)
  rcases other.eq_or_eq_other side with rfl | rfl
  · rwa [sameOwn]
  · rwa [samePeer]

theorem Network.Independent.receive (independent : net.Independent)
    (head : net.sent side.other = tagged :: rest) (unmentioned : net.Unmentioned side granted)
    (spared : ∀ id ∈ granted, (net.sockets side).dead ≠ some id)
    (receives : (net.sockets side).Receives (locals.within (net.closed side)) granted
      tagged.connection tagged.frame.header next frame account events) :
    ((net.takeFrame side rest).perform side next
      (Tagged.send tagged.connection frame)).Independent := by
  have ownFrame : (net.sockets side).OwnFrame tagged.connection tagged.frame.header :=
    ⟨fun id named state channel found => independent.unambiguous.head_connection head named found,
      independent.rsp_eq side⟩
  have others : ∀ connection, connection ≠ tagged.connection →
      ((net.takeFrame side rest).perform side next
        (Tagged.send tagged.connection frame)).endOf side connection =
          net.endOf side connection ∧
      ((net.takeFrame side rest).perform side next
        (Tagged.send tagged.connection frame)).endOf side.other connection =
          net.endOf side.other connection := by
    intro connection different
    constructor
    · rw [Network.endOf_perform_self, Tagged.about_send_of_ne different, List.append_nil,
        Network.sent_takeFrame_self]
      exact receives.end_other ownFrame different _
    · rw [Network.endOf_perform_other, Network.endOf_takeFrame_other]
      have notAbout : Tagged.about connection tagged = none := by
        simp [Tagged.about, different.symm]
      simp [Network.endOf, Sockets.endOf, head, notAbout]
  have headAbout : (net.endOf side.other tagged.connection).sent =
      tagged.frame.header :: rest.filterMap (Tagged.about tagged.connection) := by
    simp [Network.endOf, Sockets.endOf, head, Tagged.about]
  constructor
  · exact independent.unambiguous.receive head unmentioned receives
  · intro other id rsp channel isConnecting
    rcases other.eq_or_eq_other side with rfl | rfl
    · rw [Network.sockets_perform_self] at isConnecting
      exact independent.rsp_eq other id rsp channel (receives.connecting_old isConnecting)
    · exact independent.rsp_eq side.other id rsp channel (by simpa using isConnecting)
  · apply Network.phase_of_side side
    intro connection
    have before := independent.phase side connection
    by_cases same : connection = tagged.connection
    · subst same
      have acted := receives.end_own
        ((net.sent side).filterMap (Tagged.about tagged.connection)) ownFrame spared
      rw [Network.endOf_perform_self, Tagged.about_send_self, Network.endOf_perform_other,
        Network.endOf_takeFrame_other, Network.sent_takeFrame_self]
      exact before.acts (.receive headAbout acted)
    · obtain ⟨sameOwn, samePeer⟩ := others connection same
      rwa [sameOwn, samePeer]
  · refine Network.unborn_of_side side independent.unborn (Nat.le_refl _) ?_
    intro connection unused
    apply others
    rintro rfl
    have unsent := (independent.unborn side.other _ unused).2
    rw [headAbout] at unsent
    contradiction

/-- A step of one table that does nothing to the connections or is a step of their
ends. -/
theorem Network.Independent.perform (independent : net.Independent)
    (unambiguous : (net.perform side next sends).Unambiguous)
    (rspEq : ∀ id rsp channel, next.socket id = some ⟨.connecting rsp, channel⟩ → rsp = channel)
    (ends : ∀ connection,
      (net.perform side next sends).endOf side connection = net.endOf side connection ∨
      ¬ (net.endOf side connection).Idle ∧
        (net.endOf side connection).Acts (net.endOf side.other connection)
          ((net.perform side next sends).endOf side connection)
          (net.endOf side.other connection)) :
    (net.perform side next sends).Independent := by
  constructor
  · exact unambiguous
  · intro other id rsp channel isConnecting
    rcases other.eq_or_eq_other side with rfl | rfl
    · exact rspEq id rsp channel (by simpa using isConnecting)
    · exact independent.rsp_eq side.other id rsp channel (by simpa using isConnecting)
  · apply Network.phase_of_side side
    intro connection
    have before := independent.phase side connection
    rw [Network.endOf_perform_other]
    rcases ends connection with same | ⟨-, acts⟩
    · rwa [same]
    · exact before.acts acts
  · refine Network.unborn_of_side side independent.unborn (Nat.le_refl _) ?_
    intro connection unused
    refine ⟨?_, Network.endOf_perform_other ..⟩
    rcases ends connection with same | ⟨notIdle, -⟩
    · exact same
    · exact absurd (independent.unborn side connection unused).1 notIdle

theorem Network.Independent.clean (independent : net.Independent) (side : Side) :
    (net.clean side).Independent := by
  have unambiguous := independent.unambiguous.clean side
  rw [Network.clean_eq_perform] at unambiguous ⊢
  apply independent.perform unambiguous
  · intro id rsp channel isConnecting
    exact independent.rsp_eq side id rsp channel
      (Sockets.socket_cleaned_eq_some_iff.mp isConnecting).2
  · intro connection
    rw [Network.endOf_perform_self, List.filterMap_nil, List.append_nil]
    exact Sockets.cleaned_end_cases _ _ _ _ _

theorem Network.Independent.poll (independent : net.Independent)
    (alive : (net.sockets side).dead = none)
    (sends : (net.sockets side).Sends (locals.within (net.closed side)) next
      frame account events) :
    (net.perform side next (Tagged.send (account.getD 0) frame)).Independent := by
  apply independent.perform (independent.unambiguous.poll sends)
  · intro id rsp channel isConnecting
    apply independent.rsp_eq side id rsp channel
    cases sends <;> exact isConnecting
  · intro connection
    rw [Network.endOf_perform_self]
    exact sends.end_cases _ alive connection

theorem Network.Independent.connect (independent : net.Independent)
    (alive : (net.sockets side).dead = none) (unmentioned : net.Unmentioned side granted)
    {identity : Identity} {hello : List UInt8}
    (starts : (net.sockets side).Starts granted ⟨identity, hello, net.fresh, net.fresh⟩ next
      frame account events) :
    Network.Independent { net.perform side next (Tagged.send net.fresh frame) with
      fresh := net.fresh + 1 } := by
  have ends : ∀ connection,
      (net.perform side next (Tagged.send net.fresh frame)).endOf side connection =
        net.endOf side connection ∨
      connection = net.fresh ∧
        (net.endOf side connection).Acts (net.endOf side.other connection)
          ((net.perform side next (Tagged.send net.fresh frame)).endOf side connection)
          (net.endOf side.other connection) := by
    intro connection
    rw [Network.endOf_perform_self]
    apply starts.end_cases (net.endOf side.other connection) _ _ alive
    rintro rfl
    have own := independent.unborn side net.fresh (Nat.le_refl _)
    have peer := independent.unborn side.other net.fresh (Nat.le_refl _)
    exact ⟨⟨own.1, peer.1⟩, own.2, peer.2⟩
  constructor
  · exact independent.unambiguous.connect unmentioned starts
  · intro other id rsp channel isConnecting
    rcases other.eq_or_eq_other side with rfl | rfl
    · have found : next.socket id = some ⟨.connecting rsp, channel⟩ := by
        simpa using isConnecting
      cases starts with
      | full => exact independent.rsp_eq other id rsp channel found
      | started isReserved free =>
          rcases Sockets.socket_put_eq_some_iff.mp found with ⟨-, same⟩ | ⟨-, old⟩
          · obtain ⟨rfl, rfl⟩ := by simpa using same
            rfl
          · exact independent.rsp_eq other id rsp channel old
    · exact independent.rsp_eq side.other id rsp channel (by simpa using isConnecting)
  · apply Network.phase_of_side side
    intro connection
    have before := independent.phase side connection
    change Phase ((net.perform side next (Tagged.send net.fresh frame)).endOf side connection)
      ((net.perform side next (Tagged.send net.fresh frame)).endOf side.other connection)
    rw [Network.endOf_perform_other]
    rcases ends connection with same | ⟨-, acts⟩
    · rwa [same]
    · exact before.acts acts
  · refine Network.unborn_of_side side independent.unborn (Nat.le_succ _) ?_
    intro connection unused
    refine ⟨?_, Network.endOf_perform_other ..⟩
    rcases ends connection with same | ⟨rfl, -⟩
    · exact same
    · exact absurd unused (Nat.not_succ_le_self _)

theorem Network.Independent.closeStream (independent : net.Independent) (side : Side)
    (connection : Nat) : (net.closeStream side connection).Independent := by
  have own : ∀ shown, (net.closeStream side connection).endOf side shown =
      if shown = connection then { net.endOf side shown with closed := True }
      else net.endOf side shown := by
    intro shown
    split
    · rename_i same
      simp [Network.endOf, Network.closeStream, Sockets.endOf, same]
    · rename_i different
      simp [Network.endOf, Network.closeStream, different]
  have peer : ∀ shown, (net.closeStream side connection).endOf side.other shown =
      net.endOf side.other shown := by
    simp [Network.endOf, Network.closeStream]
  constructor
  · exact independent.unambiguous
  · exact independent.rsp_eq
  · apply Network.phase_of_side side
    intro shown
    have before := independent.phase side shown
    rw [own, peer]
    split
    · exact before.acts .close
    · exact before
  · intro other shown unused
    have before := independent.unborn other shown unused
    rcases other.eq_or_eq_other side with rfl | rfl
    · rw [own]
      split
      · exact ⟨⟨before.1.absent, before.1.unmarked⟩, before.2⟩
      · exact before
    · rwa [peer]

/-- Every step that hands out only ids that nothing refers to keeps the connections
independent. -/
theorem Network.Independent.step {move : Move} {occurred : List Occurrence}
    (independent : net.Independent) (unmentioned : net.Unmentioned side granted)
    (spared : ∀ locals, move = .receive locals →
      ∀ id ∈ granted, (net.sockets side).dead ≠ some id)
    (moves : net.Step side granted move after occurred) : after.Independent := by
  cases moves with
  | @receive locals tagged rest next frame account events head receives =>
      exact independent.receive head unmentioned (spared locals rfl) receives
  | poll sends =>
      have cleaned := independent.clean side
      exact cleaned.poll (by simp) (by simpa using sends)
  | connect starts =>
      have cleaned := independent.clean side
      have stillUnmentioned : (net.clean side).Unmentioned side granted := by
        intro id isGranted about
        simpa [Network.Mentions] using unmentioned id isGranted about
      have connected := cleaned.connect (by simp) stillUnmentioned
        (by simpa using starts)
      exact connected
  | close connection => exact independent.closeStream side connection

theorem Network.Independent.initial : Network.empty.Independent := by
  constructor
  · intro side id first second refers
    simp [Network.Refers, Network.Mentions, Network.empty, Sockets.empty] at refers
  · simp [Network.empty, Sockets.empty]
  · intro side connection
    apply Phase.unborn
    · constructor <;> constructor <;>
        simp [Network.endOf, Sockets.endOf, Network.empty, Sockets.empty]
    · simp [Network.endOf, Sockets.endOf, Network.empty]
  · intro side connection unused
    constructor
    · constructor <;> simp [Network.endOf, Sockets.endOf, Network.empty, Sockets.empty]
    · simp [Network.endOf, Sockets.endOf, Network.empty]

end Networks

section Runs

variable {capacity : Side → Nat} {build : Build}

/-- The step hands out no id that a frame in flight, an open socket of the peer or
the dead index still refers to. -/
def World.grantsUnreferenced (world : World capacity) (action : WorldAction) : Prop :=
  world.grantsUnmentioned action ∧
    match action.move with
    | .receive _ =>
        ∀ id ∈ world.grants action, (world.machine action.side).table.deadIndex ≠ some id
    | .poll _ | .connect _ _ _ | .close _ => True

instance (world : World capacity) (action : WorldAction) :
    Decidable (world.grantsUnreferenced action) := by
  unfold World.grantsUnreferenced
  exact match action.move with
    | .receive _ => inferInstanceAs (Decidable (_ ∧ ∀ id ∈ world.grants action, _))
    | .poll _ | .connect _ _ _ | .close _ => inferInstanceAs (Decidable (_ ∧ True))

/-- Both wires are empty, no closed socket is left to clean up, and no open socket's
local stream is closed. -/
structure World.Quiescent (world : World capacity) : Prop where
  unsent : ∀ side, (world.machine side).sent = []
  alive : ∀ side, (world.machine side).table.deadIndex = none
  streams : ∀ side id remoteId channel,
    (world.machine side).table.entry id = some (.occupied ⟨.opened remoteId, channel⟩) →
    channel ∉ (world.machine side).closed

/-- No entry is connecting, and the open entries of the two sides are each other's. -/
structure World.Agree (world : World capacity) : Prop where
  settled : ∀ side id rsp channel,
    (world.machine side).table.entry id ≠ some (.occupied ⟨.connecting rsp, channel⟩)
  paired : ∀ leftId rightId,
    (∃ channel, (world.machine .left).table.entry leftId =
      some (.occupied ⟨.opened rightId, channel⟩)) ↔
    ∃ channel, (world.machine .right).table.entry rightId =
      some (.occupied ⟨.opened leftId, channel⟩)

/-- The part of quiescence that one machine decides. -/
def Machine.Settled {capacity : Nat} (machine : Machine capacity) : Prop :=
  machine.sent = [] ∧ machine.table.deadIndex = none ∧
    ∀ entry ∈ machine.table.conns.toList, ∀ socket ∈ entry.socket,
      socket.channel ∉ machine.closed

instance {capacity : Nat} (machine : Machine capacity) : Decidable machine.Settled := by
  unfold Machine.Settled
  infer_instance

theorem World.quiescent_of_settled {world : World capacity}
    (left : (world.machine .left).Settled) (right : (world.machine .right).Settled) :
    world.Quiescent := by
  have settled : ∀ side, (world.machine side).Settled := by
    intro side
    cases side with
    | left => exact left
    | right => exact right
  constructor
  · exact fun side => (settled side).1
  · exact fun side => (settled side).2.1
  · intro side id remoteId channel isOpen
    have member : Entry.occupied ⟨.opened remoteId, channel⟩ ∈
        (world.machine side).table.conns.toList := by
      unfold ConnTable.entry at isOpen
      exact List.mem_of_getElem? (by simpa using isOpen)
    exact (settled side).2.2 _ member _ rfl

theorem World.independent_run {history : List Occurrence} {final : World capacity}
    (run : Run (World.step build) World.grantsUnreferenced (World.new capacity)
      history final) :
    ∃ net, final.Shows net ∧ net.Independent := by
  apply run.stateInvariant fun world => ∃ net, world.Shows net ∧ net.Independent
  · exact ⟨.empty, .new capacity, .initial⟩
  · rintro occurred world next action ⟨net, agrees, independent⟩ admitted stepTo
    obtain ⟨after, shown, moves⟩ := agrees.step stepTo
    refine ⟨after, shown, independent.step (agrees.unmentioned admitted.1) ?_ moves⟩
    intro locals isReceive id isGranted
    have spared := admitted.2
    rw [isReceive] at spared
    rw [← (agrees.tables action.side).dead_eq]
    exact spared id isGranted

theorem World.Shows.entry_iff {world : World capacity} {net : Network}
    (agrees : world.Shows net) (side : Side) (id : Id) (socket : Socket) :
    (world.machine side).table.entry id = some (.occupied socket) ↔
      (net.sockets side).socket id = some socket := by
  rw [← (agrees.tables side).socket_eq]
  cases (world.machine side).table.entry id with
  | none => simp
  | some entry => cases entry <;> simp

/-- In a quiescent network every open socket has its partner. -/
theorem Network.Independent.partner {net : Network} (independent : net.Independent)
    (unsent : ∀ side, net.sent side = []) {side : Side} {id remoteId : Id} {channel : Nat}
    (isOpen : (net.sockets side).socket id = some ⟨.opened remoteId, channel⟩)
    (streams : channel ∉ net.closed side) :
    (net.sockets side.other).socket remoteId = some ⟨.opened id, channel⟩ := by
  have noFrames : (net.endOf side channel).sent = [] ∧
      (net.endOf side.other channel).sent = [] := by
    simp [Network.endOf, Sockets.endOf, unsent]
  obtain ⟨-, paired⟩ := (independent.phase side channel).quiescent noFrames
  obtain ⟨state, found, known⟩ := paired id remoteId ⟨_, isOpen, rfl⟩ streams
  cases state with
  | connecting rsp => simp at known
  | opened peerId =>
      obtain rfl : peerId = id := by simpa using known
      exact found

/-- In every run in which ids are handed out only when nothing refers to them any
more, two quiescent machines agree. -/
theorem quiescent_machines_agree {history : List Occurrence} {final : World capacity}
    (run : Run (World.step build) World.grantsUnreferenced (World.new capacity)
      history final)
    (quiescent : final.Quiescent) : final.Agree := by
  obtain ⟨net, agrees, independent⟩ := World.independent_run run
  have unsent : ∀ side, net.sent side = [] := by
    intro side
    rw [← agrees.sent, quiescent.unsent]
  have partner : ∀ side id remoteId channel,
      (final.machine side).table.entry id = some (.occupied ⟨.opened remoteId, channel⟩) →
      (final.machine side.other).table.entry remoteId =
        some (.occupied ⟨.opened id, channel⟩) := by
    intro side id remoteId channel isOpen
    have streams := quiescent.streams side id remoteId channel isOpen
    rw [agrees.closed] at streams
    rw [agrees.entry_iff] at isOpen ⊢
    exact independent.partner unsent isOpen streams
  constructor
  · intro side id rsp channel isConnecting
    rw [agrees.entry_iff] at isConnecting
    have noFrames : (net.endOf side channel).sent = [] ∧
        (net.endOf side.other channel).sent = [] := by
      simp [Network.endOf, Sockets.endOf, unsent]
    exact ((independent.phase side channel).quiescent noFrames).1 id
      ⟨_, isConnecting, rfl⟩
  · intro leftId rightId
    constructor
    · rintro ⟨channel, isOpen⟩
      exact ⟨channel, partner .left leftId rightId channel isOpen⟩
    · rintro ⟨channel, isOpen⟩
      exact ⟨channel, partner .right rightId leftId channel isOpen⟩

/-- A connection is opened, and nothing is left to do. -/
theorem quiescent_machines_agree_opened :
    ∃ history final,
      Run (World.step .debug) World.grantsUnreferenced (World.new fun _ => 1) history final ∧
      final.Quiescent ∧ final.Agree := by
  obtain ⟨history, final, run, observed⟩ :=
    exists_run_of_exec (World.step .debug) World.grantsUnreferenced (World.new fun _ => 1)
      [⟨.left, .connect .quiet .sample []⟩, ⟨.right, .receive .quiet⟩, ⟨.left, .receive .quiet⟩]
      (fun reached => decide
        ((reached.1.machine .left).Settled ∧ (reached.1.machine .right).Settled))
      (show _ = some true by decide +kernel)
  obtain ⟨left, right⟩ := of_decide_eq_true observed
  have quiescent := World.quiescent_of_settled left right
  exact ⟨history, final, run, quiescent, quiescent_machines_agree run quiescent⟩

/-- A socket that is marked dead is removed for a DATA frame that its closed stream
does not take, and the peer's CONNECT gets the marked id.  The cleanup removes
the new socket without a RESET, and the peer's end of it stays open. -/
theorem quiescent_machines_disagree :
    ¬ ∀ history (final : World fun _ => 2),
      Run (World.step .debug) anyStep (World.new fun _ => 2) history final →
      final.Quiescent → final.Agree := by
  intro always
  obtain ⟨history, final, run, observed⟩ :=
    exists_run_of_exec (World.step .debug) anyStep (World.new fun _ => 2)
      [⟨.left, .connect .quiet .sample []⟩, ⟨.right, .receive .quiet⟩, ⟨.left, .receive .quiet⟩,
        ⟨.right, .poll .dataReady⟩, ⟨.right, .connect .quiet .sample []⟩,
        ⟨.left, .close 0⟩, ⟨.left, .poll .streamClosed⟩,
        ⟨.left, .receive .sendFails⟩, ⟨.left, .receive .quiet⟩, ⟨.left, .poll .quiet⟩,
        ⟨.right, .receive .quiet⟩, ⟨.right, .receive .quiet⟩, ⟨.right, .receive .quiet⟩]
      (fun reached => decide
        ((reached.1.machine .left).Settled ∧ (reached.1.machine .right).Settled ∧
          (reached.1.machine .right).table.entry ⟨2, by decide⟩ =
            some (.occupied ⟨.opened .first, 1⟩) ∧
          ((reached.1.machine .left).table.entry .first).bind Entry.socket = none))
      (show _ = some true by decide +kernel)
  obtain ⟨left, right, isOpen, removed⟩ := of_decide_eq_true observed
  have agree := always history final run (World.quiescent_of_settled left right)
  obtain ⟨channel, partner⟩ := (agree.paired .first ⟨2, by decide⟩).mpr ⟨1, isOpen⟩
  simp [partner] at removed

end Runs

end Calliope

end Mgnp
