import Mgnp.MachineNetwork

/-!
# Which connection a RESET is about

A RESET names its socket by the id alone.  An id of one machine is referred to
by the socket stored under it, by frames on both wires, and by an open socket of
the peer.  As long as an id is handed out only when nothing but its free entry
refers to it, all references to an id are to one connection, and a RESET removes
the socket of the connection it is about.
-/

namespace Mgnp

namespace Calliope

open ExceptRules LabelledRuns

namespace Network

/-- Something other than the own table entry refers to an id of `side`. -/
def Mentions (net : Network) (side : Side) (id : Id) (connection : Nat) : Prop :=
  (∃ tagged ∈ net.sent side, tagged.connection = connection ∧
    tagged.frame.header.linkId.localId = some id) ∨
  (∃ tagged ∈ net.sent side.other, tagged.connection = connection ∧
    tagged.frame.header.linkId.remoteId = some id) ∨
  ∃ own, (net.sockets side.other).socket own = some ⟨.opened id, connection⟩

def Refers (net : Network) (side : Side) (id : Id) (connection : Nat) : Prop :=
  (∃ state, (net.sockets side).socket id = some ⟨state, connection⟩) ∨
    net.Mentions side id connection

/-- All references to an id are to one connection. -/
def Unambiguous (net : Network) : Prop :=
  ∀ side id first second,
    net.Refers side id first → net.Refers side id second → first = second

end Network

section References

variable {net after : Network} {side : Side} {granted : Option Id} {locals : Locals}
  {tagged : Tagged} {rest sends : List Tagged} {next : Sockets}
  {frame : Option OutboundFrame} {account : Option Nat} {events : List Event}
  {id : Id} {connection : Nat}

theorem Network.Refers.of_takeFrame (head : net.sent side.other = tagged :: rest)
    {other : Side} (refers : (net.takeFrame side rest).Refers other id connection) :
    net.Refers other id connection := by
  have tail : ∀ kept ∈ rest, kept ∈ net.sent side.other := by
    intro kept member
    rw [head]
    exact List.mem_cons_of_mem _ member
  rcases other.eq_or_eq_other side with rfl | rfl
  · rcases refers with own | ⟨kept, member, about⟩ | ⟨kept, member, about⟩ | peer
    · exact .inl own
    · exact .inr (.inl ⟨kept, by simpa using member, about⟩)
    · exact .inr (.inr (.inl ⟨kept, tail kept (by simpa using member), about⟩))
    · exact .inr (.inr (.inr peer))
  · rcases refers with own | ⟨kept, member, about⟩ | ⟨kept, member, about⟩ | peer
    · exact .inl own
    · exact .inr (.inl ⟨kept, tail kept (by simpa using member), about⟩)
    · exact .inr (.inr (.inl ⟨kept, by simpa using member, about⟩))
    · exact .inr (.inr (.inr peer))

/-- What refers to an id after an operation did so before, is a socket of the new
map, or is a frame that was sent. -/
theorem Network.Refers.of_perform {target : Side → Id → Nat → Prop}
    (before : ∀ other id connection, net.Refers other id connection →
      target other id connection)
    (own : ∀ id state connection, next.socket id = some ⟨state, connection⟩ →
      target side id connection)
    (peer : ∀ own id connection, next.socket own = some ⟨.opened id, connection⟩ →
      target side.other id connection)
    (sentLocal : ∀ tagged ∈ sends, ∀ id, tagged.frame.header.linkId.localId = some id →
      target side id tagged.connection)
    (sentRemote : ∀ tagged ∈ sends, ∀ id, tagged.frame.header.linkId.remoteId = some id →
      target side.other id tagged.connection)
    {other : Side} (refers : (net.perform side next sends).Refers other id connection) :
    target other id connection := by
  rcases other.eq_or_eq_other side with rfl | rfl
  · rcases refers with ⟨state, found⟩ | ⟨kept, member, rfl, about⟩ |
      ⟨kept, member, rfl, about⟩ | ⟨peerId, found⟩
    · exact own id state connection (by simpa using found)
    · rw [sent_perform_self] at member
      rcases List.mem_append.mp member with old | new
      · exact before _ _ _ (.inr (.inl ⟨kept, old, rfl, about⟩))
      · exact sentLocal kept new id about
    · exact before _ _ _ (.inr (.inr (.inl ⟨kept, by simpa using member, rfl, about⟩)))
    · exact before _ _ _ (.inr (.inr (.inr ⟨peerId, by simpa using found⟩)))
  · rcases refers with ⟨state, found⟩ | ⟨kept, member, rfl, about⟩ |
      ⟨kept, member, rfl, about⟩ | ⟨peerId, found⟩
    · exact before _ _ _ (.inl ⟨state, by simpa using found⟩)
    · exact before _ _ _ (.inr (.inl ⟨kept, by simpa using member, rfl, about⟩))
    · rw [Side.other_other, sent_perform_self] at member
      rcases List.mem_append.mp member with old | new
      · exact before _ _ _ (.inr (.inr (.inl ⟨kept, by simpa using old, rfl, about⟩)))
      · exact sentRemote kept new id about
    · exact peer peerId id connection (by simpa using found)

/-- The id handed out is not referred to. -/
def Network.Unmentioned (net : Network) (side : Side) (granted : Option Id) : Prop :=
  ∀ id ∈ granted, ∀ connection, ¬ net.Mentions side id connection

theorem Network.Unmentioned.not_refers (unmentioned : net.Unmentioned side granted)
    (isGranted : granted = some id) (free : (net.sockets side).socket id = none)
    (connection : Nat) : ¬ net.Refers side id connection := by
  rintro (⟨state, found⟩ | mentions)
  · rw [free] at found
    contradiction
  · exact unmentioned id isGranted connection mentions

/-- A reference that was there, or one to the connection that gets the id. -/
def Network.RefersOrGranted (net : Network) (side : Side) (granted : Option Id)
    (connection : Nat) (other : Side) (id : Id) (about : Nat) : Prop :=
  net.Refers other id about ∨
    (granted = some id ∧ (net.sockets side).socket id = none ∧
      other = side ∧ about = connection)

/-- Handing out an id that nothing refers to keeps the references unambiguous. -/
theorem Network.Unambiguous.grant (unambiguous : net.Unambiguous)
    (unmentioned : net.Unmentioned side granted)
    (kept : ∀ other id about, after.Refers other id about →
      net.RefersOrGranted side granted connection other id about) :
    after.Unambiguous := by
  intro other id first second refersFirst refersSecond
  rcases kept _ _ _ refersFirst with oldFirst | ⟨isGranted, free, rfl, rfl⟩
  · rcases kept _ _ _ refersSecond with oldSecond | ⟨isGranted, free, rfl, -⟩
    · exact unambiguous other id first second oldFirst oldSecond
    · exact absurd oldFirst (unmentioned.not_refers isGranted free first)
  · rcases kept _ _ _ refersSecond with oldSecond | ⟨-, -, -, rfl⟩
    · exact absurd oldSecond (unmentioned.not_refers isGranted free second)
    · rfl

/-- The frame in front of the wire refers to the ids in its header. -/
theorem Network.refers_head_remote (head : net.sent side.other = tagged :: rest)
    (about : tagged.frame.header.linkId.remoteId = some id) :
    net.Refers side id tagged.connection :=
  .inr (.inr (.inl ⟨tagged, by simp [head], rfl, about⟩))

theorem Network.refers_head_local (head : net.sent side.other = tagged :: rest)
    (about : tagged.frame.header.linkId.localId = some id) :
    net.Refers side.other id tagged.connection :=
  .inr (.inl ⟨tagged, by simp [head], rfl, about⟩)

theorem Network.refers_own {state : State}
    (found : (net.sockets side).socket id = some ⟨state, connection⟩) :
    net.Refers side id connection :=
  .inl ⟨state, found⟩

theorem Network.refers_peer {remoteId : Id}
    (found : (net.sockets side).socket id = some ⟨.opened remoteId, connection⟩) :
    net.Refers side.other remoteId connection :=
  .inr (.inr (.inr ⟨id, by simpa using found⟩))

/-- A frame that reaches a socket is about the connection of the socket. -/
theorem Network.Unambiguous.head_connection (unambiguous : net.Unambiguous)
    (head : net.sent side.other = tagged :: rest)
    (about : tagged.frame.header.linkId.remoteId = some id) {socket : Socket}
    (found : (net.sockets side).socket id = some socket) :
    socket.channel = tagged.connection :=
  unambiguous side id _ _ (Network.refers_own found) (Network.refers_head_remote head about)

/-- What refers to the ids of a connecting socket that an ACK opens. -/
theorem Network.Unambiguous.refers_opened (unambiguous : net.Unambiguous) {localId rsp : _}
    {body : OutboundData} {bound : Nat}
    (head : net.sent side.other = ⟨connection, .ack localId id, body⟩ :: rest)
    (isConnecting : (net.sockets side).socket id = some ⟨.connecting rsp, bound⟩) :
    (∀ own state about,
      ((net.sockets side).put id ⟨.opened localId, bound⟩).socket own = some ⟨state, about⟩ →
      net.RefersOrGranted side granted connection side own about) ∧
    ∀ own named about,
      ((net.sockets side).put id ⟨.opened localId, bound⟩).socket own =
        some ⟨.opened named, about⟩ →
      net.RefersOrGranted side granted connection side.other named about := by
  obtain rfl : bound = connection := unambiguous.head_connection head rfl isConnecting
  constructor
  · intro own state about found
    rcases Sockets.socket_put_eq_some_iff.mp found with ⟨rfl, same⟩ | ⟨-, old⟩
    · obtain ⟨-, rfl⟩ := by simpa using same
      exact .inl (Network.refers_own isConnecting)
    · exact .inl (Network.refers_own old)
  · intro own named about found
    rcases Sockets.socket_put_eq_some_iff.mp found with ⟨rfl, same⟩ | ⟨-, old⟩
    · obtain ⟨rfl, rfl⟩ := by simpa using same
      exact .inl (Network.refers_head_local head rfl)
    · exact .inl (Network.refers_peer old)

/-- Sending a RESET refers to the id it names, and so did what provoked it. -/
theorem Network.Refers.of_performReset {target : Side → Id → Nat → Prop} {remoteId : Id}
    {reason : Reset}
    (before : ∀ other id connection, net.Refers other id connection →
      target other id connection)
    (own : ∀ id state connection, next.socket id = some ⟨state, connection⟩ →
      target side id connection)
    (peer : ∀ own id connection, next.socket own = some ⟨.opened id, connection⟩ →
      target side.other id connection)
    (provoked : target side.other remoteId connection) {other : Side} {shown : Id}
    {about : Nat}
    (refers : (net.perform side next [⟨connection, .reset remoteId reason⟩]).Refers
      other shown about) :
    target other shown about := by
  apply refers.of_perform before own peer
  · simp [Frame.reset, Header.linkId]
  · intro tagged member id named
    obtain rfl := List.mem_singleton.mp member
    obtain rfl : remoteId = id := by simpa [Frame.reset, Header.linkId] using named
    exact provoked

/-- Receiving a frame adds references to the id it is granted only. -/
theorem Network.Unambiguous.refers_receive (unambiguous : net.Unambiguous)
    (head : net.sent side.other = tagged :: rest)
    (receives : (net.sockets side).Receives locals granted tagged.connection
      tagged.frame.header next frame account events)
    {other : Side} {shown : Id} {about : Nat}
    (refers : ((net.takeFrame side rest).perform side next
      (Tagged.send tagged.connection frame)).Refers other shown about) :
    net.RefersOrGranted side granted tagged.connection other shown about := by
  obtain ⟨connection, header, body⟩ := tagged
  dsimp only at receives refers ⊢
  have taken : ∀ other id about, (net.takeFrame side rest).Refers other id about →
      net.RefersOrGranted side granted connection other id about :=
    fun _ _ _ refers => .inl (refers.of_takeFrame head)
  have ownBefore : ∀ id state about,
      (net.sockets side).socket id = some ⟨state, about⟩ →
      net.RefersOrGranted side granted connection side id about :=
    fun _ _ _ found => .inl (Network.refers_own found)
  have peerBefore : ∀ own id about, (net.sockets side).socket own = some ⟨.opened id, about⟩ →
      net.RefersOrGranted side granted connection side.other id about :=
    fun _ _ _ found => .inl (Network.refers_peer found)
  have ownErased : ∀ erased id state about,
      ((net.sockets side).erase erased).socket id = some ⟨state, about⟩ →
      net.RefersOrGranted side granted connection side id about :=
    fun _ _ _ _ found => ownBefore _ _ _ (Sockets.socket_erase_eq_some_iff.mp found).2
  have peerErased : ∀ erased own id about,
      ((net.sockets side).erase erased).socket own = some ⟨.opened id, about⟩ →
      net.RefersOrGranted side granted connection side.other id about :=
    fun _ _ _ _ found => peerBefore _ _ _ (Sockets.socket_erase_eq_some_iff.mp found).2
  have provoker : ∀ id, header.linkId.localId = some id →
      net.RefersOrGranted side granted connection side.other id connection :=
    fun _ named => .inl (Network.refers_head_local head named)
  cases receives with
  | dataStray notOpen =>
      exact refers.of_performReset taken ownBefore peerBefore (provoker _ rfl)
  | dataDelivered isOpen =>
      exact refers.of_perform taken ownBefore peerBefore (by simp [Tagged.send])
        (by simp [Tagged.send])
  | dataFailed isOpen =>
      exact refers.of_performReset taken (ownErased _) (peerErased _) (provoker _ rfl)
  | ackStray notConnecting =>
      exact refers.of_performReset taken ownBefore peerBefore (provoker _ rfl)
  | @ackOpened localId remoteId rsp bound isConnecting =>
      obtain ⟨ownOpened, peerOpened⟩ := unambiguous.refers_opened head isConnecting
      exact refers.of_perform taken ownOpened peerOpened (by simp [Tagged.send])
        (by simp [Tagged.send])
  | @ackAbandoned localId remoteId rsp bound isConnecting gone =>
      obtain ⟨ownOpened, peerOpened⟩ := unambiguous.refers_opened head isConnecting
      exact refers.of_performReset taken ownOpened peerOpened (provoker _ rfl)
  | rejected =>
      exact refers.of_perform taken (ownErased _) (peerErased _) (by simp [Tagged.send])
        (by simp [Tagged.send])
  | reset =>
      exact refers.of_perform taken (ownErased _) (peerErased _) (by simp [Tagged.send])
        (by simp [Tagged.send])
  | @connectAccepted localId id identity isGranted free =>
      have new : net.RefersOrGranted side granted connection side id connection :=
        .inr ⟨isGranted, free, rfl, rfl⟩
      apply refers.of_perform taken
      · intro own state target found
        rcases Sockets.socket_put_eq_some_iff.mp found with ⟨rfl, same⟩ | ⟨-, old⟩
        · obtain ⟨-, rfl⟩ := by simpa using same
          exact new
        · exact ownBefore _ _ _ old
      · intro own named target found
        rcases Sockets.socket_put_eq_some_iff.mp found with ⟨rfl, same⟩ | ⟨-, old⟩
        · obtain ⟨rfl, rfl⟩ := by simpa using same
          exact provoker _ rfl
        · exact peerBefore _ _ _ old
      · intro sent member named isLocal
        obtain rfl := List.mem_singleton.mp member
        obtain rfl : id = named := by simpa [Frame.ack, Header.linkId] using isLocal
        exact new
      · intro sent member named isRemote
        obtain rfl := List.mem_singleton.mp member
        obtain rfl : localId = named := by simpa [Frame.ack, Header.linkId] using isRemote
        exact provoker _ rfl
  | @connectRefused localId identity reason =>
      apply refers.of_perform taken ownBefore peerBefore
      · simp [Tagged.send, Frame.reject, Header.linkId]
      · intro sent member named isRemote
        obtain rfl := List.mem_singleton.mp member
        obtain rfl : localId = named := by simpa [Frame.reject, Header.linkId] using isRemote
        exact provoker _ rfl

theorem Network.Unambiguous.receive (unambiguous : net.Unambiguous)
    (head : net.sent side.other = tagged :: rest)
    (unmentioned : net.Unmentioned side granted)
    (receives : (net.sockets side).Receives locals granted tagged.connection
      tagged.frame.header next frame account events) :
    ((net.takeFrame side rest).perform side next
      (Tagged.send tagged.connection frame)).Unambiguous :=
  unambiguous.grant unmentioned fun _ _ _ refers =>
    unambiguous.refers_receive head receives refers

theorem Network.Unambiguous.clean (unambiguous : net.Unambiguous) (side : Side) :
    (net.clean side).Unambiguous := by
  rw [Network.clean_eq_perform]
  intro other id first second refersFirst refersSecond
  have before : ∀ about,
      (net.perform side (net.sockets side).cleaned []).Refers other id about →
      net.Refers other id about := by
    intro about refers
    apply refers.of_perform (fun _ _ _ old => old)
    · exact fun _ _ _ found =>
        Network.refers_own (Sockets.socket_cleaned_eq_some_iff.mp found).2
    · exact fun _ _ _ found =>
        Network.refers_peer (Sockets.socket_cleaned_eq_some_iff.mp found).2
    · simp
    · simp
  exact unambiguous other id first second (before _ refersFirst) (before _ refersSecond)

theorem Network.Unambiguous.poll (unambiguous : net.Unambiguous)
    (sends : (net.sockets side).Sends locals next frame account events) :
    (net.perform side next (Tagged.send (account.getD 0) frame)).Unambiguous := by
  intro other id first second refersFirst refersSecond
  suffices before : ∀ about,
      (net.perform side next (Tagged.send (account.getD 0) frame)).Refers other id about →
      net.Refers other id about from
    unambiguous other id first second (before _ refersFirst) (before _ refersSecond)
  intro about refers
  cases sends with
  | idle =>
      exact refers.of_perform (fun _ _ _ old => old) (fun _ _ _ => Network.refers_own)
        (fun _ _ _ => Network.refers_peer) (by simp [Tagged.send]) (by simp [Tagged.send])
  | data isOpen =>
      apply refers.of_perform (fun _ _ _ old => old) (fun _ _ _ => Network.refers_own)
        (fun _ _ _ => Network.refers_peer)
      · intro sent member named isLocal
        obtain rfl := List.mem_singleton.mp member
        obtain rfl := Option.some.inj isLocal
        exact Network.refers_own isOpen
      · intro sent member named isRemote
        obtain rfl := List.mem_singleton.mp member
        obtain rfl := Option.some.inj isRemote
        exact Network.refers_peer isOpen
  | closed isOpen streamClosed =>
      apply refers.of_performReset (fun _ _ _ old => old)
      · exact fun _ _ _ => Network.refers_own
      · exact fun _ _ _ => Network.refers_peer
      · exact Network.refers_peer isOpen

theorem Network.Unambiguous.connect (unambiguous : net.Unambiguous)
    (unmentioned : net.Unmentioned side granted) {identity : Identity} {hello : List UInt8}
    (starts : (net.sockets side).Starts granted ⟨identity, hello, connection, connection⟩
      next frame account events) :
    (net.perform side next (Tagged.send connection frame)).Unambiguous := by
  suffices kept : ∀ other id about,
      (net.perform side next (Tagged.send connection frame)).Refers other id about →
      net.RefersOrGranted side granted connection other id about from
    unambiguous.grant unmentioned kept
  intro other id about refers
  have before : ∀ other id about, net.Refers other id about →
      net.RefersOrGranted side granted connection other id about := fun _ _ _ => .inl
  cases starts with
  | full isFull =>
      apply refers.of_perform before
      · exact fun _ _ _ found => .inl (Network.refers_own found)
      · exact fun _ _ _ found => .inl (Network.refers_peer found)
      · simp [Tagged.send]
      · simp [Tagged.send]
  | @started reserved isReserved free =>
      apply refers.of_perform before
      · intro own state target found
        rcases Sockets.socket_put_eq_some_iff.mp found with ⟨rfl, same⟩ | ⟨-, old⟩
        · obtain ⟨-, rfl⟩ := by simpa using same
          exact .inr ⟨isReserved, free, rfl, rfl⟩
        · exact .inl (Network.refers_own old)
      · intro own named target found
        rcases Sockets.socket_put_eq_some_iff.mp found with ⟨rfl, same⟩ | ⟨-, old⟩
        · simp at same
        · exact .inl (Network.refers_peer old)
      · intro sent member named isLocal
        obtain rfl := List.mem_singleton.mp member
        obtain rfl := Option.some.inj isLocal
        exact .inr ⟨isReserved, free, rfl, rfl⟩
      · simp [Tagged.send, Frame.connect, Header.linkId]

/-- Every step whose handed out id is not mentioned keeps the references
unambiguous. -/
theorem Network.Unambiguous.step {move : Move} {occurred : List Occurrence}
    (unambiguous : net.Unambiguous) (unmentioned : net.Unmentioned side granted)
    (moves : net.Step side granted move after occurred) : after.Unambiguous := by
  cases moves with
  | receive head receives => exact unambiguous.receive head unmentioned receives
  | poll sends =>
      have cleaned := unambiguous.clean side
      exact cleaned.poll (by simpa using sends)
  | connect starts =>
      have cleaned := unambiguous.clean side
      have stillUnmentioned : (net.clean side).Unmentioned side granted := by
        intro id isGranted about
        simpa [Network.Mentions] using unmentioned id isGranted about
      exact cleaned.connect stillUnmentioned (by simpa using starts)
  | close connection => exact unambiguous

end References

section Runs

variable {capacity : Side → Nat} {build : Build}

def Entry.openedTo (id : Id) (entry : Entry) : Option Nat :=
  match entry.socket with
  | some ⟨.opened remoteId, channel⟩ => if remoteId = id then some channel else none
  | some ⟨.connecting _, _⟩ | none => none

/-- The connections for which something other than the own table entry refers to
an id of `side`: frames on the two wires and open sockets of the peer. -/
def World.mentions (world : World capacity) (side : Side) (id : Id) : List Nat :=
  ((world.machine side).sent.filter fun tagged =>
      tagged.frame.header.linkId.localId = some id).map Tagged.connection ++
    ((world.machine side.other).sent.filter fun tagged =>
      tagged.frame.header.linkId.remoteId = some id).map Tagged.connection ++
    (world.machine side.other).table.conns.toList.filterMap (Entry.openedTo id)

/-- The step hands out no id that a frame in flight or an open socket of the peer
still refers to. -/
def World.grantsUnmentioned (world : World capacity) (action : WorldAction) : Prop :=
  ∀ id ∈ world.grants action, world.mentions action.side id = []

instance (world : World capacity) (action : WorldAction) :
    Decidable (world.grantsUnmentioned action) :=
  inferInstanceAs (Decidable (∀ id ∈ world.grants action, _))

theorem World.Shows.unmentioned {world : World capacity} {net : Network}
    {action : WorldAction} (agrees : world.Shows net)
    (admitted : world.grantsUnmentioned action) :
    net.Unmentioned action.side (world.grants action) := by
  intro id isGranted connection mentions
  have none := admitted id isGranted
  unfold World.mentions at none
  simp only [List.append_eq_nil_iff, List.map_eq_nil_iff, List.filter_eq_nil_iff,
    List.filterMap_eq_nil_iff, agrees.sent] at none
  obtain ⟨⟨noLocal, noRemote⟩, noPeer⟩ := none
  rcases mentions with ⟨tagged, member, -, about⟩ | ⟨tagged, member, -, about⟩ | ⟨own, found⟩
  · exact noLocal tagged member (by simpa using about)
  · exact noRemote tagged member (by simpa using about)
  · rw [← (agrees.tables action.side.other).socket_eq] at found
    obtain ⟨entry, entryAt, isOpen⟩ := Option.bind_eq_some_iff.mp found
    have member : entry ∈ (world.machine action.side.other).table.conns.toList := by
      unfold ConnTable.entry at entryAt
      exact List.mem_of_getElem? (by simpa using entryAt)
    simpa [Entry.openedTo, isOpen] using noPeer entry member

theorem World.unambiguous_run {history : List Occurrence} {final : World capacity}
    (run : Run (World.step build) World.grantsUnmentioned (World.new capacity)
      history final) :
    ∃ net, final.Shows net ∧ net.Unambiguous := by
  apply run.stateInvariant fun world => ∃ net, world.Shows net ∧ net.Unambiguous
  · refine ⟨.empty, .new capacity, ?_⟩
    intro side id first second refers
    simp [Network.Refers, Network.Mentions, Network.empty, Sockets.empty] at refers
  · rintro occurred world next action ⟨net, agrees, unambiguous⟩ admitted stepTo
    obtain ⟨after, shown, moves⟩ := agrees.step stepTo
    exact ⟨after, shown, unambiguous.step (agrees.unmentioned admitted) moves⟩

theorem Sockets.Receives.reset_event {locals : Locals} {granted : Option Id} {bound : Nat}
    {view next : Sockets} {header : Header} {frame : Option OutboundFrame}
    {account : Option Nat} {events : List Event} {id : Id} {removed : Option Socket}
    (receives : view.Receives locals granted bound header next frame account events)
    (member : .reset id removed ∈ events) :
    (∃ reason, header = .reset id reason) ∧ removed = view.socket id := by
  cases receives with
  | reset =>
      rcases List.mem_cons.mp member with same | close
      · obtain ⟨rfl, rfl⟩ := by simpa using same
        exact ⟨⟨_, rfl⟩, rfl⟩
      · obtain ⟨_, same⟩ := ConnTable.mem_closeReset close
        contradiction
  | rejected =>
      rcases List.mem_cons.mp member with same | answer
      · contradiction
      · obtain ⟨_, _, same⟩ := ConnTable.mem_answerRejected answer
        contradiction
  | dataStray | dataDelivered | dataFailed | ackStray | ackOpened | ackAbandoned
  | connectAccepted | connectRefused => simp at member

/-- A reset in a step is caused by the frame in front of the wire. -/
theorem Network.Step.reset_event {net after : Network} {side resetting : Side}
    {granted : Option Id} {move : Move} {occurred : List Occurrence} {answering : Option Nat}
    {id : Id} {removed : Option Socket} (moves : net.Step side granted move after occurred)
    (occurs : ⟨resetting, answering, .reset id removed⟩ ∈ occurred) :
    ∃ tagged rest reason, resetting = side ∧ answering = some tagged.connection ∧
      net.sent side.other = tagged :: rest ∧ tagged.frame.header = .reset id reason ∧
      removed = (net.sockets side).socket id := by
  obtain ⟨locals, tagged, rest, next, frame, account, events, own, answers, head, receives,
    member⟩ := moves.receives occurs rfl
  obtain ⟨⟨reason, isReset⟩, removedEq⟩ := receives.reset_event member
  exact ⟨tagged, rest, reason, own, answers, head, isReset, removedEq⟩

/-- In every run in which no id is handed out while a frame in flight or an open
socket of the peer still refers to it, a socket that a received RESET removes
belongs to the connection the RESET was sent about. -/
theorem reset_about_own_connection {history : List Occurrence} {final : World capacity}
    (run : Run (World.step build) World.grantsUnmentioned (World.new capacity)
      history final)
    {side : Side} {answering : Option Nat} {id : Id} {socket : Socket}
    (occurs : ⟨side, answering, .reset id (some socket)⟩ ∈ history) :
    answering = some socket.channel := by
  obtain ⟨past, later, split⟩ := List.append_of_mem occurs
  obtain ⟨pre, first, rest, last, before, action, after, -, -, prefixRun, -, stepTo, -⟩ :=
    run.split_event split
  obtain ⟨net, agrees, unambiguous⟩ := World.unambiguous_run prefixRun
  obtain ⟨shown, -, moves⟩ := agrees.step stepTo
  obtain ⟨tagged, wire, reason, rfl, rfl, head, isReset, removed⟩ :=
    moves.reset_event (List.mem_append_right first List.mem_cons_self)
  rw [unambiguous.head_connection head (by simp [isReset, Header.linkId]) removed.symm]

/-- A connection is opened, and the RESET of its service removes its socket. -/
theorem reset_about_own_connection_closed :
    ∃ history final socket,
      Run (World.step .debug) World.grantsUnmentioned (World.new fun _ => 1) history final ∧
      ⟨.left, some 0, .reset .first (some socket)⟩ ∈ history ∧ some 0 = some socket.channel := by
  obtain ⟨history, final, run, observed⟩ :=
    exists_run_of_exec (World.step .debug) World.grantsUnmentioned (World.new fun _ => 1)
      [⟨.left, .connect .quiet .sample []⟩, ⟨.right, .receive .quiet⟩, ⟨.left, .receive .quiet⟩,
        ⟨.right, .close 0⟩, ⟨.right, .poll .streamClosed⟩, ⟨.left, .receive .quiet⟩]
      (fun reached => decide
        (⟨.left, some 0, .reset .first (some ⟨.opened .first, 0⟩)⟩ ∈ reached.2))
      (show _ = some true by decide +kernel)
  have occurs := of_decide_eq_true observed
  exact ⟨history, final, _, run, occurs, reset_about_own_connection run occurs⟩

/-- Both ends of a connection close, and the left side connects again under the
same id.  The RESET of the old connection removes the new socket. -/
theorem reset_about_old_connection :
    ¬ ∀ history (final : World fun _ => 1),
      Run (World.step .debug) anyStep (World.new fun _ => 1) history final →
      ∀ side answering id socket,
        ⟨side, answering, .reset id (some socket)⟩ ∈ history →
        answering = some socket.channel := by
  intro always
  obtain ⟨history, final, run, observed⟩ :=
    exists_run_of_exec (World.step .debug) anyStep (World.new fun _ => 1)
      [⟨.left, .connect .quiet .sample []⟩, ⟨.right, .receive .quiet⟩, ⟨.left, .receive .quiet⟩,
        ⟨.right, .close 0⟩, ⟨.right, .poll .streamClosed⟩,
        ⟨.left, .close 0⟩, ⟨.left, .poll .streamClosed⟩,
        ⟨.left, .connect .quiet .sample []⟩, ⟨.left, .receive .quiet⟩]
      (fun reached => decide
        (⟨.left, some 0, .reset .first (some ⟨.connecting 1, 1⟩)⟩ ∈ reached.2))
      (show _ = some true by decide +kernel)
  have sameConnection := always history final run _ _ _ _ (of_decide_eq_true observed)
  simp at sameConnection

end Runs

end Calliope

end Mgnp
