import Mgnp.MachineNetwork

/-!
# Which request an ACK answers

An ACK names the connecting socket by its id alone.  As long as no RESET removes
a connecting socket, a connecting socket has exactly one frame of its handshake
in flight, its own CONNECT or the answer to it, and no other id has any.  Then
every ACK opens the socket whose request its peer accepted.
-/

namespace Mgnp

namespace Calliope

open ExceptRules LabelledRuns

/-- The connection of a CONNECT frame for this local id. -/
def Tagged.requests (id : Id) (tagged : Tagged) : Option Nat :=
  match tagged.frame.header with
  | .connect localId _ => if localId = id then some tagged.connection else none
  | .data _ _ | .ack _ _ | .reject _ _ | .reset _ _ => none

/-- The connection of an answer to a CONNECT frame with this id. -/
def Tagged.answers (id : Id) (tagged : Tagged) : Option Nat :=
  match tagged.frame.header with
  | .ack _ remoteId | .reject remoteId _ =>
      if remoteId = id then some tagged.connection else none
  | .connect _ _ | .data _ _ | .reset _ _ => none

/-- The connection that a socket waits for. -/
def waiting : Option Socket → List Nat
  | some ⟨.connecting _, channel⟩ => [channel]
  | some ⟨.opened _, _⟩ | none => []

@[simp] theorem waiting_none : waiting none = [] := rfl

@[simp] theorem waiting_opened (remoteId : Id) (channel : Nat) :
    waiting (some ⟨.opened remoteId, channel⟩) = [] := rfl

@[simp] theorem waiting_connecting (rsp channel : Nat) :
    waiting (some ⟨.connecting rsp, channel⟩) = [channel] := rfl

/-- A socket waits for at most one connection. -/
theorem append_cons_eq_waiting {socket : Option Socket} {earlier later : List Nat}
    {connection : Nat} (eq : earlier ++ connection :: later = waiting socket) :
    earlier = [] ∧ later = [] ∧ ∃ rsp, socket = some ⟨.connecting rsp, connection⟩ := by
  match socket with
  | none => simp at eq
  | some ⟨.opened _, _⟩ => simp at eq
  | some ⟨.connecting rsp, channel⟩ =>
      cases earlier with
      | nil =>
          obtain ⟨rfl, rfl⟩ := by simpa using eq
          exact ⟨rfl, rfl, rsp, rfl⟩
      | cons head tail => simp at eq

/-- A frame that is no part of a handshake. -/
def Tagged.Quiet (tagged : Tagged) : Prop :=
  ∀ id, tagged.requests id = none ∧ tagged.answers id = none

theorem Tagged.quiet_data (connection : Nat) (remoteId localId : Id) (bytes : List UInt8) :
    Tagged.Quiet ⟨connection, .data remoteId localId bytes⟩ :=
  fun _ => ⟨rfl, rfl⟩

theorem Tagged.quiet_reset (connection : Nat) (remoteId : Id) (reason : Reset) :
    Tagged.Quiet ⟨connection, .reset remoteId reason⟩ :=
  fun _ => ⟨rfl, rfl⟩

/-- The connections whose handshakes for this id of `side` are in flight. -/
def Network.outstanding (net : Network) (side : Side) (id : Id) : List Nat :=
  (net.sent side).filterMap (Tagged.requests id) ++
    (net.sent side.other).filterMap (Tagged.answers id)

structure Handshakes (history : List Occurrence) (net : Network) : Prop where
  outstanding : ∀ side id,
    net.outstanding side id = waiting ((net.sockets side).socket id)
  /-- Only open sockets are marked dead. -/
  dead : ∀ side id, (net.sockets side).dead = some id →
    waiting ((net.sockets side).socket id) = []
  accepted : ∀ side, ∀ tagged ∈ net.sent side, ∀ localId remoteId,
    tagged.frame.header = .ack localId remoteId →
    ⟨side, some tagged.connection, .accepted localId remoteId tagged.connection⟩ ∈ history
  started : ∀ side id, ∀ connection ∈ waiting ((net.sockets side).socket id),
    ⟨side, none, .started id connection⟩ ∈ history

section Invariance

variable {history events : List Occurrence} {net : Network} {side : Side}
  {tagged : Tagged} {rest sends : List Tagged} {next : Sockets} {id : Id}

theorem Handshakes.mono (handshakes : Handshakes history net) (events : List Occurrence) :
    Handshakes (history ++ events) net where
  outstanding := handshakes.outstanding
  dead := handshakes.dead
  accepted side tagged member localId remoteId isAck :=
    List.mem_append_left _ (handshakes.accepted side tagged member localId remoteId isAck)
  started side id connection waits :=
    List.mem_append_left _ (handshakes.started side id connection waits)

theorem Handshakes.initial : Handshakes [] .empty := by
  constructor <;> simp [Network.outstanding, Network.empty, Sockets.empty]

/-- A table operation that leaves all waits alone, and sends nothing of a
handshake. -/
theorem Handshakes.performQuiet (handshakes : Handshakes history net)
    (sameWaits : ∀ id, waiting (next.socket id) = waiting ((net.sockets side).socket id))
    (deadOpen : ∀ id, next.dead = some id → waiting (next.socket id) = [])
    (quiet : ∀ tagged ∈ sends, tagged.Quiet) :
    Handshakes history (net.perform side next sends) := by
  have noRequests : ∀ id, sends.filterMap (Tagged.requests id) = [] := by
    intro id
    exact List.filterMap_eq_nil_iff.mpr fun tagged member => (quiet tagged member id).1
  have noAnswers : ∀ id, sends.filterMap (Tagged.answers id) = [] := by
    intro id
    exact List.filterMap_eq_nil_iff.mpr fun tagged member => (quiet tagged member id).2
  constructor
  · intro other id
    rcases other.eq_or_eq_other side with rfl | rfl
    · have before := handshakes.outstanding other id
      simpa [Network.outstanding, noRequests, sameWaits] using before
    · have before := handshakes.outstanding side.other id
      simpa [Network.outstanding, noAnswers] using before
  · intro other id
    rcases other.eq_or_eq_other side with rfl | rfl
    · simpa using deadOpen id
    · simpa using handshakes.dead side.other id
  · intro other tagged member localId remoteId isAck
    rcases other.eq_or_eq_other side with rfl | rfl
    · rw [Network.sent_perform_self] at member
      rcases List.mem_append.mp member with old | new
      · exact handshakes.accepted other tagged old localId remoteId isAck
      · have noAnswer := (quiet tagged new remoteId).2
        simp [Tagged.answers, isAck] at noAnswer
    · rw [Network.sent_perform_other] at member
      exact handshakes.accepted side.other tagged member localId remoteId isAck
  · intro other id connection waits
    rcases other.eq_or_eq_other side with rfl | rfl
    · rw [Network.sockets_perform_self, sameWaits] at waits
      exact handshakes.started other id connection waits
    · rw [Network.sockets_perform_other] at waits
      exact handshakes.started side.other id connection waits

theorem Handshakes.takeQuiet (handshakes : Handshakes history net)
    (head : net.sent side.other = tagged :: rest) (quiet : tagged.Quiet) :
    Handshakes history (net.takeFrame side rest) := by
  constructor
  · intro other id
    rcases other.eq_or_eq_other side with rfl | rfl
    · have before := handshakes.outstanding other id
      simpa [Network.outstanding, head, (quiet id).2] using before
    · have before := handshakes.outstanding side.other id
      simpa [Network.outstanding, head, (quiet id).1] using before
  · exact handshakes.dead
  · intro other kept member
    rcases other.eq_or_eq_other side with rfl | rfl
    · rw [Network.sent_takeFrame_self] at member
      exact handshakes.accepted other kept member
    · rw [Network.sent_takeFrame_other] at member
      exact handshakes.accepted side.other kept (by rw [head]; exact .tail _ member)
  · exact handshakes.started

/-- Cleaning up removes no connecting socket. -/
theorem Handshakes.clean (handshakes : Handshakes history net) (side : Side) :
    Handshakes history (net.clean side) := by
  rw [Network.clean_eq_perform]
  apply handshakes.performQuiet
  · intro id
    unfold Sockets.cleaned
    cases dead : (net.sockets side).dead with
    | none => rfl
    | some deadId =>
        by_cases same : id = deadId
        · subst same
          simp [Sockets.erase, handshakes.dead side id dead]
        · simp [Sockets.erase, same]
  · simp
  · simp

theorem Handshakes.closeStream (handshakes : Handshakes history net) (connection : Nat) :
    Handshakes history (net.closeStream side connection) :=
  ⟨handshakes.outstanding, handshakes.dead, handshakes.accepted, handshakes.started⟩

/-- An answer in front of the wire is for the connecting socket it names, whose
handshake has nothing else in flight. -/
theorem Handshakes.head_answers (handshakes : Handshakes history net) (id : Id)
    (head : net.sent side.other = tagged :: rest)
    (answers : tagged.answers id = some tagged.connection) :
    (net.sent side).filterMap (Tagged.requests id) = [] ∧
    rest.filterMap (Tagged.answers id) = [] ∧
    ∃ rsp, (net.sockets side).socket id = some ⟨.connecting rsp, tagged.connection⟩ := by
  have before := handshakes.outstanding side id
  unfold Network.outstanding at before
  rw [head, List.filterMap_cons_some answers] at before
  exact append_cons_eq_waiting before

/-- An operation that leaves all waits alone, after taking a quiet frame. -/
theorem Handshakes.receiveQuiet (handshakes : Handshakes history net)
    (head : net.sent side.other = tagged :: rest) (quietHead : tagged.Quiet)
    (sameWaits : ∀ id, waiting (next.socket id) = waiting ((net.sockets side).socket id))
    (sameDead : next.dead = (net.sockets side).dead)
    (quiet : ∀ tagged ∈ sends, tagged.Quiet) :
    Handshakes history ((net.takeFrame side rest).perform side next sends) := by
  apply (handshakes.takeQuiet head quietHead).performQuiet
  · simpa using sameWaits
  · intro id isDead
    rw [sameWaits]
    exact handshakes.dead side id (sameDead ▸ isDead)
  · exact quiet

/-- Receiving an answer ends the wait of the socket it names. -/
theorem Handshakes.answered (handshakes : Handshakes history net) (id : Id)
    (head : net.sent side.other = tagged :: rest)
    (answers : ∀ other, tagged.answers other =
      if id = other then some tagged.connection else none)
    (noRequest : ∀ other, tagged.requests other = none)
    (done : waiting (next.socket id) = [])
    (sameWaits : ∀ other, other ≠ id →
      waiting (next.socket other) = waiting ((net.sockets side).socket other))
    (sameDead : next.dead = (net.sockets side).dead)
    (quiet : ∀ tagged ∈ sends, tagged.Quiet) :
    Handshakes history ((net.takeFrame side rest).perform side next sends) := by
  obtain ⟨noRequests, noAnswers, -⟩ := handshakes.head_answers id head
    (by rw [answers id, if_pos rfl])
  have taken : Handshakes history ((net.takeFrame side rest).perform side next []) := by
    constructor
    · intro other shown
      rcases other.eq_or_eq_other side with rfl | rfl
      · have before := handshakes.outstanding other shown
        by_cases same : id = shown
        · subst same
          simp [Network.outstanding, noRequests, noAnswers, done]
        · have notThis : tagged.answers shown = none := by
            rw [answers, if_neg same]
          simpa [Network.outstanding, head, notThis, sameWaits shown (Ne.symm same)]
            using before
      · have before := handshakes.outstanding side.other shown
        simpa [Network.outstanding, head, noRequest shown] using before
    · intro other shown isDead
      rcases other.eq_or_eq_other side with rfl | rfl
      · rw [Network.sockets_perform_self] at isDead ⊢
        by_cases same : shown = id
        · rw [same, done]
        · rw [sameWaits shown same]
          exact handshakes.dead other shown (sameDead ▸ isDead)
      · simpa using handshakes.dead side.other shown (by simpa using isDead)
    · intro other kept member
      rcases other.eq_or_eq_other side with rfl | rfl
      · exact handshakes.accepted other kept (by simpa using member)
      · apply handshakes.accepted side.other kept
        rw [head]
        exact List.mem_cons_of_mem _ (by simpa using member)
    · intro other shown connection waits
      rcases other.eq_or_eq_other side with rfl | rfl
      · rw [Network.sockets_perform_self] at waits
        by_cases same : shown = id
        · rw [same, done] at waits
          contradiction
        · rw [sameWaits shown same] at waits
          exact handshakes.started other shown connection waits
      · exact handshakes.started side.other shown connection (by simpa using waits)
  have split : (net.takeFrame side rest).perform side next sends =
      ((net.takeFrame side rest).perform side next []).perform side next sends := by
    simp [Network.perform]
  rw [split]
  apply taken.performQuiet
  · simp
  · intro shown isDead
    simpa using taken.dead side shown (by simpa using isDead)
  · exact quiet

/-- Sending a request for a free id. -/
theorem Handshakes.requested (handshakes : Handshakes history net) (side : Side) (id : Id)
    (rsp connection : Nat) (identity : Identity) (hello : List UInt8)
    (free : (net.sockets side).socket id = none) (alive : (net.sockets side).dead = none)
    (recorded : ⟨side, none, .started id connection⟩ ∈ history) :
    Handshakes history (net.perform side
      ((net.sockets side).put id ⟨.connecting rsp, connection⟩)
      [⟨connection, .connect id identity hello⟩]) := by
  have before := handshakes.outstanding side id
  rw [free, waiting_none, Network.outstanding, List.append_eq_nil_iff] at before
  constructor
  · intro other shown
    rcases other.eq_or_eq_other side with rfl | rfl
    · by_cases same : shown = id
      · subst same
        simp [Network.outstanding, before.1, before.2, Tagged.requests, Frame.connect]
      · have unchanged := handshakes.outstanding other shown
        simpa [Network.outstanding, Tagged.requests, Frame.connect, same, Ne.symm same]
          using unchanged
    · have unchanged := handshakes.outstanding side.other shown
      have noAnswer : Tagged.answers shown ⟨connection, .connect id identity hello⟩ = none :=
        rfl
      simpa [Network.outstanding, noAnswer] using unchanged
  · intro other shown isDead
    rcases other.eq_or_eq_other side with rfl | rfl
    · simp [alive] at isDead
    · simpa using handshakes.dead side.other shown (by simpa using isDead)
  · intro other kept member localId remoteId isAck
    rcases other.eq_or_eq_other side with rfl | rfl
    · rw [Network.sent_perform_self] at member
      rcases List.mem_append.mp member with old | new
      · exact handshakes.accepted other kept old localId remoteId isAck
      · obtain rfl := List.mem_singleton.mp new
        simp [Frame.connect] at isAck
    · exact handshakes.accepted side.other kept (by simpa using member) localId remoteId isAck
  · intro other shown waited waits
    rcases other.eq_or_eq_other side with rfl | rfl
    · rw [Network.sockets_perform_self] at waits
      by_cases same : shown = id
      · subst same
        obtain rfl : waited = connection := by simpa using waits
        exact recorded
      · rw [Sockets.socket_put_of_ne _ _ same] at waits
        exact handshakes.started other shown waited waits
    · exact handshakes.started side.other shown waited (by simpa using waits)

/-- Answering a request moves its handshake to the other wire. -/
theorem Handshakes.replied (handshakes : Handshakes history net) (id : Id)
    (head : net.sent side.other = tagged :: rest)
    (requests : ∀ other, tagged.requests other =
      if id = other then some tagged.connection else none)
    (noAnswer : ∀ other, tagged.answers other = none)
    {reply : Tagged}
    (answers : ∀ other, reply.answers other =
      if id = other then some tagged.connection else none)
    (noRequest : ∀ other, reply.requests other = none)
    (sameWaits : ∀ other,
      waiting (next.socket other) = waiting ((net.sockets side).socket other))
    (sameDead : next.dead = (net.sockets side).dead)
    (recorded : ∀ localId remoteId, reply.frame.header = .ack localId remoteId →
      ⟨side, some reply.connection, .accepted localId remoteId reply.connection⟩ ∈ history) :
    Handshakes history ((net.takeFrame side rest).perform side next [reply]) := by
  constructor
  · intro other shown
    rcases other.eq_or_eq_other side with rfl | rfl
    · have before := handshakes.outstanding other shown
      simpa [Network.outstanding, head, noAnswer shown, noRequest shown, sameWaits] using before
    · have before := handshakes.outstanding side.other shown
      by_cases same : id = shown
      · subst same
        have isRequest : tagged.requests id = some tagged.connection := by
          rw [requests, if_pos rfl]
        have isAnswer : reply.answers id = some tagged.connection := by
          rw [answers, if_pos rfl]
        rw [Network.outstanding, head, List.filterMap_cons_some isRequest] at before
        obtain ⟨-, others, rsp, waits⟩ := append_cons_eq_waiting ((List.nil_append _).trans before)
        obtain ⟨noRequests, noAnswers⟩ := List.append_eq_nil_iff.mp others
        rw [Side.other_other] at noAnswers
        simp [Network.outstanding, noRequests, noAnswers, isAnswer, waits]
      · have notRequest : tagged.requests shown = none := by
          rw [requests, if_neg same]
        have notAnswer : reply.answers shown = none := by
          rw [answers, if_neg same]
        simpa [Network.outstanding, head, notRequest, notAnswer] using before
  · intro other shown isDead
    rcases other.eq_or_eq_other side with rfl | rfl
    · rw [Network.sockets_perform_self] at isDead ⊢
      rw [sameWaits]
      exact handshakes.dead other shown (sameDead ▸ isDead)
    · simpa using handshakes.dead side.other shown (by simpa using isDead)
  · intro other kept member localId remoteId isAck
    rcases other.eq_or_eq_other side with rfl | rfl
    · rw [Network.sent_perform_self, Network.sent_takeFrame_self] at member
      rcases List.mem_append.mp member with old | new
      · exact handshakes.accepted other kept old localId remoteId isAck
      · obtain rfl := List.mem_singleton.mp new
        exact recorded localId remoteId isAck
    · apply handshakes.accepted side.other kept _ localId remoteId isAck
      rw [head]
      exact List.mem_cons_of_mem _ (by simpa using member)
  · intro other shown waited waits
    rcases other.eq_or_eq_other side with rfl | rfl
    · rw [Network.sockets_perform_self, sameWaits] at waits
      exact handshakes.started other shown waited waits
    · exact handshakes.started side.other shown waited (by simpa using waits)

end Invariance

section Steps

variable {history : List Occurrence} {net : Network} {side : Side} {granted : Option Id}
  {locals : Locals} {tagged : Tagged} {rest : List Tagged} {next : Sockets}
  {frame : Option OutboundFrame} {account : Option Nat} {events : List Event}

/-- No received RESET names a connecting socket. -/
def Network.SparesConnecting (net : Network) (side : Side) (header : Header) : Prop :=
  ∀ id reason, header = .reset id reason → waiting ((net.sockets side).socket id) = []

theorem waiting_erase_of_nil {view : Sockets} {id : Id} (idle : waiting (view.socket id) = [])
    (other : Id) : waiting ((view.erase id).socket other) = waiting (view.socket other) := by
  by_cases same : other = id
  · subst same
    simp [idle]
  · simp [same]

theorem waiting_put_of_nil {view : Sockets} {id remoteId : Id} {channel : Nat}
    (idle : waiting (view.socket id) = []) (other : Id) :
    waiting ((view.put id ⟨.opened remoteId, channel⟩).socket other) =
      waiting (view.socket other) := by
  by_cases same : other = id
  · subst same
    simp [idle]
  · simp [same]

/-- Receiving a frame keeps the handshakes, as long as it is no RESET of a
connecting socket. -/
theorem Handshakes.receive (handshakes : Handshakes history net)
    (head : net.sent side.other = tagged :: rest)
    (spares : net.SparesConnecting side tagged.frame.header)
    (receives : (net.sockets side).Receives locals granted tagged.connection
      tagged.frame.header next frame account events) :
    Handshakes (history ++ events.map (⟨side, some tagged.connection, ·⟩))
      ((net.takeFrame side rest).perform side next (Tagged.send tagged.connection frame)) := by
  obtain ⟨connection, header, body⟩ := tagged
  have grown := handshakes.mono (events.map (⟨side, some connection, ·⟩))
  dsimp only at receives spares grown ⊢
  cases receives with
  | dataStray notOpen =>
      apply grown.receiveQuiet head
      · exact fun _ => ⟨rfl, rfl⟩
      · exact fun _ => rfl
      · rfl
      · simpa [Tagged.send] using Tagged.quiet_reset _ _ _
  | dataDelivered isOpen =>
      apply grown.receiveQuiet head
      · exact fun _ => ⟨rfl, rfl⟩
      · exact fun _ => rfl
      · rfl
      · simp [Tagged.send]
  | dataFailed isOpen =>
      apply grown.receiveQuiet head
      · exact fun _ => ⟨rfl, rfl⟩
      · exact waiting_erase_of_nil (by rw [isOpen, waiting_opened])
      · rfl
      · simpa [Tagged.send] using Tagged.quiet_reset _ _ _
  | @ackStray localId remoteId reason notConnecting =>
      obtain ⟨-, -, rsp, isConnecting⟩ := handshakes.head_answers remoteId head (by
        simp [Tagged.answers])
      exact absurd isConnecting (notConnecting rsp _)
  | @ackOpened localId remoteId rsp bound isConnecting =>
      apply grown.answered remoteId head
      · exact fun _ => rfl
      · exact fun _ => rfl
      · simp
      · exact fun other different => by simp [different]
      · rfl
      · simp [Tagged.send]
  | @ackAbandoned localId remoteId rsp bound isConnecting gone =>
      apply grown.answered remoteId head
      · exact fun _ => rfl
      · exact fun _ => rfl
      · simp
      · exact fun other different => by simp [different]
      · rfl
      · simpa [Tagged.send] using Tagged.quiet_reset _ _ _
  | @rejected remoteId reason =>
      apply grown.answered remoteId head
      · exact fun _ => rfl
      · exact fun _ => rfl
      · simp
      · exact fun other different => by simp [different]
      · rfl
      · simp [Tagged.send]
  | @reset remoteId reason =>
      apply grown.receiveQuiet head
      · exact fun _ => ⟨rfl, rfl⟩
      · exact waiting_erase_of_nil (spares remoteId reason rfl)
      · rfl
      · simp [Tagged.send]
  | @connectAccepted localId id identity isGranted free =>
      apply grown.replied localId head
      · exact fun _ => rfl
      · exact fun _ => rfl
      · exact fun _ => rfl
      · exact fun _ => rfl
      · exact waiting_put_of_nil (by rw [free, waiting_none])
      · rfl
      · simp [Frame.ack]
  | @connectRefused localId identity reason =>
      apply grown.replied localId head
      · exact fun _ => rfl
      · exact fun _ => rfl
      · exact fun _ => rfl
      · exact fun _ => rfl
      · exact fun _ => rfl
      · rfl
      · simp [Frame.reject]

theorem Handshakes.poll (handshakes : Handshakes history net)
    (sends : (net.sockets side).cleaned.Sends locals next frame account events)
    (occurred : List Occurrence) (connection : Nat) :
    Handshakes (history ++ occurred)
      ((net.clean side).perform side next (Tagged.send connection frame)) := by
  have cleaned := (handshakes.mono occurred).clean side
  cases sends with
  | idle =>
      apply cleaned.performQuiet
      · simp
      · simp
      · simp [Tagged.send]
  | data isOpen =>
      apply cleaned.performQuiet
      · simp
      · simp
      · simpa [Tagged.send] using Tagged.quiet_data _ _ _ _
  | @closed id remoteId channel error reason isOpen streamClosed =>
      apply cleaned.performQuiet
      · simp
      · intro dead isDead
        obtain rfl : id = dead := by simpa using isDead
        simp [isOpen]
      · simpa [Tagged.send] using Tagged.quiet_reset _ _ _

theorem Handshakes.connect (handshakes : Handshakes history net) {identity : Identity}
    {hello : List UInt8}
    (starts : (net.sockets side).cleaned.Starts granted ⟨identity, hello, net.fresh, net.fresh⟩
      next frame account events) :
    Handshakes (history ++ ((net.sockets side).cleanupEvents ++ events).map (⟨side, none, ·⟩))
      ((net.clean side).perform side next (Tagged.send net.fresh frame)) := by
  have cleaned := (handshakes.mono
    (((net.sockets side).cleanupEvents ++ events).map (⟨side, none, ·⟩))).clean side
  cases starts with
  | full isFull =>
      apply cleaned.performQuiet
      · simp
      · simp
      · simp [Tagged.send]
  | @started id isReserved free =>
      have requested := cleaned.requested side id net.fresh net.fresh identity hello
        (by simpa using free) (by simp) (by simp)
      simpa [Tagged.send] using requested

end Steps

section Runs

variable {capacity : Side → Nat} {build : Build}

/-- The step does not receive a RESET that names a connecting socket. -/
def World.sparesConnecting (world : World capacity) (action : WorldAction) : Prop :=
  match action.move with
  | .receive _ =>
      ∀ tagged ∈ (world.machine action.side.other).sent.head?,
        ∀ id ∈ tagged.frame.header.resets,
          waiting (((world.machine action.side).table.entry id).bind Entry.socket) = []
  | .poll _ | .connect _ _ _ | .close _ => True

instance (world : World capacity) (action : WorldAction) :
    Decidable (world.sparesConnecting action) := by
  unfold World.sparesConnecting
  exact match action.move with
    | .receive _ => inferInstanceAs (Decidable (∀ tagged ∈ _, _))
    | .poll _ | .connect _ _ _ | .close _ => isTrue trivial

theorem World.Shows.sparesConnecting {world : World capacity} {net : Network} {side : Side}
    {locals : Locals} {tagged : Tagged} {rest : List Tagged} (agrees : world.Shows net)
    (admitted : world.sparesConnecting ⟨side, .receive locals⟩)
    (head : net.sent side.other = tagged :: rest) :
    net.SparesConnecting side tagged.frame.header := by
  intro id reason isReset
  rw [← (agrees.tables side).socket_eq]
  apply admitted tagged
  · simp [agrees.sent, head]
  · simp [isReset, Header.resets]

theorem Handshakes.step {history occurred : List Occurrence} {world : World capacity}
    {net after : Network} {action : WorldAction} {granted : Option Id}
    (handshakes : Handshakes history net) (agrees : world.Shows net)
    (admitted : world.sparesConnecting action)
    (moves : net.Step action.side granted action.move after occurred) :
    Handshakes (history ++ occurred) after := by
  obtain ⟨side, move⟩ := action
  cases moves with
  | receive head receives =>
      exact handshakes.receive head (agrees.sparesConnecting admitted head) receives
  | poll sends => exact handshakes.poll sends _ _
  | connect starts =>
      have connected := handshakes.connect starts
      exact ⟨connected.outstanding, connected.dead, connected.accepted, connected.started⟩
  | close connection =>
      rw [List.append_nil]
      exact handshakes.closeStream connection

theorem World.handshakes_run {history : List Occurrence} {final : World capacity}
    (run : Run (World.step build) World.sparesConnecting (World.new capacity) history final) :
    ∃ net, final.Shows net ∧ Handshakes history net := by
  apply run.invariant fun past world => ∃ net, world.Shows net ∧ Handshakes past net
  · exact ⟨.empty, .new capacity, .initial⟩
  · rintro past occurred world next action ⟨net, agrees, handshakes⟩ admitted stepTo
    obtain ⟨after, shown, moves⟩ := agrees.step stepTo
    exact ⟨after, shown, handshakes.step agrees admitted moves⟩

theorem Sockets.Receives.opened {locals : Locals} {granted : Option Id} {bound : Nat}
    {view next : Sockets} {header : Header} {frame : Option OutboundFrame}
    {account : Option Nat} {events : List Event} {id remoteId : Id} {channel : Nat}
    (receives : view.Receives locals granted bound header next frame account events)
    (member : .opened id remoteId channel ∈ events) :
    ∃ rsp, header = .ack remoteId id ∧
      view.socket id = some ⟨.connecting rsp, channel⟩ := by
  cases receives with
  | ackOpened isConnecting =>
      obtain ⟨rfl, rfl, rfl⟩ := by simpa using member
      exact ⟨_, rfl, isConnecting⟩
  | ackAbandoned isConnecting =>
      obtain ⟨rfl, rfl, rfl⟩ := by simpa using member
      exact ⟨_, rfl, isConnecting⟩
  | rejected =>
      rcases List.mem_cons.mp member with same | answer
      · contradiction
      · obtain ⟨_, _, same⟩ := ConnTable.mem_answerRejected answer
        contradiction
  | reset =>
      rcases List.mem_cons.mp member with same | close
      · contradiction
      · obtain ⟨_, same⟩ := ConnTable.mem_closeReset close
        contradiction
  | dataStray | dataDelivered | dataFailed | ackStray | connectAccepted | connectRefused =>
      simp at member

/-- An opening in a step answers the frame in front of the wire. -/
theorem Network.Step.opened {net after : Network} {side opener : Side} {granted : Option Id}
    {move : Move} {occurred : List Occurrence} {answering : Option Nat} {id remoteId : Id}
    {channel : Nat} (moves : net.Step side granted move after occurred)
    (occurs : ⟨opener, answering, .opened id remoteId channel⟩ ∈ occurred) :
    ∃ tagged rest rsp, opener = side ∧ answering = some tagged.connection ∧
      net.sent side.other = tagged :: rest ∧
      tagged.frame.header = .ack remoteId id ∧
      (net.sockets side).socket id = some ⟨.connecting rsp, channel⟩ := by
  obtain ⟨locals, tagged, rest, next, frame, account, events, own, answers, head, receives,
    member⟩ := moves.receives occurs rfl
  obtain ⟨rsp, isAck, isConnecting⟩ := receives.opened member
  exact ⟨tagged, rest, rsp, own, answers, head, isAck, isConnecting⟩

/-- In every run in which no RESET of a connecting socket is received, an ACK
that opens a socket is about the connection of that socket: the peer accepted,
under the id the ACK names, the request the socket was started with. -/
theorem opened_by_own_request {history : List Occurrence} {final : World capacity}
    (run : Run (World.step build) World.sparesConnecting (World.new capacity) history final)
    {past later : List Occurrence} {side : Side} {answering : Option Nat} {id remoteId : Id}
    {channel : Nat}
    (occurs : history = past ++ ⟨side, answering, .opened id remoteId channel⟩ :: later) :
    answering = some channel ∧
    ⟨side, none, .started id channel⟩ ∈ past ∧
    ⟨side.other, some channel, .accepted remoteId id channel⟩ ∈ past := by
  obtain ⟨pre, first, rest, last, before, action, after, rfl, -, prefixRun, -, stepTo, -⟩ :=
    run.split_event occurs
  obtain ⟨net, agrees, handshakes⟩ := World.handshakes_run prefixRun
  obtain ⟨shown, -, moves⟩ := agrees.step stepTo
  obtain ⟨tagged, wire, rsp, rfl, rfl, head, isAck, isConnecting⟩ := moves.opened
    (List.mem_append_right first List.mem_cons_self)
  obtain ⟨-, -, found, sameSocket⟩ := handshakes.head_answers id head (by
    simp [Tagged.answers, isAck])
  obtain ⟨rfl, rfl⟩ := by simpa [isConnecting] using sameSocket
  refine ⟨rfl, ?_, ?_⟩
  · apply List.mem_append_left
    exact handshakes.started _ id _ (by simp [isConnecting])
  · apply List.mem_append_left
    exact handshakes.accepted _ tagged (by simp [head]) remoteId id isAck

/-- A connection is requested, accepted and acknowledged. -/
theorem opened_by_own_request_once :
    ∃ history final past,
      Run (World.step .debug) World.sparesConnecting (World.new fun _ => 1) history final ∧
      history = past ++ [⟨.left, some 0, .opened .first .first 0⟩,
        ⟨.left, some 0, .answered 0 none true⟩] ∧
      ⟨.right, some 0, .accepted .first .first 0⟩ ∈ past := by
  obtain ⟨history, final, run, observed⟩ :=
    exists_run_of_exec (World.step .debug) World.sparesConnecting (World.new fun _ => 1)
      [⟨.left, .connect .quiet .sample []⟩, ⟨.right, .receive .quiet⟩, ⟨.left, .receive .quiet⟩]
      (fun reached => reached.2)
      (show _ = some
        ([⟨.left, none, .started .first 0⟩, ⟨.right, some 0, .accepted .first .first 0⟩] ++
          [⟨.left, some 0, .opened .first .first 0⟩,
            ⟨.left, some 0, .answered 0 none true⟩]) by decide +kernel)
  exact ⟨history, final, _, run, observed, (opened_by_own_request run observed).2.2⟩

/-- Both ends of a connection close, and the left side connects again under the
same id.  The RESET of the old connection removes the connecting socket, and
the ACK of its request then opens the next socket under the id. -/
theorem opened_by_other_request :
    ¬ ∀ history (final : World fun _ => 1),
      Run (World.step .debug) anyStep (World.new fun _ => 1) history final →
      ∀ past later side answering id remoteId channel,
        history = past ++ ⟨side, answering, .opened id remoteId channel⟩ :: later →
        answering = some channel ∧
        ⟨side, none, .started id channel⟩ ∈ past ∧
        ⟨side.other, some channel, .accepted remoteId id channel⟩ ∈ past := by
  intro always
  obtain ⟨history, final, run, observed⟩ :=
    exists_run_of_exec (World.step .debug) anyStep (World.new fun _ => 1)
      [⟨.left, .connect .quiet .sample []⟩, ⟨.right, .receive .quiet⟩, ⟨.left, .receive .quiet⟩,
        ⟨.right, .close 0⟩, ⟨.right, .poll .streamClosed⟩,
        ⟨.left, .close 0⟩, ⟨.left, .poll .streamClosed⟩,
        ⟨.left, .connect .quiet .sample [1]⟩, ⟨.left, .receive .quiet⟩,
        ⟨.left, .connect .quiet .sample [2]⟩, ⟨.right, .receive .quiet⟩,
        ⟨.right, .receive .quiet⟩, ⟨.left, .receive .quiet⟩]
      (fun reached => reached.2.drop (reached.2.length - 2))
      (show _ = some [⟨.left, some 1, .opened .first .first 2⟩,
        ⟨.left, some 1, .answered 2 none true⟩] by decide +kernel)
  have split := List.take_append_drop (history.length - 2) history
  dsimp only at observed
  rw [observed] at split
  obtain ⟨sameConnection, -⟩ := always history final run _ _ _ _ _ _ _ split.symm
  simp at sameConnection

end Runs

end Calliope

end Mgnp
