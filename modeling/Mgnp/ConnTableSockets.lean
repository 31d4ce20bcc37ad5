import Mgnp.ConnTable
import Mgnp.ExceptRules
import Mathlib.Logic.Function.Basic

/-!
# The connection table as a map of sockets

Seen from outside, a table is a map from ids to sockets together with its dead
index; which id is handed out next is up to the free list.  The three relations
of this file say everything an operation can do to that map, and the theorems
after them show that the operations of the table do nothing else.
-/

namespace Mgnp

namespace Calliope

open ExceptRules

/-- The sockets of a table by id, and the id marked dead. -/
structure Sockets where
  socket : Id → Option Socket
  dead : Option Id

namespace Sockets

def empty : Sockets := ⟨fun _ => none, none⟩

def put (view : Sockets) (id : Id) (socket : Socket) : Sockets :=
  { view with socket := Function.update view.socket id (some socket) }

def erase (view : Sockets) (id : Id) : Sockets :=
  { view with socket := Function.update view.socket id none }

/-- The map after `cleanup_dead`. -/
def cleaned (view : Sockets) : Sockets :=
  match view.dead with
  | none => view
  | some id => { view.erase id with dead := none }

def cleanupEvents (view : Sockets) : List Event :=
  match view.dead with
  | none => []
  | some id => [.cleanedUp id (view.socket id)]

theorem mem_cleanupEvents {view : Sockets} {event : Event}
    (member : event ∈ view.cleanupEvents) : ∃ id removed, event = .cleanedUp id removed := by
  unfold cleanupEvents at member
  split at member
  · exact absurd member List.not_mem_nil
  · exact ⟨_, _, List.mem_singleton.mp member⟩

@[simp] theorem dead_put (view : Sockets) (id : Id) (socket : Socket) :
    (view.put id socket).dead = view.dead := rfl

@[simp] theorem dead_erase (view : Sockets) (id : Id) :
    (view.erase id).dead = view.dead := rfl

@[simp] theorem socket_put_self (view : Sockets) (id : Id) (socket : Socket) :
    (view.put id socket).socket id = some socket :=
  Function.update_self ..

@[simp] theorem socket_put_of_ne (view : Sockets) {id other : Id} (socket : Socket)
    (different : other ≠ id) : (view.put id socket).socket other = view.socket other :=
  Function.update_of_ne different ..

@[simp] theorem socket_erase_self (view : Sockets) (id : Id) :
    (view.erase id).socket id = none :=
  Function.update_self ..

@[simp] theorem socket_erase_of_ne (view : Sockets) {id other : Id}
    (different : other ≠ id) : (view.erase id).socket other = view.socket other :=
  Function.update_of_ne different ..

theorem socket_erase_eq_some_iff {view : Sockets} {id other : Id} {socket : Socket} :
    (view.erase id).socket other = some socket ↔
      other ≠ id ∧ view.socket other = some socket := by
  by_cases same : other = id
  · subst same
    simp
  · simp [same]

theorem socket_put_eq_some_iff {view : Sockets} {id other : Id} {new socket : Socket} :
    (view.put id new).socket other = some socket ↔
      (other = id ∧ new = socket) ∨ (other ≠ id ∧ view.socket other = some socket) := by
  by_cases same : other = id
  · subst same
    simp
  · simp [same]

theorem erase_of_none {view : Sockets} {id : Id} (absent : view.socket id = none) :
    view.erase id = view := by
  unfold erase
  rw [← absent, Function.update_eq_self]

@[simp] theorem dead_cleaned (view : Sockets) : view.cleaned.dead = none := by
  unfold cleaned
  split
  · assumption
  · rfl

theorem cleaned_of_none {view : Sockets} (alive : view.dead = none) :
    view.cleaned = view := by
  simp [cleaned, alive]

theorem socket_cleaned_eq_some_iff {view : Sockets} {id : Id} {socket : Socket} :
    view.cleaned.socket id = some socket ↔
      view.dead ≠ some id ∧ view.socket id = some socket := by
  unfold cleaned
  cases dead : view.dead with
  | none => simp
  | some deadId =>
      change (view.erase deadId).socket id = some socket ↔ _
      rw [socket_erase_eq_some_iff]
      simp [eq_comm]

/-- What polling the open sockets can do. -/
inductive Sends (locals : Locals) (view : Sockets) :
    Sockets → Option OutboundFrame → Option Nat → List Event → Prop
  | idle : Sends locals view view none none []
  | data {id remoteId : Id} {channel : Nat} {bytes : List UInt8}
      (isOpen : view.socket id = some ⟨.opened remoteId, channel⟩) :
      Sends locals view view (some (.data remoteId id bytes)) (some channel) []
  | closed {id remoteId : Id} {channel : Nat} {error : RecvError} {reason : Reset}
      (isOpen : view.socket id = some ⟨.opened remoteId, channel⟩)
      (streamClosed : locals.pollRecv channel = some (.error error)) :
      Sends locals view { view with dead := some id }
        (some (.reset remoteId reason)) (some channel) [.markedDead id channel]

/-- What holds of every clean-up and every marking holds of all that a poll
does. -/
theorem Sends.forall_events {P : Event → Prop} {locals : Locals} {view polled next : Sockets}
    {frame : Option OutboundFrame} {account : Option Nat} {events : List Event}
    (sends : polled.Sends locals next frame account events)
    (cleanup : ∀ id removed, P (.cleanedUp id removed))
    (marking : ∀ id channel, P (.markedDead id channel)) :
    ∀ event ∈ view.cleanupEvents ++ events, P event := by
  intro event member
  rcases List.mem_append.mp member with cleaned | own
  · obtain ⟨id, removed, rfl⟩ := mem_cleanupEvents cleaned
    exact cleanup id removed
  · cases sends with
    | idle | data => cases own
    | closed =>
        rw [List.mem_singleton.mp own]
        exact marking _ _

/-- What a connect request can do, when the table hands out `reserved`. -/
inductive Starts (reserved : Option Id) (view : Sockets) (connect : OutboundConnect) :
    Sockets → Option OutboundFrame → Option Nat → List Event → Prop
  | full {rejection : Rejection} {received : Bool} (isFull : reserved = none) :
      Starts reserved view connect view none none
        [.answered connect.rsp (some rejection) received]
  | started {id : Id} (isReserved : reserved = some id) (free : view.socket id = none) :
      Starts reserved view connect
        (view.put id ⟨.connecting connect.rsp, connect.channel⟩)
        (some (.connect id connect.identity connect.hello)) (some connect.channel)
        [.started id connect.channel]

/-- What an inbound frame can do, when it is granted the id `granted` and the
registry binds an accepted connection to `channel`. -/
inductive Receives (locals : Locals) (granted : Option Id) (channel : Nat)
    (view : Sockets) : Header →
    Sockets → Option OutboundFrame → Option Nat → List Event → Prop
  | dataStray {localId remoteId : Id}
      (notOpen : ∀ bound, view.socket remoteId ≠ some ⟨.opened localId, bound⟩) :
      Receives locals granted channel view (.data localId remoteId) view
        (some (.reset localId .noSuchConn)) none []
  | dataDelivered {localId remoteId : Id} {bound : Nat} {body : List UInt8}
      (isOpen : view.socket remoteId = some ⟨.opened localId, bound⟩) :
      Receives locals granted channel view (.data localId remoteId) view
        none none [.delivered bound body]
  | dataFailed {localId remoteId : Id} {bound : Nat} {reason : Reset}
      (isOpen : view.socket remoteId = some ⟨.opened localId, bound⟩) :
      Receives locals granted channel view (.data localId remoteId)
        (view.erase remoteId) (some (.reset localId reason)) (some bound)
        [.undeliverable remoteId (some ⟨.opened localId, bound⟩)]
  | ackStray {localId remoteId : Id} {reason : Reset}
      (notConnecting : ∀ rsp bound, view.socket remoteId ≠ some ⟨.connecting rsp, bound⟩) :
      Receives locals granted channel view (.ack localId remoteId) view
        (some (.reset localId reason)) none []
  | ackOpened {localId remoteId : Id} {rsp bound : Nat}
      (isConnecting : view.socket remoteId = some ⟨.connecting rsp, bound⟩) :
      Receives locals granted channel view (.ack localId remoteId)
        (view.put remoteId ⟨.opened localId, bound⟩) none none
        [.opened remoteId localId bound, .answered rsp none true]
  | ackAbandoned {localId remoteId : Id} {rsp bound : Nat}
      (isConnecting : view.socket remoteId = some ⟨.connecting rsp, bound⟩)
      (gone : locals.initiatorAlive rsp = false) :
      Receives locals granted channel view (.ack localId remoteId)
        (view.put remoteId ⟨.opened localId, bound⟩)
        (some (.reset localId .becauseISaidSo)) (some bound)
        [.opened remoteId localId bound, .answered rsp none false]
  | rejected {remoteId : Id} {reason : Rejection} :
      Receives locals granted channel view (.reject remoteId reason)
        (view.erase remoteId) none none
        (.rejected remoteId (view.socket remoteId) ::
          ConnTable.answerRejected locals reason (view.socket remoteId))
  | reset {remoteId : Id} {reason : Reset} :
      Receives locals granted channel view (.reset remoteId reason)
        (view.erase remoteId) none none
        (.reset remoteId (view.socket remoteId) ::
          ConnTable.closeReset reason (view.socket remoteId))
  | connectAccepted {localId id : Id} {identity : Identity}
      (isGranted : granted = some id) (free : view.socket id = none) :
      Receives locals granted channel view (.connect localId identity)
        (view.put id ⟨.opened localId, channel⟩) (some (.ack id localId))
        (some channel) [.accepted id localId channel]
  | connectRefused {localId : Id} {identity : Identity} {reason : Rejection} :
      Receives locals granted channel view (.connect localId identity) view
        (some (.reject localId reason)) none []

end Sockets

namespace ConnTable

variable {capacity : Nat} {table : ConnTable capacity} {view : Sockets}

/-- The id that `process_inbound` hands out to a connection it accepts. -/
def granted (locals : Locals) (table : ConnTable capacity) (frame : InboundFrame) :
    Option Id :=
  match frame.header with
  | .connect _ identity =>
      match locals.connect identity frame.body with
      | .ok () => table.reserveId
      | .error _ => none
  | .data _ _ | .ack _ _ | .reject _ _ | .reset _ _ => none

/-- The table has exactly the sockets of the map, all at indices that ids name. -/
structure Shows (table : ConnTable capacity) (view : Sockets) : Prop where
  socket_eq : ∀ id, (table.entry id).bind Entry.socket = view.socket id
  dead_eq : table.deadIndex = view.dead
  addressable : ∀ (index : Nat) (socket : Socket),
    table.conns[index]? = some (.occupied socket) → index < 2 ^ 16 - 1

theorem Shows.new (capacity : Nat) : Shows (ConnTable.new capacity) .empty where
  socket_eq id := by
    unfold ConnTable.entry ConnTable.new
    by_cases inRange : id.toIndex < capacity
    · simp [inRange, Sockets.empty]
    · simp [inRange, Sockets.empty]
  dead_eq := rfl
  addressable index socket found := by
    simp [ConnTable.new, Vector.getElem?_replicate] at found

theorem Shows.setEntry {id : Id} {old : Entry} (agrees : Shows table view)
    (found : table.entry id = some old) (new : Entry) :
    Shows (table.setEntry id new)
      { view with socket := Function.update view.socket id new.socket } where
  socket_eq other := by
    have inRange : id.toIndex < capacity := by
      unfold ConnTable.entry at found
      by_contra outside
      simp [outside] at found
    by_cases same : other = id
    · subst same
      simp [ConnTable.entry, ConnTable.setEntry, inRange]
    · have otherIndex : id.toIndex ≠ other.toIndex := by
        simpa [eq_comm] using same
      have unchanged := agrees.socket_eq other
      simpa [ConnTable.entry, ConnTable.setEntry, otherIndex, same] using unchanged
  dead_eq := agrees.dead_eq
  addressable index socket occupied := by
    by_cases same : index = id.toIndex
    · subst same
      exact id.toIndex_lt
    · apply agrees.addressable index socket
      simpa [ConnTable.setEntry, Ne.symm same] using occupied

theorem Shows.setDeadIndex (agrees : Shows table view) (dead : Option Id) :
    Shows { table with deadIndex := dead } { view with dead := dead } :=
  ⟨agrees.socket_eq, rfl, agrees.addressable⟩

theorem Shows.remove (agrees : Shows table view) (id : Id) :
    Ensures (table.remove id) fun result =>
      Shows result.1 (view.erase id) ∧ result.2 = view.socket id := by
  have socketEq := agrees.socket_eq id
  unfold ConnTable.remove
  cases found : table.entry id with
  | none =>
      have absent : view.socket id = none := by
        simpa [found, eq_comm] using socketEq
      rw [ensures_ok, Sockets.erase_of_none absent]
      exact ⟨agrees, absent.symm⟩
  | some entry =>
      have socketIs : view.socket id = entry.socket := by
        simpa [found, eq_comm] using socketEq
      cases entry with
      | occupied socket =>
          dsimp only
          split
          · exact ensures_error
          · have removed := agrees.setEntry found (.closed table.nextId)
            exact ensures_ok.mpr
              ⟨⟨removed.socket_eq, removed.dead_eq, removed.addressable⟩, socketIs.symm⟩
      | unused =>
          rw [ensures_ok, Sockets.erase_of_none socketIs]
          exact ⟨agrees, socketIs.symm⟩
      | closed next =>
          rw [ensures_ok, Sockets.erase_of_none socketIs]
          exact ⟨agrees, socketIs.symm⟩

theorem Shows.insertAt (agrees : Shows table view) (id : Id) (socket : Socket) :
    Ensures (table.insertAt id socket) fun result =>
      view.socket id = none ∧ Shows result (view.put id socket) := by
  unfold ConnTable.insertAt
  cases found : table.entry id with
  | none => exact ensures_error
  | some entry =>
      have socketIs : view.socket id = entry.socket := by
        simpa [found, eq_comm] using agrees.socket_eq id
      have inserted := agrees.setEntry found (.occupied socket)
      cases entry with
      | occupied old => exact ensures_error
      | unused =>
          dsimp only
          split
          · exact ensures_error
          · exact ensures_ok.mpr
              ⟨socketIs, inserted.socket_eq, inserted.dead_eq, inserted.addressable⟩
      | closed next =>
          exact ensures_ok.mpr
            ⟨socketIs, inserted.socket_eq, inserted.dead_eq, inserted.addressable⟩

theorem Shows.cleanupDead (agrees : Shows table view) :
    Ensures table.cleanupDead fun result =>
      Shows result.1 view.cleaned ∧ result.2 = view.cleanupEvents := by
  unfold ConnTable.cleanupDead Sockets.cleaned Sockets.cleanupEvents
  rw [← agrees.dead_eq]
  cases table.deadIndex with
  | none => exact ensures_ok.mpr ⟨agrees, rfl⟩
  | some id =>
      refine Ensures.bind ((agrees.setDeadIndex none).remove id) ?_
      rintro ⟨removed, socket⟩ ⟨holds, rfl⟩
      exact ensures_pure.mpr ⟨holds, rfl⟩

section Operations

variable {locals : Locals}

theorem mem_answerRejected {rejection : Rejection} {removed : Option Socket} {event : Event}
    (member : event ∈ answerRejected locals rejection removed) :
    ∃ rsp received, event = .answered rsp (some rejection) received := by
  unfold answerRejected at member
  split at member
  · exact ⟨_, _, List.mem_singleton.mp member⟩
  · exact absurd member List.not_mem_nil
  · exact absurd member List.not_mem_nil

theorem mem_closeReset {reason : Reset} {removed : Option Socket} {event : Event}
    (member : event ∈ closeReset reason removed) :
    ∃ channel, event = .closedWithError channel reason := by
  unfold closeReset at member
  split at member
  · exact ⟨_, List.mem_singleton.mp member⟩
  · exact absurd member List.not_mem_nil
  · exact absurd member List.not_mem_nil

/-- What holds of the removal and of every answer holds of all that a REJECT
does. -/
theorem forall_rejected {P : Event → Prop} {rejection : Rejection} {id : Id}
    {removed : Option Socket} (removal : P (.rejected id removed))
    (answers : ∀ rsp received, P (.answered rsp (some rejection) received)) :
    ∀ event ∈ .rejected id removed :: answerRejected locals rejection removed, P event := by
  intro event member
  rcases List.mem_cons.mp member with rfl | answer
  · exact removal
  · obtain ⟨rsp, received, rfl⟩ := mem_answerRejected answer
    exact answers rsp received

/-- What holds of the removal and of every closing holds of all that a RESET
does. -/
theorem forall_reset {P : Event → Prop} {reason : Reset} {id : Id}
    {removed : Option Socket} (removal : P (.reset id removed))
    (closes : ∀ channel, P (.closedWithError channel reason)) :
    ∀ event ∈ .reset id removed :: closeReset reason removed, P event := by
  intro event member
  rcases List.mem_cons.mp member with rfl | close
  · exact removal
  · obtain ⟨channel, rfl⟩ := mem_closeReset close
    exact closes channel

/-- The loop of `next_outbound` over a list of entries that are all in the map. -/
theorem pollConns_sends (build : Build) (entries : List Entry) (idx : Nat)
    (placed : ∀ (offset : Nat) (socket : Socket),
      entries[offset]? = some (.occupied socket) →
      ∃ id : Id, id.toIndex = idx + offset ∧ view.socket id = some socket) :
    Ensures (pollConns build locals entries idx) fun ready =>
      match ready with
      | none => True
      | some ⟨frame, channel, none⟩ =>
          view.Sends locals view (some frame) (some channel) []
      | some ⟨frame, channel, some dead⟩ =>
          view.Sends locals { view with dead := some dead } (some frame) (some channel)
            [.markedDead dead channel] := by
  induction entries generalizing idx with
  | nil => exact ensures_ok.mpr trivial
  | cons entry entries ih =>
      have rest := ih (idx + 1) (fun offset socket found => by
        have shifted := placed (offset + 1) socket (by simpa using found)
        rwa [← Nat.add_assoc, Nat.add_right_comm] at shifted)
      unfold pollConns
      split
      · rename_i remoteId channel occupied
        have entryIs : entry = .occupied ⟨.opened remoteId, channel⟩ := by
          cases entry <;> simp_all
        obtain ⟨id, indexEq, isOpen⟩ := placed 0 _ (by rw [entryIs]; rfl)
        rw [Nat.add_zero] at indexEq
        have converted := Id.fromIndex_toIndex build id
        rw [indexEq] at converted
        split
        · rw [converted]
          exact ensures_ok.mpr (.data isOpen)
        · rename_i error closed
          rw [converted]
          exact ensures_ok.mpr (.closed isOpen closed)
        · exact rest
      · exact rest
      · exact rest

theorem Shows.nextOutbound (agrees : Shows table view) (build : Build) :
    Ensures (table.nextOutbound build locals) fun outcome =>
      ∃ next events, Shows outcome.table next ∧
        view.cleaned.Sends locals next outcome.frame outcome.account events ∧
        outcome.events = view.cleanupEvents ++ events := by
  unfold ConnTable.nextOutbound
  refine Ensures.bind agrees.cleanupDead ?_
  rintro ⟨cleaned, events⟩ ⟨holds, rfl⟩
  have placed : ∀ (offset : Nat) (socket : Socket),
      cleaned.conns.toList[offset]? = some (.occupied socket) →
      ∃ id : Id, id.toIndex = 0 + offset ∧ view.cleaned.socket id = some socket := by
    intro offset socket found
    have entryAt : cleaned.conns[offset]? = some (.occupied socket) := by
      simpa using found
    obtain ⟨id, -, indexEq⟩ := Id.fromIndex_eq_ok .debug (holds.addressable _ _ entryAt)
    refine ⟨id, by omega, ?_⟩
    rw [← holds.socket_eq, ConnTable.entry, indexEq, entryAt]
    rfl
  refine Ensures.bind (pollConns_sends build cleaned.conns.toList 0 placed) ?_
  rintro ready sends
  match ready with
  | none =>
      exact ensures_pure.mpr ⟨view.cleaned, [], holds, .idle, (List.append_nil _).symm⟩
  | some ⟨frame, channel, none⟩ =>
      exact ensures_pure.mpr ⟨view.cleaned, [], holds, sends, (List.append_nil _).symm⟩
  | some ⟨frame, channel, some dead⟩ =>
      exact ensures_pure.mpr ⟨_, _, holds.setDeadIndex (some dead), sends, rfl⟩

theorem Shows.startConnecting (agrees : Shows table view) (connect : OutboundConnect) :
    Ensures (table.startConnecting locals connect) fun outcome =>
      ∃ next, Shows outcome.table next ∧
        view.Starts table.reserveId connect next outcome.frame outcome.account
          outcome.events := by
  unfold ConnTable.startConnecting
  cases reserved : table.reserveId with
  | none => exact ensures_ok.mpr ⟨view, agrees, .full rfl⟩
  | some localId =>
      refine Ensures.bind (agrees.insertAt localId _) ?_
      rintro inserted ⟨free, holds⟩
      exact ensures_pure.mpr ⟨_, holds, .started rfl free⟩

theorem Shows.processData {granted : Option Id} {channel : Nat}
    (agrees : Shows table view) (localId id : Id) (body : List UInt8) :
    Ensures (table.processData locals localId id body) fun outcome =>
      ∃ next, Shows outcome.table next ∧
        view.Receives locals granted channel (.data localId id) next
          outcome.frame outcome.account outcome.events := by
  have socketEq := agrees.socket_eq id
  unfold ConnTable.processData
  split
  · rename_i absent
    refine ensures_ok.mpr ⟨view, agrees, .dataStray ?_⟩
    rw [← socketEq, absent]
    simp
  · rename_i remoteId bound isOpen
    rw [isOpen] at socketEq
    dsimp only
    split
    · rename_i wrongRemote
      refine ensures_ok.mpr ⟨view, agrees, .dataStray ?_⟩
      rw [← socketEq]
      simpa [eq_comm] using wrongRemote
    · rename_i sameRemote
      obtain rfl : localId = remoteId := not_not.mp sameRemote
      split
      · exact ensures_ok.mpr ⟨view, agrees, .dataDelivered socketEq.symm⟩
      · refine Ensures.bind (agrees.remove id) ?_
        rintro ⟨removed, socket⟩ ⟨holds, rfl⟩
        rw [← socketEq]
        exact ensures_pure.mpr ⟨_, holds, .dataFailed socketEq.symm⟩
  · rename_i rsp bound isConnecting
    refine ensures_ok.mpr ⟨view, agrees, .dataStray ?_⟩
    rw [← socketEq, isConnecting]
    simp

theorem Shows.processAck {granted : Option Id} {channel : Nat}
    (agrees : Shows table view) (localId remoteId : Id) :
    ∃ next, Shows (table.processAck locals localId remoteId).table next ∧
      view.Receives locals granted channel (.ack remoteId localId) next
        (table.processAck locals localId remoteId).frame
        (table.processAck locals localId remoteId).account
        (table.processAck locals localId remoteId).events := by
  have socketEq := agrees.socket_eq localId
  unfold ConnTable.processAck
  split
  · rename_i found
    refine ⟨view, agrees, .ackStray ?_⟩
    rw [← socketEq, found]
    simp
  · rename_i rsp bound found
    have isConnecting : view.socket localId = some ⟨.connecting rsp, bound⟩ := by
      rw [← socketEq, found]
      rfl
    have opened := agrees.setEntry found (.occupied ⟨.opened remoteId, bound⟩)
    cases alive : locals.initiatorAlive rsp with
    | true => exact ⟨_, opened, .ackOpened isConnecting⟩
    | false => exact ⟨_, opened, .ackAbandoned isConnecting alive⟩
  · rename_i found
    refine ⟨view, agrees, .ackStray ?_⟩
    rw [← socketEq, found]
    simp
  · rename_i found
    refine ⟨view, agrees, .ackStray ?_⟩
    rw [← socketEq, found]
    simp
  · rename_i found
    refine ⟨view, agrees, .ackStray ?_⟩
    rw [← socketEq, found]
    simp

theorem Shows.accept (agrees : Shows table view) (localId : Id) (channel : Nat)
    (identity : Identity) :
    Ensures (table.accept localId channel) fun outcome =>
      ∃ next, Shows outcome.table next ∧
        view.Receives locals table.reserveId channel (.connect localId identity) next
          outcome.frame outcome.account outcome.events := by
  unfold ConnTable.accept ConnTable.insert
  cases reserved : table.reserveId with
  | none => exact ensures_ok.mpr ⟨view, agrees, .connectRefused⟩
  | some id =>
      simp only [bind_assoc, pure_bind]
      refine Ensures.bind (agrees.insertAt id ⟨.opened localId, channel⟩) ?_
      rintro inserted ⟨free, holds⟩
      exact ensures_pure.mpr ⟨_, holds, .connectAccepted rfl free⟩

theorem Shows.processInbound (agrees : Shows table view) (channel : Nat)
    (frame : InboundFrame) :
    Ensures (table.processInbound locals channel frame) fun outcome =>
      ∃ next, Shows outcome.table next ∧
        view.Receives locals (table.granted locals frame) channel frame.header next
          outcome.frame outcome.account outcome.events := by
  unfold ConnTable.processInbound ConnTable.granted
  cases header : frame.header with
  | data localId remoteId => exact agrees.processData localId remoteId frame.body
  | ack localId remoteId => exact ensures_ok.mpr (agrees.processAck remoteId localId)
  | reject remoteId reason =>
      refine Ensures.bind (agrees.remove remoteId) ?_
      rintro ⟨removed, socket⟩ ⟨holds, rfl⟩
      exact ensures_pure.mpr ⟨_, holds, .rejected⟩
  | reset remoteId reason =>
      refine Ensures.bind (agrees.remove remoteId) ?_
      rintro ⟨removed, socket⟩ ⟨holds, rfl⟩
      exact ensures_pure.mpr ⟨_, holds, .reset⟩
  | connect localId identity =>
      dsimp only
      cases locals.connect identity frame.body with
      | ok => exact agrees.accept localId channel identity
      | error reason => exact ensures_ok.mpr ⟨view, agrees, .connectRefused⟩

end Operations

end ConnTable

end Calliope

end Mgnp
