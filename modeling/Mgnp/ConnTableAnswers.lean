import Mgnp.ConnTableSockets
import Mgnp.LabelledRuns
import Mathlib.Data.List.Nodup

/-!
# One answer for every connect request

The response sender of a connect request waits in the table until its socket
opens or is removed.  The history is read as a ledger of the senders that were
stored and of those that were answered.  A reset of a connecting socket, and a
cleanup that finds one under the dead index, drop the sender without an answer.
-/

namespace Mgnp

namespace Calliope

open LabelledRuns

/-- The response sender that the table took with this event. -/
def Event.stores : Event → Option Nat
  | .started _ rsp => some rsp
  | _ => none

/-- The response sender that was answered. -/
def Event.answers : Event → Option Nat
  | .answered rsp _ _ => some rsp
  | _ => none

def stored (history : List Event) : List Nat :=
  history.filterMap Event.stores

def answered (history : List Event) : List Nat :=
  history.filterMap Event.answers

/-- How many answers were sent on a response sender. -/
def answers (rsp : Nat) (history : List Event) : Nat :=
  (answered history).count rsp

@[simp] theorem stored_append (history events : List Event) :
    stored (history ++ events) = stored history ++ stored events :=
  List.filterMap_append

@[simp] theorem answered_append (history events : List Event) :
    answered (history ++ events) = answered history ++ answered events :=
  List.filterMap_append

@[simp] theorem stored_emitted (sent : List OutboundFrame) (account : Option Nat) :
    stored (sent.map (.emitted · account)) = [] := by
  simp [stored, Event.stores]

@[simp] theorem answered_emitted (sent : List OutboundFrame) (account : Option Nat) :
    answered (sent.map (.emitted · account)) = [] := by
  simp [answered, Event.answers]

@[simp] theorem stored_cleanupEvents (view : Sockets) : stored view.cleanupEvents = [] := by
  unfold Sockets.cleanupEvents
  cases view.dead with
  | none => rfl
  | some id => rfl

@[simp] theorem answered_cleanupEvents (view : Sockets) : answered view.cleanupEvents = [] := by
  unfold Sockets.cleanupEvents
  cases view.dead with
  | none => rfl
  | some id => rfl

/-- The response sender of a socket that is still connecting. -/
def Socket.waiting (socket : Socket) : Option Nat :=
  match socket.state with
  | .opened _ => none
  | .connecting rsp => some rsp

/-- The response sender that waits under an id. -/
def Sockets.waiting (view : Sockets) (id : Id) : Option Nat :=
  (view.socket id).bind Socket.waiting

/-- The response sender waits in some entry of the table. -/
def ConnTable.Waits {capacity : Nat} (table : ConnTable capacity) (rsp : Nat) : Prop :=
  ∃ id channel, table.entry id = some (.occupied ⟨.connecting rsp, channel⟩)

section Waiting

variable {view : Sockets} {id : Id} {rsp : Nat}

theorem Sockets.waiting_eq_some_iff :
    view.waiting id = some rsp ↔
      ∃ channel, view.socket id = some ⟨.connecting rsp, channel⟩ := by
  unfold Sockets.waiting Socket.waiting
  constructor
  · intro waits
    cases found : view.socket id with
    | none => simp [found] at waits
    | some socket =>
        obtain ⟨state, channel⟩ := socket
        cases state with
        | opened remoteId => simp [found] at waits
        | connecting other =>
            obtain rfl : other = rsp := by simpa [found] using waits
            exact ⟨channel, rfl⟩
  · rintro ⟨channel, found⟩
    simp [found]

theorem Sockets.waiting_put (view : Sockets) (id : Id) (socket : Socket) :
    (view.put id socket).waiting = Function.update view.waiting id socket.waiting := by
  ext other : 1
  by_cases same : other = id
  · subst same
    simp [Sockets.waiting]
  · simp [Sockets.waiting, same]

theorem Sockets.waiting_erase (view : Sockets) (id : Id) :
    (view.erase id).waiting = Function.update view.waiting id none := by
  ext other : 1
  by_cases same : other = id
  · subst same
    simp [Sockets.waiting]
  · simp [Sockets.waiting, same]

theorem Sockets.waiting_erase_of_none (idle : view.waiting id = none) :
    (view.erase id).waiting = view.waiting := by
  rw [view.waiting_erase, ← idle, Function.update_eq_self]

theorem ConnTable.Shows.waits_iff {capacity : Nat} {table : ConnTable capacity}
    (agrees : table.Shows view) (rsp : Nat) :
    table.Waits rsp ↔ ∃ id, view.waiting id = some rsp := by
  apply exists_congr
  intro id
  rw [Sockets.waiting_eq_some_iff, ← agrees.socket_eq id]
  apply exists_congr
  intro channel
  cases found : table.entry id with
  | none => simp
  | some entry => cases entry <;> simp

end Waiting

/-- What a step may do to the waiting response senders, where a connect request
brings the sender `new`. -/
inductive Settles (view next : Sockets) (new : Nat) (events : List Event) : Prop
  | silent (same : next.waiting = view.waiting)
      (none_stored : stored events = []) (none_answered : answered events = [])
  | stores {id : Id} (free : view.waiting id = none)
      (waits : next.waiting = Function.update view.waiting id (some new))
      (one_stored : stored events = [new]) (none_answered : answered events = [])
  | answers {id : Id} {rsp : Nat} (waited : view.waiting id = some rsp)
      (settled : next.waiting = Function.update view.waiting id none)
      (none_stored : stored events = []) (one_answered : answered events = [rsp])
  | refuses (same : next.waiting = view.waiting)
      (none_stored : stored events = []) (one_answered : answered events = [new])

section Operations

variable {view next : Sockets} {events : List Event} {frame : Option OutboundFrame}
  {account : Option Nat} {locals : Locals}

/-- The frame that a step sends settles nothing. -/
theorem Settles.emit {new : Nat} (settles : Settles view next new events)
    (sent : List OutboundFrame) (account : Option Nat) :
    Settles view next new (events ++ sent.map (.emitted · account)) := by
  cases settles with
  | silent same noneStored noneAnswered =>
      exact .silent same (by simp [noneStored]) (by simp [noneAnswered])
  | stores free waits oneStored noneAnswered =>
      exact .stores free waits (by simp [oneStored]) (by simp [noneAnswered])
  | answers waited settled noneStored oneAnswered =>
      exact .answers waited settled (by simp [noneStored]) (by simp [oneAnswered])
  | refuses same noneStored oneAnswered =>
      exact .refuses same (by simp [noneStored]) (by simp [oneAnswered])

theorem Sockets.Starts.settles {reserved : Option Id} {connect : OutboundConnect}
    (own : connect.channel = connect.rsp)
    (starts : view.Starts reserved connect next frame account events) :
    Settles view next connect.rsp events := by
  cases starts with
  | full => exact .refuses rfl rfl rfl
  | @started id isReserved free =>
      apply Settles.stores (by simp [Sockets.waiting, free]) (view.waiting_put id _)
      · rw [own]
        rfl
      · rfl

/-- Removing a socket that no sender waits in. -/
theorem Settles.of_erase {id : Id} {new : Nat} (idle : view.waiting id = none)
    (noneStored : stored events = []) (noneAnswered : answered events = []) :
    Settles view (view.erase id) new events :=
  .silent (Sockets.waiting_erase_of_none idle) noneStored noneAnswered

theorem Sockets.waiting_of_opened {id remoteId : Id} {channel : Nat}
    (isOpen : view.socket id = some ⟨.opened remoteId, channel⟩) :
    view.waiting id = none := by
  simp [Sockets.waiting, isOpen, Socket.waiting]

/-- Opening a connecting socket answers its sender. -/
theorem Settles.of_open {id remoteId : Id} {rsp channel new : Nat}
    (isConnecting : view.socket id = some ⟨.connecting rsp, channel⟩)
    (noneStored : stored events = []) (oneAnswered : answered events = [rsp]) :
    Settles view (view.put id ⟨.opened remoteId, channel⟩) new events :=
  .answers (Sockets.waiting_eq_some_iff.mpr ⟨channel, isConnecting⟩)
    (view.waiting_put id _) noneStored oneAnswered

/-- A rejection answers the sender it finds. -/
theorem Settles.of_reject {id : Id} {new : Nat} {rejection : Rejection} :
    Settles view (view.erase id) new
      (.rejected id (view.socket id) ::
        ConnTable.answerRejected locals rejection (view.socket id)) := by
  cases found : view.socket id with
  | none => exact .of_erase (by simp [Sockets.waiting, found]) rfl rfl
  | some socket =>
      obtain ⟨state, channel⟩ := socket
      cases state with
      | opened remoteId => exact .of_erase (Sockets.waiting_of_opened found) rfl rfl
      | connecting rsp =>
          exact .answers (Sockets.waiting_eq_some_iff.mpr ⟨channel, found⟩)
            (view.waiting_erase id) rfl rfl

/-- An inbound frame settles as long as it does not reset a connecting socket. -/
theorem Sockets.Receives.settles {granted : Option Id} {channel new : Nat} {header : Header}
    (receives : view.Receives locals granted channel header next frame account events)
    (keeps : ∀ id reason, header = .reset id reason → view.waiting id = none) :
    Settles view next new events := by
  cases receives with
  | dataStray => exact .silent rfl rfl rfl
  | dataDelivered => exact .silent rfl rfl rfl
  | dataFailed isOpen => exact .of_erase (Sockets.waiting_of_opened isOpen) rfl rfl
  | ackStray => exact .silent rfl rfl rfl
  | ackOpened isConnecting => exact .of_open isConnecting rfl rfl
  | ackAbandoned isConnecting => exact .of_open isConnecting rfl rfl
  | rejected => exact .of_reject
  | @reset remoteId reason =>
      have idle := keeps remoteId reason rfl
      have unanswered : ∀ removed, stored (ConnTable.closeReset reason removed) = [] ∧
          answered (ConnTable.closeReset reason removed) = [] := by
        intro removed
        unfold ConnTable.closeReset
        split <;> exact ⟨rfl, rfl⟩
      obtain ⟨noneStored, noneAnswered⟩ := unanswered (view.socket remoteId)
      exact .of_erase idle noneStored noneAnswered
  | @connectAccepted localId id identity isGranted free =>
      have idle : view.waiting id = none := by
        simp [Sockets.waiting, free]
      refine .silent ?_ rfl rfl
      rw [view.waiting_put]
      change Function.update view.waiting id none = view.waiting
      rw [← idle, Function.update_eq_self]
  | connectRefused => exact .silent rfl rfl rfl

/-- Polling settles as long as the cleanup does not find a connecting socket. -/
theorem Sockets.Sends.settles {new : Nat}
    (sends : view.cleaned.Sends locals next frame account events)
    (keeps : ∀ id, view.dead = some id → view.waiting id = none) :
    Settles view next new (view.cleanupEvents ++ events) := by
  have cleaned : view.cleaned.waiting = view.waiting := by
    unfold Sockets.cleaned
    cases dead : view.dead with
    | none => rfl
    | some id => exact Sockets.waiting_erase_of_none (keeps id dead)
  cases sends with
  | idle => exact .silent cleaned (by simp) (by simp)
  | data => exact .silent cleaned (by simp) (by simp)
  | closed =>
      refine .silent cleaned ?_ ?_
      · rw [stored_append, stored_cleanupEvents]
        rfl
      · rw [answered_append, answered_cleanupEvents]
        rfl

end Operations

/-- What the ledger of a history says about the senders that wait: each sender
that was stored and waits no longer has been answered, and none was twice. -/
structure Answering (history : List Event) (waiting : Id → Option Nat) (fresh : Nat) :
    Prop where
  oneEntry : ∀ {id other rsp}, waiting id = some rsp → waiting other = some rsp → id = other
  waits_old : ∀ {id rsp}, waiting id = some rsp → rsp < fresh
  answered_old : ∀ {rsp}, rsp ∈ answered history → rsp < fresh
  answered_once : (answered history).Nodup
  unanswered : ∀ {id rsp}, waiting id = some rsp → rsp ∉ answered history
  settled : ∀ {rsp}, rsp ∈ stored history → (∃ id, waiting id = some rsp) ∨
    rsp ∈ answered history

namespace Answering

variable {history events : List Event} {view next : Sockets} {fresh : Nat}

theorem initial : Answering [] Sockets.empty.waiting 0 := by
  constructor <;> simp [Sockets.empty, Sockets.waiting, answered, stored]

theorem update_some_iff {waiting : Id → Option Nat} {id other : Id} {new rsp : Nat} :
    Function.update waiting id (some new) other = some rsp ↔
      (other = id ∧ rsp = new) ∨ (other ≠ id ∧ waiting other = some rsp) := by
  by_cases same : other = id
  · simp [same, eq_comm]
  · simp [same]

theorem update_none_iff {waiting : Id → Option Nat} {id other : Id} {rsp : Nat} :
    Function.update waiting id none other = some rsp ↔
      other ≠ id ∧ waiting other = some rsp := by
  by_cases same : other = id
  · simp [same]
  · simp [same]

/-- A step that stores and answers nothing keeps the ledger. -/
theorem silent (answering : Answering history view.waiting fresh)
    (noneStored : stored events = []) (noneAnswered : answered events = []) :
    Answering (history ++ events) view.waiting (fresh + 1) := by
  constructor
  · exact answering.oneEntry
  · exact fun waits => Nat.lt_succ_of_lt (answering.waits_old waits)
  · intro rsp member
    rw [answered_append, noneAnswered, List.append_nil] at member
    exact Nat.lt_succ_of_lt (answering.answered_old member)
  · simpa [noneAnswered] using answering.answered_once
  · intro id rsp waits
    simpa [noneAnswered] using answering.unanswered waits
  · intro rsp member
    simp only [stored_append, answered_append, noneStored, noneAnswered, List.append_nil]
      at member ⊢
    exact answering.settled member

/-- A new sender waits under an id that was free. -/
theorem store (answering : Answering history view.waiting fresh) {id : Id}
    (free : view.waiting id = none)
    (oneStored : stored events = [fresh]) (noneAnswered : answered events = []) :
    Answering (history ++ events) (Function.update view.waiting id (some fresh))
      (fresh + 1) := by
  obtain ⟨oneEntry, waitsOld, answeredOld, answeredOnce, unanswered, settled⟩ := answering
  have unknown : ∀ other, view.waiting other ≠ some fresh := by
    intro other waits
    exact Nat.lt_irrefl _ (waitsOld waits)
  constructor
  · intro first second rsp firstWaits secondWaits
    rw [update_some_iff] at firstWaits secondWaits
    grind
  · intro other rsp waits
    rw [update_some_iff] at waits
    grind
  · intro rsp member
    rw [answered_append, noneAnswered, List.append_nil] at member
    exact Nat.lt_succ_of_lt (answeredOld member)
  · simpa [noneAnswered] using answeredOnce
  · intro other rsp waits
    rw [update_some_iff] at waits
    rw [answered_append, noneAnswered, List.append_nil]
    grind
  · intro rsp member
    simp only [stored_append, answered_append, oneStored, noneAnswered, List.append_nil,
      List.mem_append, List.mem_singleton] at member ⊢
    rcases member with old | rfl
    · rcases settled old with ⟨other, waits⟩ | sent
      · refine .inl ⟨other, update_some_iff.mpr (.inr ⟨?_, waits⟩)⟩
        rintro rfl
        simp [free] at waits
      · exact .inr sent
    · exact .inl ⟨id, update_some_iff.mpr (.inl ⟨rfl, rfl⟩)⟩

/-- The sender that waits under an id is answered and waits no longer. -/
theorem answer (answering : Answering history view.waiting fresh) {id : Id} {rsp : Nat}
    (waited : view.waiting id = some rsp)
    (noneStored : stored events = []) (oneAnswered : answered events = [rsp]) :
    Answering (history ++ events) (Function.update view.waiting id none) (fresh + 1) := by
  obtain ⟨oneEntry, waitsOld, answeredOld, answeredOnce, unanswered, settled⟩ := answering
  constructor
  · intro first second other firstWaits secondWaits
    rw [update_none_iff] at firstWaits secondWaits
    exact oneEntry firstWaits.2 secondWaits.2
  · intro other old waits
    rw [update_none_iff] at waits
    exact Nat.lt_succ_of_lt (waitsOld waits.2)
  · intro sent member
    rw [answered_append, oneAnswered, List.mem_append, List.mem_singleton] at member
    rcases member with old | rfl
    · exact Nat.lt_succ_of_lt (answeredOld old)
    · exact Nat.lt_succ_of_lt (waitsOld waited)
  · rw [answered_append, oneAnswered, List.nodup_append]
    have unsent := unanswered waited
    refine ⟨answeredOnce, by simp, ?_⟩
    intro sent member other single
    obtain rfl := List.mem_singleton.mp single
    rintro rfl
    exact unsent member
  · intro other old waits
    rw [update_none_iff] at waits
    rw [answered_append, oneAnswered, List.mem_append, List.mem_singleton]
    rintro (sent | rfl)
    · exact unanswered waits.2 sent
    · exact waits.1 (oneEntry waits.2 waited)
  · intro old member
    simp only [stored_append, answered_append, noneStored, oneAnswered, List.append_nil,
      List.mem_append, List.mem_singleton] at member ⊢
    rcases settled member with ⟨other, waits⟩ | sent
    · by_cases same : other = id
      · subst same
        rw [waited] at waits
        exact .inr (.inr (Option.some.inj waits).symm)
      · exact .inl ⟨other, update_none_iff.mpr ⟨same, waits⟩⟩
    · exact .inr (.inl sent)

/-- A new sender is answered at once. -/
theorem refuse (answering : Answering history view.waiting fresh)
    (noneStored : stored events = []) (oneAnswered : answered events = [fresh]) :
    Answering (history ++ events) view.waiting (fresh + 1) := by
  obtain ⟨oneEntry, waitsOld, answeredOld, answeredOnce, unanswered, settled⟩ := answering
  constructor
  · exact oneEntry
  · exact fun waits => Nat.lt_succ_of_lt (waitsOld waits)
  · intro sent member
    rw [answered_append, oneAnswered, List.mem_append, List.mem_singleton] at member
    rcases member with old | rfl
    · exact Nat.lt_succ_of_lt (answeredOld old)
    · exact Nat.lt_succ_self _
  · rw [answered_append, oneAnswered, List.nodup_append]
    refine ⟨answeredOnce, by simp, ?_⟩
    intro sent member other single
    obtain rfl := List.mem_singleton.mp single
    exact Nat.ne_of_lt (answeredOld member)
  · intro id rsp waits
    rw [answered_append, oneAnswered, List.mem_append, List.mem_singleton]
    rintro (sent | rfl)
    · exact unanswered waits sent
    · exact Nat.lt_irrefl _ (waitsOld waits)
  · intro old member
    simp only [stored_append, answered_append, noneStored, oneAnswered, List.append_nil,
      List.mem_append, List.mem_singleton] at member ⊢
    rcases settled member with waits | sent
    · exact .inl waits
    · exact .inr (.inl sent)

/-- Every step that settles keeps the ledger. -/
theorem step (answering : Answering history view.waiting fresh)
    (settles : Settles view next fresh events) :
    Answering (history ++ events) next.waiting (fresh + 1) := by
  cases settles with
  | silent same noneStored noneAnswered =>
      rw [same]
      exact answering.silent noneStored noneAnswered
  | stores free waits oneStored noneAnswered =>
      rw [waits]
      exact answering.store free oneStored noneAnswered
  | answers waited settled noneStored oneAnswered =>
      rw [settled]
      exact answering.answer waited noneStored oneAnswered
  | refuses same noneStored oneAnswered =>
      rw [same]
      exact answering.refuse noneStored oneAnswered

end Answering

section Runs

variable {capacity : Nat} {build : Build}

namespace ConnTable

/-- A connecting socket is stored under the id. -/
def connecting (table : ConnTable capacity) (id : Id) : Bool :=
  match (table.entry id).bind Entry.socket with
  | some ⟨.connecting _, _⟩ => true
  | some ⟨.opened _, _⟩ | none => false

/-- `insert_at` does not panic for the id that `reserve_id` hands out. -/
def insertable (table : ConnTable capacity) : Bool :=
  match table.reserveId with
  | none => true
  | some localId =>
      match table.entry localId with
      | none | some (.occupied _) => false
      | some .unused => (table.nextId.checkedAdd 1).isSome
      | some (.closed _) => true

end ConnTable

/-- The step does not drop a response sender: it neither resets a connecting
socket nor cleans one up, and a connect request finds its entry. -/
def Session.keepsAnswers (session : Session capacity) : Action → Prop
  | .startConnecting _ _ _ => session.table.insertable = true
  | .processInbound _ frame =>
      ∀ id ∈ frame.header.resets, session.table.connecting id = false
  | .nextOutbound _ => ∀ id ∈ session.table.deadIndex, session.table.connecting id = false

instance (session : Session capacity) (action : Action) :
    Decidable (session.keepsAnswers action) :=
  match action with
  | .startConnecting _ _ _ => inferInstanceAs (Decidable (_ = true))
  | .processInbound _ frame => inferInstanceAs (Decidable (∀ id ∈ frame.header.resets, _))
  | .nextOutbound _ => inferInstanceAs (Decidable (∀ id ∈ session.table.deadIndex, _))

theorem ConnTable.Shows.waiting_of_not_connecting {table : ConnTable capacity}
    {view : Sockets} {id : Id} (agrees : table.Shows view)
    (idle : table.connecting id = false) : view.waiting id = none := by
  unfold ConnTable.connecting at idle
  rw [agrees.socket_eq] at idle
  unfold Sockets.waiting Socket.waiting
  cases found : view.socket id with
  | none => rfl
  | some socket =>
      obtain ⟨state, channel⟩ := socket
      cases state with
      | opened remoteId => rfl
      | connecting rsp => simp [found] at idle

theorem ConnTable.insertAt_returns {table : ConnTable capacity} {localId : Id}
    (insertable : table.insertable = true) (reserved : table.reserveId = some localId)
    (socket : Socket) : ∃ inserted, table.insertAt localId socket = .ok inserted := by
  unfold ConnTable.insertable at insertable
  simp only [reserved] at insertable
  unfold ConnTable.insertAt
  cases found : table.entry localId with
  | none => simp [found] at insertable
  | some entry =>
      cases entry with
      | occupied socket => simp [found] at insertable
      | closed next => exact ⟨_, rfl⟩
      | unused =>
          simp only [found] at insertable
          obtain ⟨next, added⟩ := Option.isSome_iff_exists.mp insertable
          rw [added]
          exact ⟨_, rfl⟩

theorem ConnTable.startConnecting_returns {table : ConnTable capacity} {locals : Locals}
    (insertable : table.insertable = true) (connect : OutboundConnect) :
    ∃ outcome, table.startConnecting locals connect = .ok outcome := by
  unfold ConnTable.startConnecting
  cases reserved : table.reserveId with
  | none => exact ⟨_, rfl⟩
  | some localId =>
      obtain ⟨inserted, returned⟩ := table.insertAt_returns insertable reserved
        ⟨.connecting connect.rsp, connect.channel⟩
      dsimp only
      rw [returned]
      exact ⟨_, rfl⟩

/-- The run invariant. -/
def Session.Answers (history : List Event) (session : Session capacity) : Prop :=
  ∃ view, session.table.Shows view ∧
    Answering history view.waiting session.freshChannel

theorem Session.answers_step {history events : List Event}
    {session next : Session capacity} {action : Action}
    (holds : session.Answers history) (admitted : session.keepsAnswers action)
    (stepTo : session.step build action = some (next, events)) :
    next.Answers (history ++ events) := by
  obtain ⟨view, agrees, answering⟩ := holds
  rcases session.step_cases stepTo with ⟨message, -, rfl, rfl⟩ | ⟨outcome, operated, rfl, rfl⟩
  · exact ⟨view, agrees, by simpa using answering⟩
  cases action with
  | startConnecting locals identity hello =>
      obtain ⟨after, shows', starts⟩ := agrees.startConnecting _ outcome operated
      exact ⟨after, shows', answering.step ((starts.settles rfl).emit _ _)⟩
  | processInbound locals frame =>
      obtain ⟨after, shows', receives⟩ := agrees.processInbound _ frame outcome operated
      have keeps : ∀ id reason, frame.header = .reset id reason → view.waiting id = none := by
        intro id reason isReset
        apply agrees.waiting_of_not_connecting
        exact admitted id (by rw [isReset]; rfl)
      exact ⟨after, shows', answering.step ((receives.settles keeps).emit _ _)⟩
  | nextOutbound locals =>
      obtain ⟨after, polled, shows', sends, eventsEq⟩ :=
        agrees.nextOutbound build outcome operated
      have keeps : ∀ id, view.dead = some id → view.waiting id = none := by
        intro id marked
        apply agrees.waiting_of_not_connecting
        exact admitted id (by rw [agrees.dead_eq, marked]; rfl)
      rw [eventsEq]
      exact ⟨after, shows', answering.step ((sends.settles keeps).emit _ _)⟩

theorem Session.answers_run {history later : List Event} {session final : Session capacity}
    (holds : session.Answers history)
    (run : Run (Session.step build) Session.keepsAnswers session later final) :
    final.Answers (history ++ later) := by
  apply run.invariant fun past session => session.Answers (history ++ past)
  · simpa using holds
  · intro past events session next action inv admitted stepTo
    rw [← List.append_assoc]
    exact Session.answers_step inv admitted stepTo

theorem Session.answers_new : (Session.new capacity).Answers [] :=
  ⟨.empty, .new capacity, .initial⟩

/-- A connect request is stored or answered by its own step. -/
theorem Session.step_startConnecting {session next : Session capacity}
    {history events : List Event} {locals : Locals} {identity : Identity}
    {hello : List UInt8} (holds : session.Answers history)
    (admitted : session.keepsAnswers (.startConnecting locals identity hello))
    (stepTo : session.step build (.startConnecting locals identity hello) =
      some (next, events)) :
    session.freshChannel ∈ stored events ∨ session.freshChannel ∈ answered events := by
  obtain ⟨view, agrees, -⟩ := holds
  rcases session.step_cases stepTo with ⟨message, failed, -⟩ | ⟨outcome, operated, -, rfl⟩
  · obtain ⟨outcome, returned⟩ := ConnTable.startConnecting_returns admitted
      ⟨identity, hello, session.freshChannel, session.freshChannel⟩
    rw [Session.operation, returned] at failed
    contradiction
  · obtain ⟨after, -, starts⟩ := agrees.startConnecting _ outcome operated
    rw [stored_append, answered_append]
    generalize outcome.events = own, outcome.frame = frame, outcome.account = account
      at starts
    cases starts with
    | full => exact .inr (List.mem_append_left _ (List.mem_singleton_self _))
    | started => exact .inl (List.mem_append_left _ (List.mem_singleton_self _))

/-- In every run whose steps drop no response sender, the sender of a connect
request is not answered while it waits in the table, and has been answered
exactly once as soon as it does not. -/
theorem connect_answered_once {past events later : List Event}
    {session next final : Session capacity} {locals : Locals} {identity : Identity}
    {hello : List UInt8}
    (before : Run (Session.step build) Session.keepsAnswers (Session.new capacity) past session)
    (admitted : session.keepsAnswers (.startConnecting locals identity hello))
    (given : session.step build (.startConnecting locals identity hello) = some (next, events))
    (after : Run (Session.step build) Session.keepsAnswers next later final) :
    (final.table.Waits session.freshChannel →
      answers session.freshChannel (past ++ events ++ later) = 0) ∧
    (¬ final.table.Waits session.freshChannel →
      answers session.freshChannel (past ++ events ++ later) = 1) := by
  have holds : session.Answers past := by
    simpa using Session.answers_run Session.answers_new before
  have begun := Session.step_startConnecting holds admitted given
  obtain ⟨view, agrees, answering⟩ :=
    Session.answers_run (Session.answers_step holds admitted given) after
  rw [agrees.waits_iff]
  constructor
  · rintro ⟨id, waits⟩
    exact List.count_eq_zero.mpr (answering.unanswered waits)
  · intro gone
    apply List.count_eq_one_of_mem answering.answered_once
    rcases begun with wasStored | wasAnswered
    · have member : session.freshChannel ∈ stored (past ++ events ++ later) := by
        simp [wasStored]
      rcases answering.settled member with waits | sent
      · exact absurd waits gone
      · exact sent
    · simp [wasAnswered]

/-- A request that the peer acknowledges. -/
theorem connect_answered_once_acked :
    ∃ (events later : List Event) (next final : Session 1),
      (Session.new 1).step .debug (.startConnecting .quiet .sample []) = some (next, events) ∧
      Run (Session.step .debug) Session.keepsAnswers next later final ∧
      .opened .first .first 0 ∈ later ∧ answers 0 ([] ++ events ++ later) = 1 := by
  obtain ⟨⟨next, events⟩, given, executed⟩ := Option.bind_eq_some_iff.mp
    (show (Session.step .debug (Session.new 1) (.startConnecting .quiet .sample [])).bind
        (fun started =>
          (exec (Session.step .debug) Session.keepsAnswers started.1
            [.processInbound .quiet ⟨.ack .first .first, []⟩]).map
            fun reached => (reached.1.table.conns, decide (.opened .first .first 0 ∈ reached.2))) =
        some (#v[.occupied ⟨.opened .first, 0⟩], true) by decide +kernel)
  obtain ⟨later, final, run, observed⟩ :=
    exists_run_of_exec (Session.step .debug) Session.keepsAnswers next _ _ executed
  obtain ⟨conns, opened⟩ := Prod.mk.inj observed
  refine ⟨events, later, next, final, given, run, of_decide_eq_true opened, ?_⟩
  apply (connect_answered_once .refl (by decide +kernel) given run).2
  rintro ⟨id, channel, found⟩
  rw [ConnTable.entry, conns] at found
  have member := Vector.mem_of_getElem? found
  simp at member

/-- A reset of a connecting socket drops its response sender. -/
theorem connect_not_answered :
    ¬ ∀ (past events later : List Event) (session next final : Session 1)
        (locals : Locals) (identity : Identity) (hello : List UInt8),
      Run (Session.step .debug) anyStep (Session.new 1) past session →
      session.step .debug (.startConnecting locals identity hello) = some (next, events) →
      Run (Session.step .debug) anyStep next later final →
      ¬ final.table.Waits session.freshChannel →
        answers session.freshChannel (past ++ events ++ later) = 1 := by
  intro always
  obtain ⟨⟨next, events⟩, given, executed⟩ := Option.bind_eq_some_iff.mp
    (show (Session.step .debug (Session.new 1) (.startConnecting .quiet .sample [])).bind
        (fun started =>
          (exec (Session.step .debug) anyStep started.1
            [.processInbound .quiet ⟨.reset .first .goAway, []⟩]).map
            fun reached => (reached.1.table.conns, answers 0 (started.2 ++ reached.2))) =
        some (#v[.closed ⟨2, by decide⟩], 0) by decide +kernel)
  obtain ⟨later, final, run, observed⟩ :=
    exists_run_of_exec (Session.step .debug) anyStep next _ _ executed
  obtain ⟨conns, unanswered⟩ := Prod.mk.inj observed
  have answeredOnce := always [] events later (.new 1) next final .quiet .sample [] .refl
    given run (by
      rintro ⟨id, channel, found⟩
      rw [ConnTable.entry, conns] at found
      have member := Vector.mem_of_getElem? found
      simp at member)
  simp only [List.nil_append] at answeredOnce
  change answers 0 (events ++ later) = 1 at answeredOnce
  rw [unanswered] at answeredOnce
  contradiction

end Runs

end Calliope

end Mgnp
