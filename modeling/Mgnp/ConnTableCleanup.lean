import Mgnp.ConnTableSockets
import Mgnp.LabelledRuns

/-!
# What the deferred cleanup removes

`next_outbound` marks a socket as dead and the next call removes whatever is
then stored under its id.  As long as no operation hands out the marked id in
between, that is the socket that was marked.  A reset of the marked connection
followed by a new one breaks this, as the run at the end shows.
-/

namespace Mgnp

namespace Calliope

open ExceptRules LabelledRuns

/-- After this event, the id may name another socket or another id may be marked. -/
def Event.renews (id : Id) : Event → Prop
  | .started inserted _ => inserted = id
  | .accepted inserted _ _ => inserted = id
  | .markedDead _ _ => True
  | _ => False

/-- The last marking put this id in the dead index on account of this channel,
and no socket has been inserted under the id since. -/
def MarkedLast (history : List Event) (id : Id) (channel : Nat) : Prop :=
  ∃ earlier since, history = earlier ++ .markedDead id channel :: since ∧
    ∀ event ∈ since, ¬ event.renews id

theorem MarkedLast.append {history events : List Event} {id : Id} {channel : Nat}
    (marked : MarkedLast history id channel)
    (quiet : ∀ event ∈ events, ¬ event.renews id) :
    MarkedLast (history ++ events) id channel := by
  obtain ⟨earlier, since, rfl, unrenewed⟩ := marked
  refine ⟨earlier, since ++ events, by simp, ?_⟩
  intro event member
  rcases List.mem_append.mp member with before | after
  · exact unrenewed event before
  · exact quiet event after

/-- The map agrees with the history about the dead index: a socket under the
marked id is the one that was marked. -/
def DeadTracked (history : List Event) (view : Sockets) : Prop :=
  ∀ id, view.dead = some id → ∃ channel, MarkedLast history id channel ∧
    ∀ socket, view.socket id = some socket → socket.channel = channel

/-- What an operation may do to the marked id: nothing except to remove its
socket or to change its state. -/
def SparesDead (view next : Sockets) (events : List Event) : Prop :=
  next.dead = view.dead ∧ ∀ id, view.dead = some id →
    (∀ event ∈ events, ¬ event.renews id) ∧
    ∀ socket, next.socket id = some socket →
      ∃ old, view.socket id = some old ∧ old.channel = socket.channel

section Steps

variable {view next : Sockets} {history events : List Event}
  {frame : Option OutboundFrame} {account : Option Nat} {locals : Locals}

theorem DeadTracked.of_spares (tracked : DeadTracked history view)
    (spares : SparesDead view next events) (sent : List OutboundFrame) :
    DeadTracked (history ++ (events ++ sent.map (.emitted · account))) next := by
  intro id marked
  rw [spares.1] at marked
  obtain ⟨channel, markedLast, sameChannel⟩ := tracked id marked
  obtain ⟨unrenewed, kept⟩ := spares.2 id marked
  refine ⟨channel, markedLast.append ?_, ?_⟩
  · intro event member
    rcases List.mem_append.mp member with old | emitted
    · exact unrenewed event old
    · obtain ⟨_, -, rfl⟩ := List.mem_map.mp emitted
      simp [Event.renews]
  · intro socket found
    obtain ⟨old, oldFound, sameOld⟩ := kept socket found
    rw [← sameOld, sameChannel old oldFound]

theorem SparesDead.of_same (unrenewed : ∀ id, ∀ event ∈ events, ¬ event.renews id) :
    SparesDead view view events :=
  ⟨rfl, fun id _ => ⟨unrenewed id, fun socket found => ⟨socket, found, rfl⟩⟩⟩

theorem SparesDead.of_erase {id : Id}
    (unrenewed : ∀ id, ∀ event ∈ events, ¬ event.renews id) :
    SparesDead view (view.erase id) events := by
  refine ⟨rfl, fun dead _ => ⟨unrenewed dead, ?_⟩⟩
  intro socket found
  exact ⟨socket, (Sockets.socket_erase_eq_some_iff.mp found).2, rfl⟩

/-- Inserting under an id other than the marked one. -/
theorem SparesDead.of_insert {id : Id} {socket : Socket}
    (spared : view.dead ≠ some id)
    (unrenewed : ∀ dead, dead ≠ id → ∀ event ∈ events, ¬ event.renews dead) :
    SparesDead view (view.put id socket) events := by
  refine ⟨rfl, fun dead marked => ?_⟩
  have different : dead ≠ id := by
    rintro rfl
    exact spared marked
  refine ⟨unrenewed dead different, ?_⟩
  intro found foundAt
  rw [Sockets.socket_put_of_ne view socket different] at foundAt
  exact ⟨found, foundAt, rfl⟩

theorem Sockets.Starts.sparesDead {reserved : Option Id} {connect : OutboundConnect}
    (starts : view.Starts reserved connect next frame account events)
    (spared : ∀ id ∈ reserved, view.dead ≠ some id) :
    SparesDead view next events := by
  cases starts with
  | full isFull =>
      apply SparesDead.of_same
      simp [Event.renews]
  | started isReserved free =>
      apply SparesDead.of_insert (spared _ isReserved)
      simp [Event.renews, eq_comm]

/-- Opening a socket keeps its channel. -/
theorem SparesDead.of_open {id remoteId : Id} {rsp channel : Nat}
    (isConnecting : view.socket id = some ⟨.connecting rsp, channel⟩)
    (unrenewed : ∀ id, ∀ event ∈ events, ¬ event.renews id) :
    SparesDead view (view.put id ⟨.opened remoteId, channel⟩) events := by
  refine ⟨rfl, fun dead _ => ⟨unrenewed dead, ?_⟩⟩
  intro socket found
  rcases Sockets.socket_put_eq_some_iff.mp found with ⟨rfl, rfl⟩ | ⟨-, unchanged⟩
  · exact ⟨_, isConnecting, rfl⟩
  · exact ⟨socket, unchanged, rfl⟩

theorem Sockets.Receives.sparesDead {granted : Option Id} {channel : Nat} {header : Header}
    (receives : view.Receives locals granted channel header next frame account events)
    (spared : ∀ id ∈ granted, view.dead ≠ some id) :
    SparesDead view next events := by
  cases receives with
  | dataStray =>
      apply SparesDead.of_same
      simp
  | dataDelivered =>
      apply SparesDead.of_same
      simp [Event.renews]
  | dataFailed =>
      apply SparesDead.of_erase
      simp [Event.renews]
  | ackStray =>
      apply SparesDead.of_same
      simp
  | ackOpened isConnecting =>
      apply SparesDead.of_open isConnecting
      simp [Event.renews]
  | ackAbandoned isConnecting =>
      apply SparesDead.of_open isConnecting
      simp [Event.renews]
  | rejected =>
      apply SparesDead.of_erase
      intro id
      apply ConnTable.forall_rejected
      · simp [Event.renews]
      · simp [Event.renews]
  | reset =>
      apply SparesDead.of_erase
      intro id
      apply ConnTable.forall_reset
      · simp [Event.renews]
      · simp [Event.renews]
  | connectAccepted isGranted =>
      apply SparesDead.of_insert (spared _ isGranted)
      simp [Event.renews, eq_comm]
  | connectRefused =>
      apply SparesDead.of_same
      simp

/-- Polling first clears the dead index, so a marking is the last event before
the frame. -/
theorem Sockets.Sends.deadTracked
    (sends : view.cleaned.Sends locals next frame account events)
    (sent : List OutboundFrame) :
    DeadTracked (history ++ (view.cleanupEvents ++ events ++
      sent.map (.emitted · account))) next := by
  cases sends with
  | idle =>
      intro id marked
      simp at marked
  | data =>
      intro id marked
      simp at marked
  | @closed id remoteId channel error reason isOpen streamClosed =>
      intro marked isMarked
      obtain rfl : id = marked := by simpa using isMarked
      refine ⟨channel, ⟨history ++ view.cleanupEvents, sent.map (.emitted · (some channel)),
        ?_, ?_⟩, ?_⟩
      · simp
      · intro event member
        obtain ⟨_, -, rfl⟩ := List.mem_map.mp member
        simp [Event.renews]
      · intro socket found
        rw [isOpen] at found
        obtain rfl := Option.some.inj found
        rfl

end Steps

section Runs

variable {capacity : Nat} {build : Build}

/-- The id that a step hands out. -/
def Session.grants (session : Session capacity) : Action → Option Id
  | .startConnecting _ _ _ => session.table.reserveId
  | .processInbound locals frame => session.table.granted locals frame
  | .nextOutbound _ => none

/-- The step does not hand out the id that is marked dead. -/
def Session.sparesDead (session : Session capacity) (action : Action) : Prop :=
  ∀ id ∈ session.grants action, session.table.deadIndex ≠ some id

instance (session : Session capacity) (action : Action) :
    Decidable (session.sparesDead action) :=
  inferInstanceAs (Decidable (∀ id ∈ session.grants action, _))

/-- The run invariant. -/
def Session.Tracked (history : List Event) (session : Session capacity) : Prop :=
  ∃ view, session.table.Shows view ∧ DeadTracked history view

theorem Session.tracked_step {history events : List Event} {session next : Session capacity}
    {action : Action} (tracked : session.Tracked history)
    (spared : session.sparesDead action)
    (stepTo : session.step build action = some (next, events)) :
    next.Tracked (history ++ events) := by
  obtain ⟨view, agrees, deadTracked⟩ := tracked
  rcases session.step_cases stepTo with ⟨message, -, rfl, rfl⟩ | ⟨outcome, operated, rfl, rfl⟩
  · exact ⟨view, agrees, by simpa using deadTracked⟩
  have viewSpared : ∀ id ∈ session.grants action, view.dead ≠ some id := by
    rw [← agrees.dead_eq]
    exact spared
  cases action with
  | startConnecting locals identity hello =>
      obtain ⟨after, holds, starts⟩ := agrees.startConnecting _ outcome operated
      exact ⟨after, holds, deadTracked.of_spares (starts.sparesDead viewSpared) _⟩
  | processInbound locals frame =>
      obtain ⟨after, holds, receives⟩ := agrees.processInbound _ frame outcome operated
      exact ⟨after, holds, deadTracked.of_spares (receives.sparesDead viewSpared) _⟩
  | nextOutbound locals =>
      obtain ⟨after, polled, holds, sends, eventsEq⟩ :=
        agrees.nextOutbound build outcome operated
      rw [eventsEq]
      exact ⟨after, holds, sends.deadTracked _⟩

theorem Session.tracked_run {history : List Event} {final : Session capacity}
    (run : Run (Session.step build) Session.sparesDead (Session.new capacity) history final) :
    final.Tracked history := by
  apply run.invariant fun past session => session.Tracked past
  · exact ⟨.empty, .new capacity, fun id marked => by simp [Sockets.empty] at marked⟩
  · intro past events session next action tracked spared stepTo
    exact Session.tracked_step tracked spared stepTo

end Runs

section Cleanup

variable {view next : Sockets} {events : List Event}
  {frame : Option OutboundFrame} {account : Option Nat} {locals : Locals}
  {id : Id} {removed : Option Socket}

theorem Sockets.Starts.not_cleanedUp {reserved : Option Id} {connect : OutboundConnect}
    (starts : view.Starts reserved connect next frame account events) :
    .cleanedUp id removed ∉ events := by
  cases starts <;> simp

theorem Sockets.Receives.not_cleanedUp {granted : Option Id} {channel : Nat} {header : Header}
    (receives : view.Receives locals granted channel header next frame account events) :
    .cleanedUp id removed ∉ events := by
  cases receives with
  | rejected =>
      intro member
      rcases List.mem_cons.mp member with same | answer
      · contradiction
      · obtain ⟨_, _, same⟩ := ConnTable.mem_answerRejected answer
        contradiction
  | reset =>
      intro member
      rcases List.mem_cons.mp member with same | close
      · contradiction
      · obtain ⟨_, same⟩ := ConnTable.mem_closeReset close
        contradiction
  | dataStray | dataDelivered | dataFailed | ackStray | ackOpened | ackAbandoned
  | connectAccepted | connectRefused => simp

theorem Sockets.Sends.not_cleanedUp
    (sends : view.Sends locals next frame account events) :
    .cleanedUp id removed ∉ events := by
  cases sends <;> simp

theorem not_cleanedUp_emitted (sent : List OutboundFrame) :
    Event.cleanedUp id removed ∉ sent.map (.emitted · account) := by
  simp

end Cleanup

section Runs

variable {capacity : Nat} {build : Build}

/-- A cleanup is the first event of its step, and removes the socket found under
the marked id. -/
theorem Session.step_cleanedUp {session next : Session capacity} {action : Action}
    {first rest : List Event} {id : Id} {removed : Option Socket} {view : Sockets}
    (agrees : session.table.Shows view)
    (stepTo : session.step build action = some (next, first ++ .cleanedUp id removed :: rest)) :
    first = [] ∧ view.dead = some id ∧ removed = view.socket id := by
  have occurs : Event.cleanedUp id removed ∈ first ++ .cleanedUp id removed :: rest := by simp
  rcases session.step_cases stepTo with ⟨message, -, -, noEvents⟩ | ⟨outcome, operated, -, split⟩
  · simp at noEvents
  rw [split] at occurs
  cases action with
  | startConnecting locals identity hello =>
      obtain ⟨after, -, starts⟩ := agrees.startConnecting _ outcome operated
      rcases List.mem_append.mp occurs with own | sent
      · exact absurd own starts.not_cleanedUp
      · exact absurd sent (not_cleanedUp_emitted _)
  | processInbound locals frame =>
      obtain ⟨after, -, receives⟩ := agrees.processInbound _ frame outcome operated
      rcases List.mem_append.mp occurs with own | sent
      · exact absurd own receives.not_cleanedUp
      · exact absurd sent (not_cleanedUp_emitted _)
  | nextOutbound locals =>
      obtain ⟨after, polled, -, sends, eventsEq⟩ :=
        agrees.nextOutbound build outcome operated
      rw [eventsEq, List.append_assoc] at split
      have others : Event.cleanedUp id removed ∉
          polled ++ outcome.frame.toList.map (.emitted · outcome.account) := by
        intro member
        rcases List.mem_append.mp member with own | sent
        · exact sends.not_cleanedUp own
        · exact not_cleanedUp_emitted _ sent
      unfold Sockets.cleanupEvents at split
      cases dead : view.dead with
      | none =>
          rw [dead] at split
          exact absurd (split ▸ by simp) others
      | some deadId =>
          rw [dead] at split
          cases first with
          | nil =>
              obtain ⟨⟨rfl, rfl⟩, -⟩ := by simpa using split
              exact ⟨rfl, rfl, rfl⟩
          | cons head tail =>
              obtain ⟨-, tailEq⟩ := by simpa using split
              exact absurd (tailEq ▸ by simp) others

/-- In every run in which no step hands out the id that is marked dead, a socket
removed by the deferred cleanup is the socket whose closure marked the id: no
other socket has been marked or inserted under the id since. -/
theorem cleanup_removes_marked {history : List Event} {final : Session capacity}
    (run : Run (Session.step build) Session.sparesDead (Session.new capacity) history final)
    {past later : List Event} {id : Id} {socket : Socket}
    (occurs : history = past ++ .cleanedUp id (some socket) :: later) :
    MarkedLast past id socket.channel := by
  obtain ⟨pre, first, rest, last, before, action, after, rfl, -, prefixRun, -, stepTo, -⟩ :=
    run.split_event occurs
  obtain ⟨view, agrees, tracked⟩ := Session.tracked_run prefixRun
  obtain ⟨rfl, marked, found⟩ := Session.step_cleanedUp agrees stepTo
  obtain ⟨channel, markedLast, sameChannel⟩ := tracked id marked
  rw [List.append_nil, sameChannel socket found.symm]
  exact markedLast

/-- An accepted connection whose stream closes is marked and then cleaned up. -/
theorem cleanup_removes_marked_accepted :
    ∃ history final past, Run (Session.step .debug) Session.sparesDead (Session.new 1)
        history final ∧
      history = past ++ [.cleanedUp .first (some ⟨.opened .first, 0⟩)] ∧
      MarkedLast past .first 0 := by
  obtain ⟨history, final, run, observed⟩ :=
    exists_run_of_exec (Session.step .debug) Session.sparesDead (Session.new 1)
      [.processInbound .quiet ⟨.connect .first .sample, []⟩, .nextOutbound .streamClosed,
        .nextOutbound .quiet]
      (fun reached => reached.2)
      (show _ = some
        ([.accepted .first .first 0, .emitted (.ack .first .first) (some 0),
          .markedDead .first 0, .emitted (.reset .first .becauseISaidSo) (some 0)] ++
          [.cleanedUp .first (some ⟨.opened .first, 0⟩)]) by decide +kernel)
  exact ⟨history, final, _, run, observed, cleanup_removes_marked run observed⟩

/-- The marked connection is reset by its peer before the cleanup, a new one is
accepted under its id, and the cleanup removes the new one. -/
theorem cleanup_removes_other :
    ¬ ∀ history (final : Session 1),
      Run (Session.step .debug) anyStep (Session.new 1) history final →
      ∀ past later id socket, history = past ++ .cleanedUp id (some socket) :: later →
        MarkedLast past id socket.channel := by
  intro always
  obtain ⟨history, final, run, observed⟩ :=
    exists_run_of_exec (Session.step .debug) anyStep (Session.new 1)
      [.processInbound .quiet ⟨.connect .first .sample, []⟩, .nextOutbound .streamClosed,
        .processInbound .quiet ⟨.reset .first .goAway, []⟩,
        .processInbound .quiet ⟨.connect .first .sample, []⟩, .nextOutbound .quiet]
      (fun reached => reached.2)
      (show _ = some
        ([.accepted .first .first 0, .emitted (.ack .first .first) (some 0),
          .markedDead .first 0, .emitted (.reset .first .becauseISaidSo) (some 0),
          .reset .first (some ⟨.opened .first, 0⟩), .closedWithError 0 .goAway,
          .accepted .first .first 3, .emitted (.ack .first .first) (some 3)] ++
          [.cleanedUp .first (some ⟨.opened .first, 3⟩)]) by decide +kernel)
  obtain ⟨earlier, since, split, -⟩ := always history final run _ [] _ _ observed
  have unmarked : Event.markedDead .first 3 ∉
      [Event.accepted .first .first 0, .emitted (.ack .first .first) (some 0),
        .markedDead .first 0, .emitted (.reset .first .becauseISaidSo) (some 0),
        .reset .first (some ⟨.opened .first, 0⟩), .closedWithError 0 .goAway,
        .accepted .first .first 3, .emitted (.ack .first .first) (some 3)] := by decide
  apply unmarked
  rw [split]
  simp

end Runs

end Calliope

end Mgnp
