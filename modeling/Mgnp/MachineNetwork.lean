import Mgnp.Machine

/-!
# Two machines as two maps of sockets

The tables of the two machines are replaced by the maps they show.  A step of
the machines is then one of four moves, each of which acts through the
relations that say what a table operation can do.
-/

namespace Mgnp

namespace Calliope

open ExceptRules LabelledRuns

structure Network where
  sockets : Side → Sockets
  /-- The frames on the wire of each side, oldest first. -/
  sent : Side → List Tagged
  closed : Side → List Nat
  fresh : Nat

namespace Network

def empty : Network := ⟨fun _ => .empty, fun _ => [], fun _ => [], 0⟩

def perform (net : Network) (side : Side) (next : Sockets) (sends : List Tagged) : Network :=
  { net with
    sockets := Function.update net.sockets side next
    sent := Function.update net.sent side (net.sent side ++ sends) }

/-- Take the oldest frame from the wire towards `side`. -/
def takeFrame (net : Network) (side : Side) (rest : List Tagged) : Network :=
  { net with sent := Function.update net.sent side.other rest }

def clean (net : Network) (side : Side) : Network :=
  { net with sockets := Function.update net.sockets side (net.sockets side).cleaned }

def closeStream (net : Network) (side : Side) (connection : Nat) : Network :=
  { net with closed := Function.update net.closed side (connection :: net.closed side) }

section Updates

variable (net : Network) (side : Side) (next : Sockets) (sends rest : List Tagged)
  (connection : Nat)

@[simp] theorem sockets_perform_self : (net.perform side next sends).sockets side = next :=
  Function.update_self ..

@[simp] theorem sockets_perform_other :
    (net.perform side next sends).sockets side.other = net.sockets side.other :=
  Function.update_of_ne side.other_ne ..

@[simp] theorem sent_perform_self :
    (net.perform side next sends).sent side = net.sent side ++ sends :=
  Function.update_self ..

@[simp] theorem sent_perform_other :
    (net.perform side next sends).sent side.other = net.sent side.other :=
  Function.update_of_ne side.other_ne ..

@[simp] theorem closed_perform : (net.perform side next sends).closed = net.closed := rfl

@[simp] theorem fresh_perform : (net.perform side next sends).fresh = net.fresh := rfl

@[simp] theorem sockets_takeFrame : (net.takeFrame side rest).sockets = net.sockets := rfl

@[simp] theorem sent_takeFrame_self : (net.takeFrame side rest).sent side = net.sent side :=
  Function.update_of_ne side.ne_other ..

@[simp] theorem sent_takeFrame_other : (net.takeFrame side rest).sent side.other = rest :=
  Function.update_self ..

@[simp] theorem closed_takeFrame : (net.takeFrame side rest).closed = net.closed := rfl

@[simp] theorem fresh_takeFrame : (net.takeFrame side rest).fresh = net.fresh := rfl

@[simp] theorem sockets_clean_self :
    (net.clean side).sockets side = (net.sockets side).cleaned :=
  Function.update_self ..

@[simp] theorem sockets_clean_other :
    (net.clean side).sockets side.other = net.sockets side.other :=
  Function.update_of_ne side.other_ne ..

@[simp] theorem sent_clean : (net.clean side).sent = net.sent := rfl

@[simp] theorem closed_clean : (net.clean side).closed = net.closed := rfl

@[simp] theorem fresh_clean : (net.clean side).fresh = net.fresh := rfl

@[simp] theorem sockets_closeStream :
    (net.closeStream side connection).sockets = net.sockets := rfl

@[simp] theorem sent_closeStream : (net.closeStream side connection).sent = net.sent := rfl

@[simp] theorem fresh_closeStream : (net.closeStream side connection).fresh = net.fresh := rfl

theorem clean_eq_perform (net : Network) (side : Side) :
    net.clean side = net.perform side (net.sockets side).cleaned [] := by
  simp [clean, perform]

/-- Cleaning up first changes nothing that the operation does not replace. -/
theorem perform_clean :
    (net.clean side).perform side next sends = net.perform side next sends := by
  simp [perform, clean]

end Updates

/-- What a move of one side can do, when its table hands out `granted`. -/
inductive Step (net : Network) (side : Side) (granted : Option Id) :
    Move → Network → List Occurrence → Prop
  | receive {locals : Locals} {tagged : Tagged} {rest : List Tagged} {next : Sockets}
      {frame : Option OutboundFrame} {account : Option Nat} {events : List Event}
      (head : net.sent side.other = tagged :: rest)
      (receives : (net.sockets side).Receives (locals.within (net.closed side)) granted
        tagged.connection tagged.frame.header next frame account events) :
      Step net side granted (.receive locals)
        ((net.takeFrame side rest).perform side next (Tagged.send tagged.connection frame))
        (events.map (⟨side, some tagged.connection, ·⟩))
  | poll {locals : Locals} {next : Sockets} {frame : Option OutboundFrame}
      {account : Option Nat} {events : List Event}
      (sends : (net.sockets side).cleaned.Sends (locals.within (net.closed side))
        next frame account events) :
      Step net side granted (.poll locals)
        ((net.clean side).perform side next (Tagged.send (account.getD 0) frame))
        (((net.sockets side).cleanupEvents ++ events).map (⟨side, none, ·⟩))
  | connect {locals : Locals} {identity : Identity} {hello : List UInt8} {next : Sockets}
      {frame : Option OutboundFrame} {account : Option Nat} {events : List Event}
      (starts : (net.sockets side).cleaned.Starts granted
        ⟨identity, hello, net.fresh, net.fresh⟩ next frame account events) :
      Step net side granted (.connect locals identity hello)
        { (net.clean side).perform side next (Tagged.send net.fresh frame) with
          fresh := net.fresh + 1 }
        (((net.sockets side).cleanupEvents ++ events).map (⟨side, none, ·⟩))
  | close (connection : Nat) :
      Step net side granted (.close connection) (net.closeStream side connection) []

/-- The events of connect requests and of polls. -/
def ofOwnMove : Event → Bool
  | .started _ _ | .answered _ _ _ | .markedDead _ _ | .cleanedUp _ _ => true
  | .accepted _ _ _ | .opened _ _ _ | .delivered _ _ | .undeliverable _ _ | .rejected _ _
  | .reset _ _ | .closedWithError _ _ | .emitted _ _ => false

theorem ofOwnMove_cleanupEvents {view : Sockets} {event : Event}
    (member : event ∈ view.cleanupEvents) : ofOwnMove event = true := by
  obtain ⟨id, removed, rfl⟩ := Sockets.mem_cleanupEvents member
  rfl

theorem ofOwnMove_sends {locals : Locals} {view after : Sockets} {frame : Option OutboundFrame}
    {account : Option Nat} {events : List Event} {event : Event}
    (sends : view.Sends locals after frame account events) (member : event ∈ events) :
    ofOwnMove event = true := by
  cases sends with
  | idle => cases member
  | data isOpen => cases member
  | closed isOpen streamClosed =>
      rw [List.mem_singleton.mp member]
      rfl

theorem ofOwnMove_starts {granted : Option Id} {connect : OutboundConnect}
    {view after : Sockets} {frame : Option OutboundFrame} {account : Option Nat}
    {events : List Event} {event : Event}
    (starts : view.Starts granted connect after frame account events)
    (member : event ∈ events) : ofOwnMove event = true := by
  cases starts with
  | full isFull =>
      rw [List.mem_singleton.mp member]
      rfl
  | started isReserved free =>
      rw [List.mem_singleton.mp member]
      rfl

/-- Any other event is that of a frame that the side receives. -/
theorem Step.receives {net after : Network} {side who : Side} {granted : Option Id}
    {move : Move} {occurred : List Occurrence} {answering : Option Nat} {event : Event}
    (moves : net.Step side granted move after occurred)
    (occurs : ⟨who, answering, event⟩ ∈ occurred) (foreign : ofOwnMove event = false) :
    ∃ locals tagged rest next frame account events,
      who = side ∧ answering = some tagged.connection ∧ net.sent side.other = tagged :: rest ∧
      (net.sockets side).Receives locals granted tagged.connection tagged.frame.header
        next frame account events ∧
      event ∈ events := by
  cases moves with
  | receive head receives =>
      obtain ⟨own, member, same⟩ := List.mem_map.mp occurs
      cases same
      exact ⟨_, _, _, _, _, _, _, rfl, rfl, head, receives, member⟩
  | poll sends =>
      obtain ⟨own, member, same⟩ := List.mem_map.mp occurs
      cases same
      rcases List.mem_append.mp member with cleanup | sent
      · cases foreign.symm.trans (ofOwnMove_cleanupEvents cleanup)
      · cases foreign.symm.trans (ofOwnMove_sends sends sent)
  | connect starts =>
      obtain ⟨own, member, same⟩ := List.mem_map.mp occurs
      cases same
      rcases List.mem_append.mp member with cleanup | started
      · cases foreign.symm.trans (ofOwnMove_cleanupEvents cleanup)
      · cases foreign.symm.trans (ofOwnMove_starts starts started)
  | close connection => cases occurs

end Network

/-- When `next_outbound` is pending, it has only cleaned up. -/
theorem ConnTable.cleanupDead_of_pending {capacity : Nat} {build : Build} {locals : Locals}
    {table after : ConnTable capacity} {account : Option Nat} {events : List Event}
    (pending : table.nextOutbound build locals = .ok ⟨after, none, account, events⟩) :
    table.cleanupDead = .ok (after, events) := by
  unfold ConnTable.nextOutbound at pending
  cases cleanup : table.cleanupDead with
  | error message =>
      rw [cleanup] at pending
      contradiction
  | ok result =>
      rw [cleanup] at pending
      obtain ⟨cleaned, cleanupEvents⟩ := result
      dsimp only [bind, Except.bind] at pending
      split at pending
      · contradiction
      · split at pending
        · obtain ⟨rfl, -, -, rfl⟩ := by simpa [pure, Except.pure] using pending
          rfl
        · simp [pure, Except.pure] at pending
        · simp [pure, Except.pure] at pending

namespace World

variable {capacity : Side → Nat} {world next : World capacity} {net : Network}

/-- The id that a step hands out. -/
def grants (world : World capacity) (action : WorldAction) : Option Id :=
  let own := world.machine action.side
  match action.move with
  | .receive locals =>
      (world.machine action.side.other).sent.head?.bind fun tagged =>
        own.table.granted (locals.within own.closed) tagged.frame.received
  | .connect _ _ _ =>
      match own.table.cleanupDead with
      | .ok (table, _) => table.reserveId
      | .error _ => none
  | .poll _ | .close _ => none

/-- The network has the sockets, wires and closed streams of the machines. -/
structure Shows (world : World capacity) (net : Network) : Prop where
  tables : ∀ side, (world.machine side).table.Shows (net.sockets side)
  sent : ∀ side, (world.machine side).sent = net.sent side
  closed : ∀ side, (world.machine side).closed = net.closed side
  fresh : world.freshConnection = net.fresh

theorem Shows.new (capacity : Side → Nat) : Shows (World.new capacity) .empty where
  tables side := .new (capacity side)
  sent _ := rfl
  closed _ := rfl
  fresh := rfl

theorem Shows.perform (agrees : Shows world net) (side : Side)
    {outcome : Outcome (capacity side)} {after : Sockets}
    (tableShows : outcome.table.Shows after) (connection : Nat) :
    Shows (world.perform side outcome connection)
      (net.perform side after (Tagged.send connection outcome.frame)) where
  tables other := by
    rcases other.eq_or_eq_other side with rfl | rfl
    · simpa [World.perform] using tableShows
    · simpa [World.perform] using agrees.tables side.other
  sent other := by
    rcases other.eq_or_eq_other side with rfl | rfl
    · simp [World.perform, agrees.sent]
    · simp [World.perform, agrees.sent]
  closed other := by
    rcases other.eq_or_eq_other side with rfl | rfl
    · simp [World.perform, agrees.closed]
    · simp [World.perform, agrees.closed]
  fresh := agrees.fresh

theorem Shows.takeFrame (agrees : Shows world net) (side : Side) (rest : List Tagged) :
    Shows (world.takeFrame side.other rest) (net.takeFrame side rest) where
  tables other := by
    rcases other.eq_or_eq_other side with rfl | rfl
    · simpa [World.takeFrame] using agrees.tables other
    · simpa [World.takeFrame] using agrees.tables side.other
  sent other := by
    rcases other.eq_or_eq_other side with rfl | rfl
    · simp [World.takeFrame, agrees.sent]
    · simp [World.takeFrame]
  closed other := by
    rcases other.eq_or_eq_other side with rfl | rfl
    · simp [World.takeFrame, agrees.closed]
    · simp [World.takeFrame, agrees.closed]
  fresh := agrees.fresh

theorem Shows.closeStream (agrees : Shows world net) (side : Side) (connection : Nat) :
    Shows { world with
        machine := Function.update world.machine side
          { world.machine side with closed := connection :: (world.machine side).closed } }
      (net.closeStream side connection) where
  tables other := by
    rcases other.eq_or_eq_other side with rfl | rfl
    · simpa using agrees.tables other
    · simpa using agrees.tables side.other
  sent other := by
    rcases other.eq_or_eq_other side with rfl | rfl
    · simp [agrees.sent]
    · simp [agrees.sent]
  closed other := by
    rcases other.eq_or_eq_other side with rfl | rfl
    · simp [Network.closeStream, agrees.closed]
    · simp [Network.closeStream, agrees.closed]
  fresh := agrees.fresh

/-- Every step of the machines is a move of the network they show. -/
theorem Shows.step {build : Build} {action : WorldAction} {occurred : List Occurrence}
    (agrees : Shows world net) (stepTo : world.step build action = some (next, occurred)) :
    ∃ after, Shows next after ∧
      net.Step action.side (world.grants action) action.move after occurred := by
  cases World.step_cases stepTo with
  | @receive side locals tagged rest outcome head processed =>
      have sentEq := (agrees.sent side.other).symm.trans head
      obtain ⟨after, tableShows, receives⟩ :=
        (agrees.tables side).processInbound tagged.connection _ outcome processed
      refine ⟨_, (agrees.takeFrame side rest).perform side tableShows _, ?_⟩
      rw [agrees.closed side] at receives
      unfold World.grants
      dsimp only
      rw [head, agrees.closed side]
      exact .receive sentEq receives
  | @poll side locals outcome polled =>
      rw [agrees.closed side] at polled
      obtain ⟨after, events, tableShows, sends, eventsEq⟩ :=
        (agrees.tables side).nextOutbound build outcome polled
      refine ⟨_, agrees.perform side tableShows _, ?_⟩
      rw [eventsEq, ← Network.perform_clean]
      exact .poll sends
  | @connect side locals identity hello table account cleanup outcome pending started =>
      rw [agrees.closed side] at pending started
      have cleanedUp := ConnTable.cleanupDead_of_pending pending
      obtain ⟨tableCleaned, rfl⟩ := (agrees.tables side).cleanupDead _ cleanedUp
      obtain ⟨after, tableShows, starts⟩ := tableCleaned.startConnecting _ outcome started
      rw [agrees.fresh] at starts ⊢
      have performed := agrees.perform side tableShows net.fresh
      refine ⟨{ net.perform side after (Tagged.send net.fresh outcome.frame) with
          fresh := net.fresh + 1 },
        ⟨performed.tables, performed.sent, performed.closed, rfl⟩, ?_⟩
      unfold World.grants
      dsimp only
      rw [cleanedUp, ← Network.perform_clean]
      exact .connect starts
  | close side connection =>
      exact ⟨_, agrees.closeStream side connection, .close connection⟩

end World

end Calliope

end Mgnp
