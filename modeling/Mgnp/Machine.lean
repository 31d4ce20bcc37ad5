import Mgnp.ConnTableSockets
import Mgnp.LabelledRuns

/-!
# Two machines and two wires

This file translates the loop of `Machine::run` in `lib.rs` and joins two
machines by reliable FIFO wires.  One iteration of the loop is one step.  While
an iteration waits for channel capacity or for the registry its machine does
nothing else, so the step stands at the end of that wait.

Every connect request gets a new connection number, which names the channel and
the response sender it comes with and the channel that the peer's registry opens
for it.  Frames on a wire carry the number of the connection they were sent for,
or whose frame they answer.  The code never reads these numbers.
-/

namespace Mgnp

namespace Calliope

open ExceptRules LabelledRuns

inductive Side
  | left
  | right
  deriving DecidableEq

def Side.other : Side → Side
  | .left => .right
  | .right => .left

@[simp] theorem Side.other_other (side : Side) : side.other.other = side := by
  cases side <;> rfl

@[simp] theorem Side.other_ne (side : Side) : side.other ≠ side := by
  cases side <;> simp [other]

@[simp] theorem Side.ne_other (side : Side) : side ≠ side.other :=
  side.other_ne.symm

theorem Side.eq_or_eq_other (side acting : Side) : side = acting ∨ side = acting.other := by
  cases side <;> cases acting <;> simp [other]

/-- A frame on a wire, with the connection it is about. -/
structure Tagged where
  connection : Nat
  frame : OutboundFrame
  deriving DecidableEq

/-- The answers of local ends of which only those in `closed` are closed.  A
receive fails and a response sender has lost its receiver only when the stream
has closed: the initiator holds both. -/
def Locals.within (closed : List Nat) (locals : Locals) : Locals :=
  { locals with
    pollRecv := fun channel =>
      match locals.pollRecv channel with
      | some (.error error) => if channel ∈ closed then some (.error error) else none
      | answer => answer
    initiatorAlive := fun rsp => locals.initiatorAlive rsp || rsp ∉ closed }

theorem Locals.mem_closed_of_pollRecv {closed : List Nat} {locals : Locals} {channel : Nat}
    {error : RecvError} (failed : (locals.within closed).pollRecv channel = some (.error error)) :
    channel ∈ closed := by
  simp only [Locals.within] at failed
  split at failed
  · split at failed
    · assumption
    · contradiction
  · rename_i notError
    exact absurd failed (notError error)

theorem Locals.mem_closed_of_initiatorAlive {closed : List Nat} {locals : Locals} {rsp : Nat}
    (gone : (locals.within closed).initiatorAlive rsp = false) : rsp ∈ closed := by
  simp only [Locals.within, Bool.or_eq_false_iff] at gone
  simpa using gone.2

structure Machine (capacity : Nat) where
  table : ConnTable capacity
  /-- The frames it has sent and its peer has not received, oldest first. -/
  sent : List Tagged
  /-- The connections whose local stream has closed. -/
  closed : List Nat

structure World (capacity : Side → Nat) where
  machine : (side : Side) → Machine (capacity side)
  freshConnection : Nat

/-- An event of one machine, with the connection of the frame it is processing. -/
structure Occurrence where
  side : Side
  answering : Option Nat
  event : Event
  deriving DecidableEq

inductive Move
  /-- `wire.recv()` is ready. -/
  | receive (locals : Locals)
  /-- `next_outbound` is polled, and sends a frame if it is ready. -/
  | poll (locals : Locals)
  /-- `next_outbound` is pending and a connect request is ready. -/
  | connect (locals : Locals) (identity : Identity) (hello : List UInt8)
  /-- The local stream of a connection closes. -/
  | close (connection : Nat)

structure WorldAction where
  side : Side
  move : Move

/-- The frame an operation sends, if any. -/
def Tagged.send (connection : Nat) (frame : Option OutboundFrame) : List Tagged :=
  frame.toList.map (⟨connection, ·⟩)

namespace World

variable {capacity : Side → Nat}

def new (capacity : Side → Nat) : World capacity where
  machine side := ⟨.new (capacity side), [], []⟩
  freshConnection := 0

/-- One machine performed an operation and sent its frame. -/
def perform (world : World capacity) (side : Side) (outcome : Outcome (capacity side))
    (connection : Nat) : World capacity :=
  { world with
    machine := Function.update world.machine side
      { world.machine side with
        table := outcome.table
        sent := (world.machine side).sent ++ Tagged.send connection outcome.frame } }

/-- Take the oldest frame from the wire of `side`. -/
def takeFrame (world : World capacity) (side : Side) (rest : List Tagged) :
    World capacity :=
  { world with
    machine := Function.update world.machine side
      { world.machine side with sent := rest } }

/-- One iteration of the loop of `Machine::run`, or a local stream closing. -/
def step (build : Build) (world : World capacity) (action : WorldAction) :
    Option (World capacity × List Occurrence) :=
  let side := action.side
  let own := world.machine side
  match action.move with
  | .receive locals =>
      match (world.machine side.other).sent with
      | [] => none
      | tagged :: rest =>
          match own.table.processInbound (locals.within own.closed) tagged.connection
              tagged.frame.received with
          | .error _ => none
          | .ok outcome =>
              some ((world.takeFrame side.other rest).perform side outcome tagged.connection,
                outcome.events.map (⟨side, some tagged.connection, ·⟩))
  | .poll locals =>
      match own.table.nextOutbound build (locals.within own.closed) with
      | .error _ => none
      | .ok outcome =>
          some (world.perform side outcome (outcome.account.getD 0),
            outcome.events.map (⟨side, none, ·⟩))
  | .connect locals identity hello =>
      match own.table.nextOutbound build (locals.within own.closed) with
      | .ok ⟨table, none, _, events⟩ =>
          let connection := world.freshConnection
          match table.startConnecting (locals.within own.closed)
              ⟨identity, hello, connection, connection⟩ with
          | .error _ => none
          | .ok outcome =>
              some ({ world.perform side outcome connection with
                  freshConnection := connection + 1 },
                (events ++ outcome.events).map (⟨side, none, ·⟩))
      | .ok ⟨_, some _, _, _⟩ | .error _ => none
  | .close connection =>
      some ({ world with
        machine := Function.update world.machine side
          { own with closed := connection :: own.closed } }, [])

/-- What a step can do. -/
inductive Transition (build : Build) (world : World capacity) :
    WorldAction → World capacity → List Occurrence → Prop
  | receive {side : Side} {locals : Locals} {tagged : Tagged} {rest : List Tagged}
      {outcome : Outcome (capacity side)}
      (head : (world.machine side.other).sent = tagged :: rest)
      (processed : (world.machine side).table.processInbound
        (locals.within (world.machine side).closed) tagged.connection tagged.frame.received =
          .ok outcome) :
      Transition build world ⟨side, .receive locals⟩
        ((world.takeFrame side.other rest).perform side outcome tagged.connection)
        (outcome.events.map (⟨side, some tagged.connection, ·⟩))
  | poll {side : Side} {locals : Locals} {outcome : Outcome (capacity side)}
      (polled : (world.machine side).table.nextOutbound build
        (locals.within (world.machine side).closed) = .ok outcome) :
      Transition build world ⟨side, .poll locals⟩
        (world.perform side outcome (outcome.account.getD 0))
        (outcome.events.map (⟨side, none, ·⟩))
  | connect {side : Side} {locals : Locals} {identity : Identity} {hello : List UInt8}
      {table : ConnTable (capacity side)} {account : Option Nat} {cleanup : List Event}
      {outcome : Outcome (capacity side)}
      (pending : (world.machine side).table.nextOutbound build
        (locals.within (world.machine side).closed) = .ok ⟨table, none, account, cleanup⟩)
      (started : table.startConnecting (locals.within (world.machine side).closed)
        ⟨identity, hello, world.freshConnection, world.freshConnection⟩ = .ok outcome) :
      Transition build world ⟨side, .connect locals identity hello⟩
        { world.perform side outcome world.freshConnection with
          freshConnection := world.freshConnection + 1 }
        ((cleanup ++ outcome.events).map (⟨side, none, ·⟩))
  | close (side : Side) (connection : Nat) :
      Transition build world ⟨side, .close connection⟩
        { world with
          machine := Function.update world.machine side
            { world.machine side with closed := connection :: (world.machine side).closed } } []

theorem step_cases {build : Build} {world next : World capacity} {action : WorldAction}
    {occurred : List Occurrence} (stepTo : world.step build action = some (next, occurred)) :
    world.Transition build action next occurred := by
  obtain ⟨side, move⟩ := action
  unfold step at stepTo
  cases move with
  | receive locals =>
      dsimp only at stepTo
      split at stepTo
      · contradiction
      · rename_i head
        split at stepTo
        · contradiction
        · rename_i processed
          cases stepTo
          exact .receive head processed
  | poll locals =>
      dsimp only at stepTo
      split at stepTo
      · contradiction
      · rename_i polled
        cases stepTo
        exact .poll polled
  | connect locals identity hello =>
      dsimp only at stepTo
      split at stepTo
      · rename_i pending
        split at stepTo
        · contradiction
        · rename_i started
          cases stepTo
          exact .connect pending started
      · contradiction
      · contradiction
  | close connection =>
      cases stepTo
      exact .close side connection

end World

end Calliope

end Mgnp
