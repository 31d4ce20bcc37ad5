import Mgnp.ChannelMailbox
import Mgnp.MachineStreams

/-!
# The queues of the streams are channels

Here every connection of a side has a channel of the `mpsc` core, which takes its atomic
steps at any time, and what its receiver has taken out is at hand for the next poll of the
machine.  Such machines are simulated by those with ideal queues, so their streams arrive in
order and without gaps as well.
-/

namespace Mgnp

namespace Calliope

open LabelledRuns PositionWord ChannelCore

/-- The channel of a connection, whose messages are their serialized bytes. -/
abbrev Pipe : Type := ChannelCore.Channel (List UInt8) Reset

/-- The messages that a channel reports as committed. -/
def bodiesIn (events : List (ChannelCore.Event (List UInt8) Reset)) : List (List UInt8) :=
  (committed events).filterMap fun entry => entry.2.2

/-- The messages that a channel reports as received. -/
def bodiesOut (events : List (ChannelCore.Event (List UInt8) Reset)) : List (List UInt8) :=
  (received events).filterMap Prod.snd

/-- The queues after these bodies were appended to one of them. -/
def appendBodies (queue : Side → Nat → List (List UInt8)) (side : Side) (connection : Nat)
    (bodies : List (List UInt8)) : Side → Nat → List (List UInt8) :=
  Function.update queue side
    (Function.update (queue side) connection (queue side connection ++ bodies))

structure PipeWorld (capacity : Side → Nat) where
  world : World capacity
  pipe : Side → Nat → Pipe
  /-- What was received from each channel, and not sent on yet. -/
  hand : Side → Nat → List (List UInt8)
  /-- Everything that was committed to each channel. -/
  committed : Side → Nat → List (List UInt8)

inductive PipeAction
  | pipe (side : Side) (connection : Nat) (action : ChannelCore.Action (List UInt8) Reset)
  | machine (action : WorldAction)

namespace PipeWorld

variable {capacity : Side → Nat}

/-- Every channel has `places` places. -/
def new (capacity : Side → Nat) (width : PointerWidth) (places : Nat) : PipeWorld capacity :=
  ⟨.new capacity, fun _ _ => .new width places, fun _ _ => [], fun _ _ => []⟩

/-- What a machine does when its channels answer with what is at hand. -/
def asked (pipes : PipeWorld capacity) (action : WorldAction) : WorldAction :=
  ⟨action.side, action.move.queued (pipes.hand action.side)⟩

/-- An atomic step of one channel, or a turn of one machine. -/
def step (build : Build) (width : PointerWidth) (pipes : PipeWorld capacity) :
    PipeAction → Option (PipeWorld capacity × List Occurrence)
  | .pipe side connection action =>
      (ChannelCore.step width (pipes.pipe side connection) action).map fun outcome =>
        ({ pipes with
            pipe := Function.update pipes.pipe side
              (Function.update (pipes.pipe side) connection outcome.1)
            hand := appendBodies pipes.hand side connection (bodiesOut outcome.2)
            committed := appendBodies pipes.committed side connection (bodiesIn outcome.2) }, [])
  | .machine action =>
      (pipes.world.step build (pipes.asked action)).map fun outcome =>
        ({ pipes with
            world := outcome.1
            hand := Function.update pipes.hand action.side
              (((pipes.world.takesFrom (pipes.asked action)).map
                (dequeue (pipes.hand action.side))).getD (pipes.hand action.side)) },
          outcome.2)

/-- The step hands out no id that something refers to. -/
def admits (pipes : PipeWorld capacity) : PipeAction → Prop
  | .pipe _ _ _ => True
  | .machine action => pipes.world.grantsUnreferenced (pipes.asked action)

instance (pipes : PipeWorld capacity) (action : PipeAction) :
    Decidable (pipes.admits action) :=
  match action with
  | .pipe _ _ _ => inferInstanceAs (Decidable True)
  | .machine action =>
      inferInstanceAs (Decidable (pipes.world.grantsUnreferenced (pipes.asked action)))

end PipeWorld

section Queues

variable {queue hand : Side → Nat → List (List UInt8)} {side : Side} {connection : Nat}

theorem appendBodies_apply (queue : Side → Nat → List (List UInt8)) (side : Side) (connection : Nat)
    (bodies : List (List UInt8)) (other : Side) (channel : Nat) :
    appendBodies queue side connection bodies other channel =
      queue other channel ++ if other = side ∧ channel = connection then bodies else [] := by
  by_cases sameSide : other = side
  · subst sameSide
    by_cases same : channel = connection
    · subst same
      simp [appendBodies]
    · simp [appendBodies, same]
  · simp [appendBodies, sameSide]

theorem appendBodies_nil (queue : Side → Nat → List (List UInt8)) (side : Side) (connection : Nat) :
    appendBodies queue side connection [] = queue := by
  simp [appendBodies]

theorem appendBodies_append (queue : Side → Nat → List (List UInt8)) (side : Side)
    (connection : Nat) (first second : List (List UInt8)) :
    appendBodies (appendBodies queue side connection first) side connection second =
      appendBodies queue side connection (first ++ second) := by
  simp [appendBodies]

/-- A channel that answers with what is at hand answers with what is queued in front. -/
theorem Locals.queued_queued {queue hand : Nat → List (List UInt8)} (locals : Locals)
    (inFront : ∀ channel, hand channel <+: queue channel) :
    (locals.queued hand).queued queue = locals.queued hand := by
  have same : ∀ channel,
      ((locals.queued hand).queued queue).pollRecv channel =
        (locals.queued hand).pollRecv channel := by
    intro channel
    obtain ⟨rest, isQueue⟩ := inFront channel
    unfold Locals.queued
    dsimp only
    cases locals.pollRecv channel with
    | none => rfl
    | some answer =>
        cases answer with
        | error reason => rfl
        | ok body =>
            rw [← isQueue]
            cases hand channel <;> rfl
  exact congrArg (fun answers => { locals with pollRecv := answers }) (funext same)

theorem Move.queued_queued {queue hand : Nat → List (List UInt8)} (move : Move)
    (inFront : ∀ channel, hand channel <+: queue channel) :
    (move.queued hand).queued queue = move.queued hand := by
  cases move with
  | receive locals => exact congrArg Move.receive (locals.queued_queued inFront)
  | poll locals => exact congrArg Move.poll (locals.queued_queued inFront)
  | connect locals identity hello =>
      exact congrArg (Move.connect · identity hello) (locals.queued_queued inFront)
  | close connection => rfl

/-- Taking what is at hand leaves the rest of the queue. -/
theorem dequeue_append {queue hand rest : Nat → List (List UInt8)} {channel : Nat}
    {body : List UInt8} (isQueue : ∀ channel, queue channel = hand channel ++ rest channel)
    (head : (hand channel).head? = some body) (other : Nat) :
    dequeue queue channel other = dequeue hand channel other ++ rest other := by
  unfold dequeue
  by_cases same : other = channel
  · subst same
    obtain ⟨later, isHand⟩ := List.head?_eq_some_iff.mp head
    simp [isQueue, isHand]
  · simp [same, isQueue]

end Queues

section Simulations

variable {capacity : Side → Nat} {build : Build} {width : PointerWidth} {places : Nat}
  {pipes next : PipeWorld capacity} {streams : StreamWorld capacity}
  {occurred history : List Occurrence}

/-- The bodies that wait in a channel with this history. -/
def waitingBodies (past : List (ChannelCore.Event (List UInt8) Reset)) : List (List UInt8) :=
  (waitingMessages past).filterMap id

/-- What an atomic step adds to the messages that are at hand or wait is what it commits. -/
theorem waitingBodies_step {past events : List (ChannelCore.Event (List UInt8) Reset)}
    {pipe after : Pipe} {action : ChannelCore.Action (List UInt8) Reset}
    (placesLe : places ≤ maxCapacity width) (represents : Represents width places past pipe)
    (stepTo : ChannelCore.step width pipe action = some (after, events)) :
    Represents width places (past ++ events) after ∧
      bodiesOut events ++ waitingBodies (past ++ events) =
        waitingBodies past ++ bodiesIn events := by
  have transition := step_transition stepTo
  have kept := represents.transition placesLe transition
  refine ⟨kept, ?_⟩
  have silent (uncommitted : ChannelCore.committed events = [])
      (unreceived : received events = []) :
      bodiesOut events ++ waitingBodies (past ++ events) =
        waitingBodies past ++ bodiesIn events := by
    rw [waitingBodies, waitingMessages_append uncommitted unreceived, bodiesIn, bodiesOut,
      uncommitted, unreceived]
    exact (List.append_nil _).symm
  cases transition.effect with
  | quiet unseen => exact silent (committed_of_unseen unseen) (received_of_unseen unseen)
  | refuses | reserves | frees => exact silent rfl rfl
  | @commits i idx handle tail message at_pc indices =>
      have grown : waitingMessages (past ++ [.committed i idx message]) =
          waitingMessages past ++ [message] := by
        rw [waitingMessages, represents.waiting_committed, List.map_append]
        rfl
      rw [waitingBodies, waitingBodies, grown, List.filterMap_append]
      rfl
  | receives idx message indices =>
      have first := kept.waiting_received
      rw [waitingBodies, waitingBodies, first]
      cases message with
      | none => exact (List.append_nil _).symm
      | some body => exact (List.append_nil _).symm

/-- The ideal queues hold what is at hand, and then what waits in the channels. -/
def PipeWorld.Fills (width : PointerWidth) (places : Nat) (pipes : PipeWorld capacity)
    (streams : StreamWorld capacity) : Prop :=
  ∃ (net : Network) (past : Side → Nat → List (ChannelCore.Event (List UInt8) Reset)),
    pipes.world.Shows net ∧
    (∀ side connection,
      Represents width places (past side connection) (pipes.pipe side connection)) ∧
    streams.world = pipes.world ∧ streams.committed = pipes.committed ∧
    ∀ side connection, streams.queue side connection =
      pipes.hand side connection ++ waitingBodies (past side connection)

theorem PipeWorld.fills_new :
    (PipeWorld.new capacity width places).Fills width places (StreamWorld.new capacity) :=
  ⟨.empty, fun _ _ => [], .new capacity, fun _ _ => represents_new, rfl, rfl, fun _ _ => rfl⟩

theorem StreamWorld.run_commits (streams : StreamWorld capacity) (side : Side)
    (connection : Nat) (bodies : List (List UInt8)) :
    Run (StreamWorld.step build) StreamWorld.admits streams []
      { streams with
        queue := appendBodies streams.queue side connection bodies
        committed := appendBodies streams.committed side connection bodies } := by
  induction bodies generalizing streams with
  | nil =>
      rw [appendBodies_nil, appendBodies_nil]
      exact .refl
  | cons body bodies ih =>
      have admitted : streams.admits (.commit side connection body) := trivial
      have commits : streams.step build (.commit side connection body) =
          some ({ streams with
            queue := appendBodies streams.queue side connection [body]
            committed := appendBodies streams.committed side connection [body] }, []) := rfl
      have later := ih { streams with
        queue := appendBodies streams.queue side connection [body]
        committed := appendBodies streams.committed side connection [body] }
      simp only [appendBodies_append, List.singleton_append] at later
      exact (Run.single admitted commits).trans later

/-- What is committed to a channel is committed to its queue, and nothing else changes. -/
theorem PipeWorld.Fills.pipe (fills : pipes.Fills width places streams)
    (placesLe : places ≤ maxCapacity width) {side : Side} {connection : Nat}
    {action : ChannelCore.Action (List UInt8) Reset}
    (stepTo : pipes.step build width (.pipe side connection action) = some (next, occurred)) :
    occurred = [] ∧ ∃ after, Run (StreamWorld.step build) StreamWorld.admits streams [] after ∧
      next.Fills width places after := by
  obtain ⟨net, past, agrees, represents, sameWorld, sameCommitted, queued⟩ := fills
  simp only [PipeWorld.step, Option.map_eq_some_iff, Prod.mk.injEq] at stepTo
  obtain ⟨⟨pipe, events⟩, stepsTo, rfl, rfl⟩ := stepTo
  obtain ⟨kept, moved⟩ := waitingBodies_step placesLe (represents side connection) stepsTo
  refine ⟨rfl, _, StreamWorld.run_commits streams side connection (bodiesIn events), net,
    Function.update past side
      (Function.update (past side) connection (past side connection ++ events)),
    agrees, ?_, sameWorld, ?_, ?_⟩
  · intro other channel
    by_cases sameSide : other = side
    · subst sameSide
      by_cases same : channel = connection
      · subst same
        simpa using kept
      · simpa [same] using represents other channel
    · simpa [sameSide] using represents other channel
  · dsimp only
    rw [sameCommitted]
  · intro other channel
    dsimp only
    rw [appendBodies_apply, appendBodies_apply, queued]
    by_cases sameSide : other = side
    · subst sameSide
      by_cases same : channel = connection
      · subst same
        simp [moved]
      · simp [same]
    · simp [sameSide]

/-- A turn of a machine takes from the ideal queue what it takes from what is at hand. -/
theorem PipeWorld.Fills.machine (fills : pipes.Fills width places streams)
    {action : WorldAction} (admitted : pipes.admits (.machine action))
    (stepTo : pipes.step build width (.machine action) = some (next, occurred)) :
    ∃ after, Run (StreamWorld.step build) StreamWorld.admits streams occurred after ∧
      next.Fills width places after := by
  obtain ⟨net, past, agrees, represents, sameWorld, sameCommitted, queued⟩ := fills
  simp only [PipeWorld.step, Option.map_eq_some_iff, Prod.mk.injEq] at stepTo
  obtain ⟨⟨world, events⟩, stepsTo, rfl, rfl⟩ := stepTo
  obtain ⟨after, shown, -⟩ := agrees.step stepsTo
  obtain ⟨sends, -, takes⟩ := World.step_takes agrees stepsTo
  have asksSame : streams.asked (pipes.asked action) = pipes.asked action := by
    unfold StreamWorld.asked PipeWorld.asked
    rw [Move.queued_queued action.move fun channel => ⟨_, (queued action.side channel).symm⟩]
  have moves : streams.step build (.machine (pipes.asked action)) =
      some ({ streams with
        world := world
        queue := Function.update streams.queue action.side
          (((pipes.world.takesFrom (pipes.asked action)).map
            (dequeue (streams.queue action.side))).getD (streams.queue action.side)) },
        events) := by
    simp only [StreamWorld.step, asksSame, sameWorld, stepsTo, Option.map_some]
    rfl
  have allowed : streams.admits (.machine (pipes.asked action)) := by
    change streams.world.grantsUnreferenced (streams.asked (pipes.asked action))
    rw [asksSame, sameWorld]
    exact admitted
  refine ⟨_, .single allowed moves, after, past, shown, represents, rfl, sameCommitted, ?_⟩
  intro other channel
  rcases other.eq_or_eq_other action.side with rfl | rfl
  · dsimp only
    rw [Function.update_self, Function.update_self]
    change Move.Takes _ sends (pipes.world.takesFrom (pipes.asked action)) at takes
    generalize pipes.world.takesFrom (pipes.asked action) = taking at takes ⊢
    cases taking with
    | none => exact queued action.side channel
    | some taken =>
        obtain ⟨locals, body, isPoll, ready, -⟩ := takes
        have head : (pipes.hand action.side taken).head? = some body := by
          obtain ⟨side, move⟩ := action
          cases move with
          | poll chosen =>
              cases isPoll
              exact Locals.head_of_queued ready
          | receive | connect | close => cases isPoll
        exact dequeue_append (queued action.side) head channel
  · simpa using queued action.side.other channel

/-- Machines over channels are simulated by machines over ideal queues. -/
def PipeWorld.simulation (capacity : Side → Nat) (build : Build)
    (placesLe : places ≤ maxCapacity width) :
    Simulation (PipeWorld.step build width) PipeWorld.admits
      (PipeWorld.new capacity width places) (StreamWorld.step build) StreamWorld.admits
      (StreamWorld.new capacity) where
  related := PipeWorld.Fills width places
  seen := some
  initially := PipeWorld.fills_new
  simulates := by
    intro pipes next action events streams fills admitted stepTo
    rw [List.filterMap_some]
    cases action with
    | pipe side connection action =>
        obtain ⟨rfl, after, moves, kept⟩ := fills.pipe placesLe stepTo
        exact ⟨after, moves, kept⟩
    | machine action => exact fills.machine admitted stepTo

end Simulations

section Runs

variable {capacity : Side → Nat} {build : Build} {width : PointerWidth} {places : Nat}
  {pipes : PipeWorld capacity} {history : List Occurrence}

/-- What the peer's application has received of a connection is a prefix of what was
committed to its channel, and while the peer has its socket only what is on the wire, at
hand or in the channel is missing. -/
structure PipeWorld.Delivers (history : List Occurrence) (pipes : PipeWorld capacity)
    (side : Side) (connection : Nat) : Prop where
  isPrefix : deliveredTo connection (eventsOf side.other history) <+:
    pipes.committed side connection
  complete : pipes.world.Holds side.other connection → ∃ waiting,
    pipes.committed side connection =
      deliveredTo connection (eventsOf side.other history) ++
        ((pipes.world.machine side).sent.filterMap (Tagged.body connection) ++
          (pipes.hand side connection ++ waiting))

/-- The streams of two machines arrive in order and without gaps, whatever atomic steps
their channels take. -/
theorem piped_streams_delivered (placesLe : places ≤ maxCapacity width)
    (run : Run (PipeWorld.step build width) PipeWorld.admits
      (PipeWorld.new capacity width places) history pipes) (side : Side) (connection : Nat) :
    pipes.Delivers history side connection := by
  obtain ⟨streams, simulated, net, past, -, -, sameWorld, sameCommitted, queued⟩ :=
    (PipeWorld.simulation capacity build placesLe).run run
  have unchanged : history.filterMap (PipeWorld.simulation capacity build placesLe).seen =
      history := List.filterMap_some
  rw [unchanged] at simulated
  obtain ⟨isPrefix, complete⟩ := streams_delivered simulated side connection
  rw [sameCommitted] at isPrefix complete
  rw [sameWorld, queued] at complete
  exact ⟨isPrefix, fun holds => ⟨_, complete holds⟩⟩

end Runs

end Calliope

end Mgnp
