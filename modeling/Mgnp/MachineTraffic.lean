import Mgnp.MachineStreams
import Mgnp.Potential

/-!
# How much two machines talk

A frame that arrives is answered by at most one frame, and never by one that could bring
about as much again.  So the frames that two machines exchange are all paid for by their
applications: by the connect requests and by the messages that they commit.
-/

namespace Mgnp

namespace Calliope

open LabelledRuns

/-- How much a frame can bring about: itself, the answers to it and the RESET of a socket
that it opens. -/
def Header.weight : Header → Nat
  | .connect _ _ => 4
  | .ack _ _ | .data _ _ => 2
  | .reject _ _ | .reset _ _ => 1

/-- The weight of the frames on a wire. -/
def load (sent : List Tagged) : Nat :=
  pooled (fun tagged => tagged.frame.header.weight) sent

theorem load_append (first second : List Tagged) :
    load (first ++ second) = load first + load second :=
  pooled_append first second

theorem length_le_load (sent : List Tagged) : sent.length ≤ load sent := by
  induction sent with
  | nil => exact Nat.le_refl 0
  | cons tagged rest ih =>
      have positive : 1 ≤ tagged.frame.header.weight := by
        cases tagged.frame.header <;> simp [Header.weight]
      simp only [load, pooled_cons, List.length_cons] at ih ⊢
      omega

@[simp] theorem load_nil : load [] = 0 := rfl

@[simp] theorem load_cons (tagged : Tagged) (rest : List Tagged) :
    load (tagged :: rest) = tagged.frame.header.weight + load rest := rfl

@[simp] theorem load_send_none (connection : Nat) : load (Tagged.send connection none) = 0 := rfl

@[simp] theorem load_send_some (connection : Nat) (frame : OutboundFrame) :
    load (Tagged.send connection (some frame)) = frame.header.weight := rfl

section Sockets

variable {view next : Sockets} {ids : List Id} {locals : Locals} {granted : Option Id}
  {frame : Option OutboundFrame} {account : Option Nat} {events : List Event}

/-- The ids of all sockets that a poll may still find closed. -/
def Sockets.Covered (view : Sockets) (ids : List Id) : Prop :=
  ∀ id socket, view.socket id = some socket → view.dead ≠ some id → id ∈ ids

theorem Sockets.Covered.erase (covered : view.Covered ids) (id : Id) :
    (view.erase id).Covered ids := by
  intro other socket found alive
  exact covered other socket (Sockets.socket_erase_eq_some_iff.mp found).2 alive

theorem Sockets.Covered.put (covered : view.Covered ids) (id : Id) (socket : Socket) :
    (view.put id socket).Covered (id :: ids) := by
  intro other found isFound alive
  rcases Sockets.socket_put_eq_some_iff.mp isFound with ⟨rfl, -⟩ | ⟨-, old⟩
  · exact List.mem_cons_self
  · exact List.mem_cons_of_mem _ (covered other found old alive)

/-- Opening a connecting socket. -/
theorem Sockets.Covered.replace (covered : view.Covered ids) {id : Id} {old : Socket}
    (was : view.socket id = some old) (socket : Socket) : (view.put id socket).Covered ids := by
  intro other found isFound alive
  rcases Sockets.socket_put_eq_some_iff.mp isFound with ⟨rfl, -⟩ | ⟨-, old⟩
  · exact covered other _ was alive
  · exact covered other found old alive

theorem Sockets.Covered.cleaned (covered : view.Covered ids) : view.cleaned.Covered ids := by
  intro id socket found _
  obtain ⟨alive, old⟩ := Sockets.socket_cleaned_eq_some_iff.mp found
  exact covered id socket old alive

/-- A received frame outweighs its answer and the socket that it may open. -/
theorem Sockets.Receives.paid {channel : Nat} {header : Header}
    (receives : view.Receives locals granted channel header next frame account events)
    (covered : view.Covered ids) (connection : Nat) :
    ∃ after, next.Covered after ∧
      1 + load (Tagged.send connection frame) + after.length ≤ header.weight + ids.length := by
  cases receives with
  | dataStray | ackStray | connectRefused =>
      exact ⟨ids, covered, by simp [Header.weight, Frame.reset, Frame.reject]⟩
  | dataDelivered => exact ⟨ids, covered, by simp [Header.weight]⟩
  | dataFailed =>
      exact ⟨ids, covered.erase _, by simp [Header.weight, Frame.reset]⟩
  | ackOpened isConnecting =>
      exact ⟨ids, covered.replace isConnecting _, by simp [Header.weight]⟩
  | ackAbandoned isConnecting =>
      exact ⟨ids, covered.replace isConnecting _, by simp [Header.weight, Frame.reset]⟩
  | rejected | reset => exact ⟨ids, covered.erase _, by simp [Header.weight]⟩
  | connectAccepted =>
      refine ⟨_, covered.put _ _, ?_⟩
      simp [Header.weight, Frame.ack]
      omega

/-- A RESET that a poll sends is paid by the socket that it marks. -/
theorem Sockets.Sends.paid (sends : view.Sends locals next frame account events)
    (covered : view.Covered ids) (alive : view.dead = none) (connection : Nat) :
    ∃ after, next.Covered after ∧
      load (Tagged.send connection frame) + after.length ≤
        ids.length + 2 * (Tagged.send connection frame).countP (·.frame.isData) := by
  cases sends with
  | idle => exact ⟨ids, covered, by simp⟩
  | data =>
      refine ⟨ids, covered, ?_⟩
      simp [Header.weight, Tagged.send, Frame.data, Frame.isData]
      omega
  | @closed id remoteId channel error reason isOpen _ =>
      have member : id ∈ ids := covered id _ isOpen (by simp [alive])
      refine ⟨ids.erase id, ?_, ?_⟩
      · intro other socket found notDead
        have different : other ≠ id := fun same => notDead (by rw [same])
        exact (List.mem_erase_of_ne different).mpr
          (covered other socket found (by simp [alive]))
      · have shorter := List.length_erase_of_mem member
        have inside := List.length_pos_of_mem member
        simp [Header.weight, Frame.reset]
        omega

/-- A connect request is paid five: its CONNECT frame and its socket. -/
theorem Sockets.Starts.paid {connect : OutboundConnect}
    (starts : view.Starts granted connect next frame account events)
    (covered : view.Covered ids) (connection : Nat) :
    ∃ after, next.Covered after ∧
      load (Tagged.send connection frame) + after.length ≤ ids.length + 5 := by
  cases starts with
  | full => exact ⟨ids, covered, by simp⟩
  | started =>
      refine ⟨_, covered.put _ _, ?_⟩
      simp [Header.weight, Frame.connect]
      omega

end Sockets

section Networks

variable {net after : Network} {side : Side} {move : Move} {granted : Option Id}
  {occurred : List Occurrence}

/-- What the sender of a CONNECT frame is given, and what receiving a frame costs. -/
def Move.credit : Move → Nat
  | .connect _ _ _ => 5
  | .receive _ | .poll _ | .close _ => 0

def Move.cost : Move → Nat
  | .receive _ => 1
  | .poll _ | .connect _ _ _ | .close _ => 0

theorem Tagged.length_send (connection : Nat) (frame : Option OutboundFrame) :
    (Tagged.send connection frame).length ≤ 1 := by
  cases frame <;> simp [Tagged.send]

/-- Every step is paid for by the frame it receives, the socket it marks, the connect
request it is given or the message it sends. -/
theorem Network.Step.paid (moves : net.Step side granted move after occurred)
    {live : Side → List Id} (covered : ∀ side, (net.sockets side).Covered (live side)) :
    ∃ sends ids, after.sent side = net.sent side ++ sends ∧ sends.length ≤ 1 ∧
      (after.sockets side).Covered ids ∧
      after.sockets side.other = net.sockets side.other ∧
      move.cost + (load sends + load (after.sent side.other)) + ids.length ≤
        load (net.sent side.other) + (live side).length +
          2 * sends.countP (·.frame.isData) + move.credit := by
  cases moves with
  | @receive locals tagged rest next frame account events head receives =>
      obtain ⟨ids, coveredNext, paid⟩ := receives.paid (covered side) tagged.connection
      refine ⟨Tagged.send tagged.connection frame, ids, by simp, Tagged.length_send _ _,
        by simpa using coveredNext, by simp, ?_⟩
      simp only [head, Move.cost, Move.credit, Network.sent_perform_other,
        Network.sent_takeFrame_other, load_cons]
      omega
  | @poll locals next frame account events sends =>
      obtain ⟨ids, coveredNext, paid⟩ := sends.paid (covered side).cleaned
        (Sockets.dead_cleaned _) (account.getD 0)
      refine ⟨Tagged.send (account.getD 0) frame, ids, by simp, Tagged.length_send _ _,
        by simpa using coveredNext, by simp, ?_⟩
      simp only [Move.cost, Move.credit, Network.sent_perform_other, Network.sent_clean]
      omega
  | @connect locals identity hello next frame account events starts =>
      obtain ⟨ids, coveredNext, paid⟩ := starts.paid (covered side).cleaned net.fresh
      refine ⟨Tagged.send net.fresh frame, ids, by simp, Tagged.length_send _ _,
        by simpa using coveredNext, by simp, ?_⟩
      simp only [Move.cost, Move.credit, Network.sent_perform_other, Network.sent_clean]
      omega
  | close connection =>
      refine ⟨[], live side, by simp, by simp, covered side, rfl, ?_⟩
      simp [Move.cost, Move.credit]

/-- Each DATA frame has its body. -/
theorem Tagged.countP_isData {sends : List Tagged}
    (silent : ∀ connection, sends.filterMap (Tagged.body connection) = []) :
    sends.countP (·.frame.isData) = 0 := by
  rw [List.countP_eq_zero]
  intro tagged member isData
  have none := List.filterMap_eq_nil_iff.mp (silent tagged.connection) tagged member
  simp [Tagged.body, isData] at none

end Networks

section Worlds

variable {capacity : Side → Nat} {build : Build} {streams next : StreamWorld capacity}

/-- The sockets that may still be found closed, and the queued messages by side and
connection. -/
structure Holdings where
  live : Side → List Id
  queued : List (Side × Nat)

structure StreamWorld.Covers (streams : StreamWorld capacity) (net : Network)
    (holdings : Holdings) : Prop where
  agrees : streams.world.Shows net
  live : ∀ side, (net.sockets side).Covered (holdings.live side)
  queued : ∀ side connection,
    (streams.queue side connection).length = holdings.queued.count (side, connection)

/-- What the frames in flight, the sockets and the queued messages can bring about. -/
def Network.worth (net : Network) (holdings : Holdings) : Nat :=
  load (net.sent .left) + load (net.sent .right) +
    ((holdings.live .left).length + (holdings.live .right).length) +
    2 * holdings.queued.length

/-- The worth as one side sees it. -/
theorem Network.worth_eq (net : Network) (holdings : Holdings) (side : Side) :
    net.worth holdings = load (net.sent side) + load (net.sent side.other) +
      ((holdings.live side).length + (holdings.live side.other).length) +
      2 * holdings.queued.length := by
  cases side with
  | left => rfl
  | right =>
      simp only [worth, Side.other]
      omega

/-- The action receives a frame. -/
def StreamAction.receives : StreamAction → Bool
  | .machine ⟨_, .receive _⟩ => true
  | _ => false

/-- The action takes a connect request. -/
def StreamAction.connects : StreamAction → Bool
  | .machine ⟨_, .connect _ _ _⟩ => true
  | _ => false

def StreamAction.commits : StreamAction → Bool
  | .commit _ _ _ => true
  | .machine _ => false

theorem Move.cost_queued (queue : Nat → List (List UInt8)) (side : Side) (move : Move) :
    (move.queued queue).cost = (StreamAction.machine ⟨side, move⟩).receives.toNat := by
  cases move <;> rfl

theorem Move.credit_queued (queue : Nat → List (List UInt8)) (side : Side) (move : Move) :
    (move.queued queue).credit = 5 * (StreamAction.machine ⟨side, move⟩).connects.toNat := by
  cases move <;> rfl

variable {net : Network} {holdings : Holdings} {occurred : List Occurrence}

theorem StreamWorld.Covers.commit (covers : streams.Covers net holdings) (side : Side)
    (connection : Nat) (body : List UInt8) :
    StreamWorld.Covers
      { streams with
        queue := Function.update streams.queue side
          (enqueue (streams.queue side) (connection, body))
        committed := Function.update streams.committed side
          (enqueue (streams.committed side) (connection, body)) }
      net { holdings with queued := (side, connection) :: holdings.queued } where
  agrees := covers.agrees
  live := covers.live
  queued other channel := by
    have before := covers.queued other channel
    dsimp only
    rw [List.count_cons, ← before]
    rcases other.eq_or_eq_other side with rfl | rfl
    · rw [Function.update_self, enqueue_apply, List.length_append]
      by_cases same : connection = channel <;> simp [same]
    · simp

/-- Taking the first message of a queue. -/
theorem length_dequeue {queue : Side → Nat → List (List UInt8)} {tokens : List (Side × Nat)}
    (counted : ∀ side connection,
      (queue side connection).length = tokens.count (side, connection))
    {side : Side} {channel : Nat} {body : List UInt8}
    (head : (queue side channel).head? = some body) :
    (side, channel) ∈ tokens ∧ ∀ other connection,
      (Function.update queue side (dequeue (queue side) channel) other connection).length =
        (tokens.erase (side, channel)).count (other, connection) := by
  obtain ⟨rest, isHead⟩ := List.head?_eq_some_iff.mp head
  have member : (side, channel) ∈ tokens := by
    apply List.count_pos_iff.mp
    rw [← counted, isHead]
    exact Nat.succ_pos _
  refine ⟨member, fun other connection => ?_⟩
  have before := counted other connection
  rw [List.count_erase, ← before]
  rcases other.eq_or_eq_other side with rfl | rfl
  · rw [Function.update_self, dequeue]
    by_cases same : connection = channel
    · subst same
      simp
    · simp [same, Ne.symm same]
  · simp

/-- A poll that sends a message takes it from its queue. -/
theorem Move.Takes.counted {move : Move} {queue : Side → Nat → List (List UInt8)} {side : Side}
    {sends : List Tagged} {taking : Option Nat} {tokens : List (Side × Nat)}
    (takes : (move.queued (queue side)).Takes sends taking) (short : sends.length ≤ 1)
    (counted : ∀ side connection,
      (queue side connection).length = tokens.count (side, connection)) :
    ∃ left : List (Side × Nat), (∀ other connection,
      (Function.update queue side
        ((taking.map (dequeue (queue side))).getD (queue side)) other connection).length =
          left.count (other, connection)) ∧
      left.length + taking.toList.length ≤ tokens.length ∧
      sends.countP (·.frame.isData) ≤ taking.toList.length := by
  cases taking with
  | none =>
      refine ⟨tokens, by simpa using counted, Nat.le_refl _, ?_⟩
      rw [Tagged.countP_isData takes]
      exact Nat.zero_le _
  | some channel =>
      obtain ⟨locals, body, isPoll, ready, -⟩ := takes
      have head : (queue side channel).head? = some body := by
        cases move with
        | poll chosen =>
            cases isPoll
            exact Locals.head_of_queued ready
        | receive | connect | close => cases isPoll
      obtain ⟨member, lengths⟩ := length_dequeue counted head
      refine ⟨_, lengths, ?_, Nat.le_trans List.countP_le_length short⟩
      have shorter := List.length_erase_of_mem member
      have inside := List.length_pos_of_mem member
      simp only [Option.toList_some, List.length_singleton]
      omega

/-- A step of a machine is a move of the network, paid for by what it is worth. -/
structure StreamWorld.Moves (streams : StreamWorld capacity) (net : Network)
    (holdings : Holdings) (action : WorldAction) (next : StreamWorld capacity) (after : Network)
    (left : Holdings) (occurred : List Occurrence) : Prop where
  covers : next.Covers after left
  move : net.Step action.side (streams.world.grants (streams.asked action))
    (streams.asked action).move after occurred
  taken : left.queued.length + (streams.world.takesFrom (streams.asked action)).toList.length ≤
    holdings.queued.length
  paid : (StreamAction.machine action).receives.toNat + after.worth left ≤
    net.worth holdings + 5 * (StreamAction.machine action).connects.toNat

theorem StreamWorld.Covers.machine (covers : streams.Covers net holdings)
    {action : WorldAction}
    (stepTo : streams.step build (.machine action) = some (next, occurred)) :
    ∃ after left, streams.Moves net holdings action next after left occurred := by
  obtain ⟨side, move⟩ := action
  simp only [StreamWorld.step, Option.map_eq_some_iff, Prod.mk.injEq] at stepTo
  obtain ⟨⟨world, reported⟩, stepsTo, rfl, rfl⟩ := stepTo
  change streams.world.step build ⟨side, move.queued (streams.queue side)⟩ = _ at stepsTo
  obtain ⟨after, shown, moves⟩ := covers.agrees.step stepsTo
  dsimp only at moves
  obtain ⟨sends, ids, sentEq, short, coveredOwn, otherSame, paid⟩ := moves.paid covers.live
  obtain ⟨others, worldSent, takes⟩ := World.step_takes covers.agrees stepsTo
  obtain rfl : others = sends := by
    rw [shown.sent, covers.agrees.sent, sentEq] at worldSent
    exact (List.append_cancel_left worldSent).symm
  obtain ⟨tokens, counted, taken, spent⟩ := Move.Takes.counted takes short covers.queued
  refine ⟨after, ⟨Function.update holdings.live side ids, tokens⟩, ⟨shown, ?_, counted⟩, moves,
    taken, ?_⟩
  · intro other
    rcases other.eq_or_eq_other side with rfl | rfl
    · simpa using coveredOwn
    · simpa [otherSame] using covers.live side.other
  · rw [Move.cost_queued _ side, Move.credit_queued _ side] at paid
    rw [net.worth_eq holdings side, after.worth_eq _ side, sentEq, load_append]
    simp only [Function.update_self, Function.update_of_ne side.other_ne]
    omega

/-- The frames in flight, the sockets and the queued messages pay for all that follows. -/
def trafficPotential (build : Build) (capacity : Side → Nat) :
    Potential (StreamWorld.step build : StreamWorld capacity → _ → _) anyStep where
  worth streams held := ∃ net holdings, streams.Covers net holdings ∧ net.worth holdings = held
  cost action := action.receives.toNat
  credit action := 5 * action.connects.toNat + 2 * action.commits.toNat
  pays := by
    rintro streams next action occurred held ⟨net, holdings, covers, rfl⟩ _ stepTo
    cases action with
    | commit side connection body =>
        cases stepTo
        refine ⟨_, ⟨net, _, covers.commit side connection body, rfl⟩, ?_⟩
        simp only [StreamAction.receives, StreamAction.connects, StreamAction.commits,
          Network.worth, List.length_cons, Bool.toNat_false, Bool.toNat_true]
        omega
    | machine action =>
        obtain ⟨after, left, moves⟩ := covers.machine stepTo
        exact ⟨_, ⟨after, left, moves.covers, rfl⟩, moves.paid⟩

theorem StreamWorld.covers_new (capacity : Side → Nat) :
    (StreamWorld.new capacity).Covers .empty ⟨fun _ => [], []⟩ where
  agrees := .new capacity
  live side id socket found := by simp [Network.empty, Sockets.empty] at found
  queued side connection := rfl

/-- Whatever happens, the frames that two machines exchange are paid for by their
applications: at most five for each connect request, and two for each message. -/
theorem traffic_bounded {actions : List StreamAction} {history : List Occurrence}
    {streams : StreamWorld capacity}
    (ran : exec (StreamWorld.step build) anyStep (StreamWorld.new capacity) actions =
      some (streams, history)) :
    actions.countP StreamAction.receives +
        ((streams.world.machine .left).sent.length + (streams.world.machine .right).sent.length) ≤
      5 * actions.countP StreamAction.connects + 2 * actions.countP StreamAction.commits := by
  have starts : (trafficPotential build capacity).worth (StreamWorld.new capacity) 0 :=
    ⟨.empty, _, StreamWorld.covers_new capacity, rfl⟩
  obtain ⟨left, ⟨net, holdings, covers, worth⟩, paid⟩ :=
    (trafficPotential build capacity).exec starts ran
  have costs : pooled (trafficPotential build capacity).cost actions = _ :=
    (countP_eq_pooled StreamAction.receives).symm
  have credits : pooled (trafficPotential build capacity).credit actions = _ :=
    pooled_linear 5 2
  have leftLoad := length_le_load (net.sent .left)
  have rightLoad := length_le_load (net.sent .right)
  rw [costs, credits, ← countP_eq_pooled, ← countP_eq_pooled, ← worth, Network.worth] at paid
  rw [covers.agrees.sent, covers.agrees.sent]
  omega

/-- A connection is opened, a message is sent and its DATA frame is answered with a RESET:
four frames, of the seven that are paid for. -/
def answeredByReset : List StreamAction :=
  [.machine ⟨.left, .connect .quiet .sample []⟩, .machine ⟨.right, .receive .quiet⟩,
    .machine ⟨.left, .receive .quiet⟩, .commit .left 0 [1], .machine ⟨.left, .poll .dataReady⟩,
    .machine ⟨.right, .receive .sendFails⟩]

theorem traffic_bounded_answeredByReset :
    ∃ history streams,
      exec (StreamWorld.step .debug) anyStep (StreamWorld.new fun _ => 1) answeredByReset =
        some (streams, history) ∧
      (streams.world.machine .right).sent.length = 1 ∧
      answeredByReset.countP StreamAction.receives +
          ((streams.world.machine .left).sent.length +
            (streams.world.machine .right).sent.length) ≤ 7 := by
  obtain ⟨⟨streams, history⟩, ran, sent⟩ := Option.map_eq_some_iff.mp
    (show (exec (StreamWorld.step .debug) anyStep (StreamWorld.new fun _ => 1)
        answeredByReset).map (fun reached => (reached.1.world.machine .right).sent.length) =
      some 1 by decide +kernel)
  exact ⟨history, streams, ran, sent, traffic_bounded ran⟩

end Worlds

end Calliope

end Mgnp
