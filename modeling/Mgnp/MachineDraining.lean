import Mgnp.ConnTableFreeList
import Mgnp.MachineTraffic

/-!
# Two machines empty their wires

A frame that arrives is answered by a lighter one, if at all, and as long as a frame waits
its receiver can take it.  So two machines that only receive come to an end, whatever their
local services answer, and then both wires are empty.
-/

namespace Mgnp

namespace Calliope

open ExceptRules LabelledRuns

variable {capacity : Side → Nat} {build : Build}

section Tables

variable {world next : World capacity} {occurred : List Occurrence}

/-- Both tables are well formed. -/
def World.Represented (world : World capacity) : Prop :=
  ∀ side, (world.machine side).table.Represented

theorem World.Represented.perform (represented : world.Represented) (side : Side)
    {outcome : Outcome (capacity side)} (table : outcome.table.Represented)
    (connection : Nat) : (world.perform side outcome connection).Represented := by
  intro other
  rcases other.eq_or_eq_other side with rfl | rfl
  · simpa [World.perform] using table
  · simpa [World.perform] using represented side.other

theorem World.Represented.takeFrame (represented : world.Represented) (side : Side)
    (rest : List Tagged) : (world.takeFrame side rest).Represented := by
  intro other
  rcases other.eq_or_eq_other side with rfl | rfl
  · simpa [World.takeFrame] using represented other
  · simpa [World.takeFrame] using represented side.other

theorem World.Represented.step (small : ∀ side, capacity side < 2 ^ 16 - 1)
    (represented : world.Represented) {action : WorldAction}
    (stepTo : world.step build action = some (next, occurred)) : next.Represented := by
  cases World.step_cases stepTo with
  | @receive side _ _ _ _ head processed =>
      exact (represented.takeFrame _ _).perform side
        (((represented side).processInbound (small side) _ _).ensures _ processed) _
  | @poll side _ _ polled =>
      exact represented.perform side
        (((represented side).nextOutbound (small side)).ensures _ polled) _
  | @connect side _ _ _ table _ _ _ pending started =>
      have cleaned : table.Represented :=
        ((represented side).nextOutbound (small side)).ensures _ pending
      exact represented.perform side
        ((cleaned.startConnecting (small side) _).ensures _ started) _
  | close side connection =>
      intro other
      rcases other.eq_or_eq_other side with rfl | rfl
      · simpa using represented other
      · simpa using represented side.other

/-- Receiving is possible whenever a frame has arrived. -/
theorem World.exists_receive (build : Build) (small : ∀ side, capacity side < 2 ^ 16 - 1)
    (represented : world.Represented) {side : Side} (locals : Locals)
    (arrived : (world.machine side.other).sent ≠ []) :
    ∃ next occurred, world.step build ⟨side, .receive locals⟩ = some (next, occurred) := by
  unfold World.step
  dsimp only
  cases head : (world.machine side.other).sent with
  | nil => exact absurd head arrived
  | cons tagged rest =>
      have returns : Returns ((world.machine side).table.processInbound
          (locals.within (world.machine side).closed) tagged.connection tagged.frame.received)
          fun _ => True :=
        ((represented side).processInbound (small side) _ _).mono fun _ _ => trivial
      obtain ⟨outcome, processed, -⟩ := returns
      dsimp only
      rw [processed]
      exact ⟨_, _, rfl⟩

end Tables

section Loads

variable {world next : World capacity} {net after : Network} {side : Side}
  {granted : Option Id} {locals : Locals} {occurred : List Occurrence}

/-- The answer to a frame is lighter than the frame. -/
theorem Sockets.Receives.lighter {view next : Sockets} {channel : Nat} {header : Header}
    {frame : Option OutboundFrame} {account : Option Nat} {events : List Event}
    (receives : view.Receives locals granted channel header next frame account events)
    (connection : Nat) : 1 + load (Tagged.send connection frame) ≤ header.weight := by
  cases receives with
  | dataStray | dataFailed | ackStray | ackAbandoned =>
      simp [Header.weight, Frame.reset]
  | dataDelivered | ackOpened | rejected | reset => simp [Header.weight]
  | connectAccepted => simp [Header.weight, Frame.ack]
  | connectRefused => simp [Header.weight, Frame.reject]

/-- The weight of the frames on both wires. -/
def World.load (world : World capacity) : Nat :=
  Calliope.load (world.machine .left).sent + Calliope.load (world.machine .right).sent

theorem World.Shows.load_eq (agrees : world.Shows net) (side : Side) :
    world.load = Calliope.load (net.sent side) + Calliope.load (net.sent side.other) := by
  unfold World.load
  rw [agrees.sent, agrees.sent]
  cases side with
  | left => rfl
  | right => exact Nat.add_comm _ _

/-- Receiving a frame leaves less on the wires. -/
theorem World.Shows.receive_lighter (agrees : world.Shows net) (shown : next.Shows after)
    (moves : net.Step side granted (.receive locals) after occurred) :
    1 + next.load ≤ world.load := by
  rw [agrees.load_eq side, shown.load_eq side]
  cases moves with
  | @receive _ tagged rest _ frame _ _ head receives =>
      have lighter := receives.lighter tagged.connection
      simp only [Network.sent_perform_self, Network.sent_takeFrame_self,
        Network.sent_perform_other, Network.sent_takeFrame_other, load_append, head, load_cons]
      omega

/-- The machines can go on, with `held` on their wires. -/
def World.Weighs (world : World capacity) (held : Nat) : Prop :=
  world.Represented ∧ (∃ net, world.Shows net) ∧ world.load = held

theorem World.Weighs.receive (small : ∀ side, capacity side < 2 ^ 16 - 1) {held : Nat}
    (weighs : world.Weighs held)
    (stepTo : world.step build ⟨side, .receive locals⟩ = some (next, occurred)) :
    ∃ left, next.Weighs left ∧ 1 + left ≤ held := by
  obtain ⟨represented, ⟨net, agrees⟩, rfl⟩ := weighs
  obtain ⟨after, shown, moves⟩ := agrees.step stepTo
  exact ⟨next.load, ⟨represented.step small stepTo, ⟨after, shown⟩, rfl⟩,
    agrees.receive_lighter shown moves⟩

/-- The step receives a frame, whatever the local services answer. -/
def World.receives (_ : World capacity) (action : WorldAction) : Prop :=
  action.move.cost = 1

instance (world : World capacity) (action : WorldAction) :
    Decidable (world.receives action) :=
  inferInstanceAs (Decidable (action.move.cost = 1))

theorem World.exists_locals_of_receives {action : WorldAction}
    (receives : world.receives action) :
    ∃ side locals, action = ⟨side, .receive locals⟩ := by
  obtain ⟨side, move⟩ := action
  cases move with
  | receive locals => exact ⟨side, locals, rfl⟩
  | poll | connect | close => cases receives

/-- The frames on the wires pay for the frames that are received. -/
def receivePotential (build : Build) (small : ∀ side, capacity side < 2 ^ 16 - 1) :
    Potential (@World.step capacity build) World.receives where
  worth := World.Weighs
  cost _ := 1
  credit _ := 0
  pays := by
    intro world next action events held weighs receives stepTo
    obtain ⟨side, locals, rfl⟩ := World.exists_locals_of_receives receives
    exact weighs.receive small stepTo

/-- The step receives a frame, and the local services give this answer in this state. -/
def World.receivesWith (answer : World capacity → Side → Locals) (world : World capacity)
    (action : WorldAction) : Prop :=
  ∃ side, action = ⟨side, .receive (answer world side)⟩

/-- While a frame waits on a wire, one can be received. -/
theorem World.Weighs.exists_lighter (build : Build)
    (small : ∀ side, capacity side < 2 ^ 16 - 1) (answer : World capacity → Side → Locals)
    {held : Nat} (weighs : world.Weighs held)
    (waits : ¬ ∀ side, (world.machine side).sent = []) :
    ∃ action next occurred left, World.receivesWith answer world action ∧
      world.step build action = some (next, occurred) ∧ next.Weighs left ∧ left < held := by
  push Not at waits
  obtain ⟨side, arrived⟩ := waits
  obtain ⟨next, occurred, stepTo⟩ := World.exists_receive build small weighs.1
    (answer world side.other)
    (show (world.machine side.other.other).sent ≠ [] by rwa [Side.other_other])
  obtain ⟨left, remains, paid⟩ := weighs.receive small stepTo
  exact ⟨_, next, occurred, left, ⟨side.other, rfl⟩, stepTo, remains, by omega⟩

end Loads

section Runs

variable {world : World capacity} {history : List Occurrence}

theorem World.weighs_of_run (small : ∀ side, capacity side < 2 ^ 16 - 1)
    (run : Run (World.step build) anyStep (World.new capacity) history world) :
    world.Weighs world.load := by
  have kept : world.Represented ∧ ∃ net, world.Shows net := by
    apply run.stateInvariant fun world => world.Represented ∧ ∃ net, world.Shows net
    · exact ⟨fun side => .new (capacity side), .empty, .new capacity⟩
    · intro events before after action invariant _ stepTo
      obtain ⟨represented, net, agrees⟩ := invariant
      obtain ⟨shown, agreed, -⟩ := agrees.step stepTo
      exact ⟨represented.step small stepTo, shown, agreed⟩
  exact ⟨kept.1, kept.2, rfl⟩

/-- From every state that two machines reach whose tables leave an id unused, only so many
frames can be received one after the other, and whatever their local services answer, the
machines can receive until both wires are empty. -/
theorem wires_drain (small : ∀ side, capacity side < 2 ^ 16 - 1)
    (run : Run (World.step build) anyStep (World.new capacity) history world) :
    (∀ actions final later,
      exec (World.step build) World.receives world actions = some (final, later) →
      actions.length + final.load ≤ world.load) ∧
    ∀ answer : World capacity → Side → Locals, ∃ later final,
      Run (World.step build) (World.receivesWith answer) world later final ∧
      ∀ side, (final.machine side).sent = [] := by
  have weighs := World.weighs_of_run small run
  constructor
  · intro actions final later ran
    obtain ⟨left, ⟨-, -, rfl⟩, paid⟩ := (receivePotential build small).exec weighs ran
    have costs : pooled (receivePotential build small).cost actions = 1 * actions.length :=
      pooled_const 1
    have credits : pooled (receivePotential build small).credit actions = 0 * actions.length :=
      pooled_const 0
    rw [costs, credits] at paid
    omega
  · intro answer
    exact exists_run_settled (World.Weighs.exists_lighter build small answer) weighs

/-- A message and a connect request are on their way, and nobody takes the message. -/
theorem wires_drain_underway :
    ∃ history world later final,
      Run (World.step .debug) anyStep (World.new fun _ => 2) history world ∧
      (∀ side, (world.machine side).sent ≠ []) ∧ world.load = 6 ∧
      Run (World.step .debug) (World.receivesWith fun _ _ => .sendFails) world later final ∧
      ∀ side, (final.machine side).sent = [] := by
  obtain ⟨history, world, run, observed⟩ :=
    exists_run_of_exec (World.step .debug) anyStep (World.new fun _ => 2)
      [⟨.left, .connect .quiet .sample []⟩, ⟨.right, .receive .quiet⟩,
        ⟨.left, .receive .quiet⟩, ⟨.left, .poll .dataReady⟩,
        ⟨.right, .connect .quiet .sample [1]⟩]
      (fun reached => (decide (∀ side ∈ [Side.left, Side.right],
        (reached.1.machine side).sent ≠ []), reached.1.load))
      (show _ = some (true, 6) by decide +kernel)
  simp only [Prod.mk.injEq, decide_eq_true_eq] at observed
  obtain ⟨busy, load⟩ := observed
  obtain ⟨-, drains⟩ := wires_drain (fun _ => by decide) run
  obtain ⟨later, final, drained, empty⟩ := drains fun _ _ => .sendFails
  refine ⟨history, world, later, final, run, ?_, load, drained, empty⟩
  intro side
  exact busy side (by cases side <;> simp)

end Runs

end Calliope

end Mgnp
