import Mgnp.BoundedMailbox
import Mgnp.ConnTable
import Mgnp.LabelledRuns

/-!
# A machine and the service behind its connection

This file follows one machine with one open connection and the service that
answers each message of that connection with one reply.  Both tasks are stepped
from one wait to the next.  The machine waits inside `process_inbound` for a place in
the inbound channel, and it is also the only receiver of the outbound channel.
-/

namespace Mgnp

namespace Calliope

open LabelledRuns

/-- Where `Machine::run` stands. -/
inductive MachinePc
  /-- Before `wire.recv()` is polled. -/
  | polling
  /-- `wire.recv()` is pending, before `next_outbound` is polled. -/
  | pollingOutbound
  /-- `process_inbound` of a DATA frame, before its place is reserved. -/
  | delivering (frame : InboundFrame)
  /-- `process_inbound` holding a permit. -/
  | committing (frame : InboundFrame)
  /-- In `wire.send` of a frame whose body was received from the channel. -/
  | sending (frame : OutboundFrame)
  deriving DecidableEq

namespace MachinePc

/-- The frames that the machine delivers. -/
def delivers : MachinePc → Nat
  | .delivering _ | .committing _ => 1
  | .polling | .pollingOutbound | .sending _ => 0

/-- The places it holds in the inbound channel. -/
def permits : MachinePc → Nat
  | .committing _ => 1
  | .polling | .pollingOutbound | .delivering _ | .sending _ => 0

/-- The messages it has received from the outbound channel. -/
def sends : MachinePc → Nat
  | .sending _ => 1
  | .polling | .pollingOutbound | .delivering _ | .committing _ => 0

end MachinePc

/-- Where the service stands. -/
inductive WorkerPc
  | receiving
  /-- Holding the message and its place. -/
  | received (body : List UInt8)
  /-- In `send`, before its place is reserved. -/
  | replying (reply : List UInt8)
  | committing (reply : List UInt8)
  deriving DecidableEq

namespace WorkerPc

/-- The messages that the service works on. -/
def serves : WorkerPc → Nat
  | .receiving => 0
  | .received _ | .replying _ | .committing _ => 1

/-- The places it holds in the inbound channel. -/
def takes : WorkerPc → Nat
  | .received _ => 1
  | .receiving | .replying _ | .committing _ => 0

/-- The places it holds in the outbound channel. -/
def permits : WorkerPc → Nat
  | .committing _ => 1
  | .receiving | .received _ | .replying _ => 0

end WorkerPc

structure Served (tableSize inCapacity outCapacity : Nat) where
  table : ConnTable tableSize
  /-- The frames that have arrived and have not been received. -/
  wire : List InboundFrame
  machine : MachinePc
  inbound : Mailbox (List UInt8) inCapacity
  worker : WorkerPc
  outbound : Mailbox (List UInt8) outCapacity
  sent : List OutboundFrame

inductive ServedAction
  | arrive (frame : InboundFrame)
  | machine
  /-- The service, which chooses its replies. -/
  | worker (reply : List UInt8)

namespace Served

variable {tableSize inCapacity outCapacity : Nat} {build : Build}

def new (table : ConnTable tableSize) (inCapacity outCapacity : Nat) :
    Served tableSize inCapacity outCapacity where
  table := table
  wire := []
  machine := .polling
  inbound := .empty _ inCapacity
  worker := .receiving
  outbound := .empty _ outCapacity
  sent := []

/-- The answers of the connection's channel, which the service keeps open. -/
def locals (served : Served tableSize inCapacity outCapacity) : Locals :=
  { Locals.quiet with pollRecv := fun _ => served.outbound.queue.head?.map .ok }

/-- One step of `Machine::run`, `none` while it waits.  The wire takes every
frame. -/
def machineStep (build : Build) (served : Served tableSize inCapacity outCapacity) :
    Option (Served tableSize inCapacity outCapacity) :=
  match served.machine with
  | .polling =>
      match served.wire with
      | [] => some { served with machine := .pollingOutbound }
      | frame :: rest => some { served with wire := rest, machine := .delivering frame }
  | .pollingOutbound =>
      match served.table.nextOutbound build served.locals with
      | .ok ⟨table, none, _, _⟩ => some { served with table := table, machine := .polling }
      | .ok ⟨table, some frame, _, _⟩ =>
          match served.outbound.take with
          | some (_, outbound) =>
              some { served with
                table := table, outbound := outbound, machine := .sending frame }
          | none => none
      | .error _ => none
  | .delivering frame =>
      match served.inbound.reserve with
      | some inbound => some { served with inbound := inbound, machine := .committing frame }
      | none => none
  | .committing frame =>
      -- Delivering the body of a DATA frame leaves nothing to answer.
      match served.table.processInbound served.locals 0 frame,
        served.inbound.commit frame.body with
      | .ok ⟨table, none, _, _⟩, some inbound =>
          some { served with table := table, inbound := inbound, machine := .polling }
      | _, _ => none
  | .sending frame =>
      match served.outbound.release with
      | some outbound =>
          some { served with
            outbound := outbound, sent := served.sent ++ [frame], machine := .polling }
      | none => none

/-- One step of the service: it receives a message and sends a reply. -/
def workerStep (served : Served tableSize inCapacity outCapacity) (reply : List UInt8) :
    Option (Served tableSize inCapacity outCapacity) :=
  match served.worker with
  | .receiving =>
      match served.inbound.take with
      | some (body, inbound) =>
          some { served with inbound := inbound, worker := .received body }
      | none => none
  | .received _ =>
      match served.inbound.release with
      | some inbound => some { served with inbound := inbound, worker := .replying reply }
      | none => none
  | .replying message =>
      match served.outbound.reserve with
      | some outbound =>
          some { served with outbound := outbound, worker := .committing message }
      | none => none
  | .committing message =>
      match served.outbound.commit message with
      | some outbound => some { served with outbound := outbound, worker := .receiving }
      | none => none

/-- A step of either task, or the arrival of a frame, which is the only event. -/
def step (build : Build) (served : Served tableSize inCapacity outCapacity) :
    ServedAction → Option (Served tableSize inCapacity outCapacity × List InboundFrame)
  | .arrive frame => some ({ served with wire := served.wire ++ [frame] }, [frame])
  | .machine => (served.machineStep build).map (·, [])
  | .worker reply => (served.workerStep reply).map (·, [])

/-- The machine waits in `process_inbound` for a place in the inbound channel
while the service waits for a place in the outbound channel. -/
structure CircularWait (served : Served tableSize inCapacity outCapacity) : Prop where
  machine : ∃ frame, served.machine = .delivering frame
  inbound : served.inbound.Full
  worker : ∃ reply, served.worker = .replying reply
  outbound : served.outbound.Full

end Served

/-- The connection is open, and no other socket is in the table. -/
structure OneOpen {tableSize : Nat} (table : ConnTable tableSize) (localId remoteId : Id) :
    Prop where
  opened : ∃ channel, table.entry localId = some (.occupied ⟨.opened remoteId, channel⟩)
  alone : ∀ id, id ≠ localId → (table.entry id).bind Entry.socket = none
  alive : table.deadIndex = none

/-- A DATA frame that the remote end of the connection sent. -/
def InboundFrame.DataFor (localId remoteId : Id) (frame : InboundFrame) : Prop :=
  frame.header = .data remoteId localId

namespace Served

section Stuck

variable {tableSize inCapacity outCapacity : Nat} {build : Build}
  {served next : Served tableSize inCapacity outCapacity} {arrivals : List InboundFrame}

/-- Neither task can take a step. -/
theorem CircularWait.blocked (circular : served.CircularWait) (build : Build) :
    served.machineStep build = none ∧ ∀ reply, served.workerStep reply = none := by
  obtain ⟨frame, atMachine⟩ := circular.machine
  obtain ⟨message, atWorker⟩ := circular.worker
  have inbound := Mailbox.reserve_eq_none_iff.mpr circular.inbound
  have outbound := Mailbox.reserve_eq_none_iff.mpr circular.outbound
  constructor
  · simp [machineStep, atMachine, inbound]
  · intro reply
    simp [workerStep, atWorker, outbound]

theorem CircularWait.step {action : ServedAction} (circular : served.CircularWait)
    (stepTo : served.step build action = some (next, arrivals)) : next.CircularWait := by
  obtain ⟨machine, worker⟩ := circular.blocked build
  cases action with
  | arrive frame =>
      cases stepTo
      exact ⟨circular.machine, circular.inbound, circular.worker, circular.outbound⟩
  | machine => simp [Served.step, machine] at stepTo
  | worker reply => simp [Served.step, worker] at stepTo

/-- Whatever arrives later, the tasks wait for each other forever. -/
theorem CircularWait.run (circular : served.CircularWait)
    (run : Run (Served.step build) anyStep served arrivals next) : next.CircularWait := by
  induction run with
  | refl => exact circular
  | tail _ _ stepTo ih => exact ih.step stepTo

end Stuck

section Tallies

variable {tableSize inCapacity outCapacity : Nat} {build : Build}
  {served next : Served tableSize inCapacity outCapacity} {history arrivals : List InboundFrame}

/-- Every frame that has arrived is on the wire, on its way through the service
or answered, and both tasks hold the places of what they work on. -/
structure Tallied (history : List InboundFrame)
    (served : Served tableSize inCapacity outCapacity) : Prop where
  inbound : served.inbound.held = served.machine.permits + served.worker.takes
  outbound : served.outbound.held = served.worker.permits + served.machine.sends
  total : history.length = served.wire.length + served.machine.delivers +
    served.inbound.queue.length + served.worker.serves + served.outbound.queue.length +
    served.machine.sends + served.sent.length

theorem tallied_new (table : ConnTable tableSize) (inCapacity outCapacity : Nat) :
    Tallied [] (new table inCapacity outCapacity) :=
  ⟨rfl, rfl, rfl⟩

theorem Tallied.machine (tallied : Tallied history served)
    (stepTo : served.machineStep build = some next) : Tallied history next := by
  obtain ⟨table, wire, pc, inbound, worker, outbound, sent⟩ := served
  obtain ⟨inboundHeld, outboundHeld, total⟩ := tallied
  cases pc with
  | polling =>
      cases wire with
      | nil =>
          cases stepTo
          exact ⟨inboundHeld, outboundHeld, total⟩
      | cons frame rest =>
          cases stepTo
          refine ⟨inboundHeld, outboundHeld, ?_⟩
          simp only [List.length_cons, MachinePc.delivers, MachinePc.sends] at total ⊢
          omega
  | pollingOutbound =>
      simp only [machineStep] at stepTo
      split at stepTo
      · cases stepTo
        exact ⟨inboundHeld, outboundHeld, total⟩
      · split at stepTo <;> cases stepTo
        rename_i after taken
        obtain ⟨queue, held⟩ := Mailbox.of_take taken
        simp only [queue, List.length_cons, MachinePc.permits, MachinePc.delivers,
          MachinePc.sends] at inboundHeld outboundHeld total
        refine ⟨inboundHeld, ?_, ?_⟩
        · simp only [held, outboundHeld, MachinePc.sends]
        · simp only [MachinePc.delivers, MachinePc.sends]
          omega
      · cases stepTo
  | delivering frame =>
      simp only [machineStep] at stepTo
      split at stepTo <;> cases stepTo
      rename_i after reserved
      obtain ⟨queue, held⟩ := Mailbox.of_reserve reserved
      simp only [MachinePc.permits] at inboundHeld
      refine ⟨?_, outboundHeld, ?_⟩
      · simp only [MachinePc.permits]
        omega
      · rw [queue]
        exact total
  | committing frame =>
      simp only [machineStep] at stepTo
      split at stepTo <;> cases stepTo
      rename_i after processed committed
      obtain ⟨queue, held⟩ := Mailbox.of_commit committed
      simp only [MachinePc.permits, MachinePc.delivers, MachinePc.sends] at inboundHeld total
      refine ⟨?_, outboundHeld, ?_⟩
      · simp only [MachinePc.permits]
        omega
      · simp only [queue, List.length_append, List.length_singleton, MachinePc.delivers,
          MachinePc.sends]
        omega
  | sending frame =>
      simp only [machineStep] at stepTo
      split at stepTo <;> cases stepTo
      rename_i after released
      obtain ⟨queue, held⟩ := Mailbox.of_release released
      simp only [MachinePc.delivers, MachinePc.sends] at outboundHeld total
      refine ⟨inboundHeld, ?_, ?_⟩
      · simp only [MachinePc.sends]
        omega
      · simp only [queue, List.length_append, List.length_singleton, MachinePc.delivers,
          MachinePc.sends]
        omega

theorem Tallied.worker {reply : List UInt8} (tallied : Tallied history served)
    (stepTo : served.workerStep reply = some next) : Tallied history next := by
  obtain ⟨table, wire, machine, inbound, pc, outbound, sent⟩ := served
  obtain ⟨inboundHeld, outboundHeld, total⟩ := tallied
  cases pc with
  | receiving =>
      simp only [workerStep] at stepTo
      split at stepTo <;> cases stepTo
      rename_i body after taken
      obtain ⟨queue, held⟩ := Mailbox.of_take taken
      simp only [queue, List.length_cons, WorkerPc.takes, WorkerPc.serves] at inboundHeld total
      refine ⟨?_, outboundHeld, ?_⟩
      · simp only [held, inboundHeld, WorkerPc.takes]
      · simp only [WorkerPc.serves]
        omega
  | received body =>
      simp only [workerStep] at stepTo
      split at stepTo <;> cases stepTo
      rename_i after released
      obtain ⟨queue, held⟩ := Mailbox.of_release released
      simp only [WorkerPc.takes] at inboundHeld
      refine ⟨?_, outboundHeld, ?_⟩
      · simp only [WorkerPc.takes]
        omega
      · rw [queue]
        exact total
  | replying message =>
      simp only [workerStep] at stepTo
      split at stepTo <;> cases stepTo
      rename_i after reserved
      obtain ⟨queue, held⟩ := Mailbox.of_reserve reserved
      simp only [WorkerPc.permits] at outboundHeld
      refine ⟨inboundHeld, ?_, ?_⟩
      · simp only [WorkerPc.permits]
        omega
      · rw [queue]
        exact total
  | committing message =>
      simp only [workerStep] at stepTo
      split at stepTo <;> cases stepTo
      rename_i after committed
      obtain ⟨queue, held⟩ := Mailbox.of_commit committed
      simp only [WorkerPc.permits, WorkerPc.serves] at outboundHeld total
      refine ⟨inboundHeld, ?_, ?_⟩
      · simp only [WorkerPc.permits]
        omega
      · simp only [queue, List.length_append, List.length_singleton, WorkerPc.serves]
        omega

theorem Tallied.step {action : ServedAction} (tallied : Tallied history served)
    (stepTo : served.step build action = some (next, arrivals)) :
    Tallied (history ++ arrivals) next := by
  cases action with
  | arrive frame =>
      cases stepTo
      refine ⟨tallied.inbound, tallied.outbound, ?_⟩
      have total := tallied.total
      simp only [List.length_append, List.length_singleton]
      omega
  | machine =>
      simp only [Served.step, Option.map_eq_some_iff, Prod.mk.injEq] at stepTo
      obtain ⟨after, stepTo, rfl, rfl⟩ := stepTo
      rw [List.append_nil]
      exact tallied.machine stepTo
  | worker reply =>
      simp only [Served.step, Option.map_eq_some_iff, Prod.mk.injEq] at stepTo
      obtain ⟨after, stepTo, rfl, rfl⟩ := stepTo
      rw [List.append_nil]
      exact tallied.worker stepTo

theorem tallied_of_run {table : ConnTable tableSize}
    (run : Run (Served.step build) anyStep (new table inCapacity outCapacity) history served) :
    Tallied history served := by
  apply run.invariant Tallied (tallied_new table inCapacity outCapacity)
  intro past events before after action holds _ stepTo
  exact holds.step stepTo

/-- Both channels are full, and each task works on one more message. -/
theorem Tallied.length_of_circularWait (tallied : Tallied history served)
    (circular : served.CircularWait) : inCapacity + outCapacity + 2 ≤ history.length := by
  obtain ⟨inboundHeld, outboundHeld, total⟩ := tallied
  obtain ⟨frame, atMachine⟩ := circular.machine
  obtain ⟨reply, atWorker⟩ := circular.worker
  have inbound := circular.inbound
  have outbound := circular.outbound
  simp only [atMachine, atWorker, MachinePc.permits, MachinePc.sends, MachinePc.delivers,
    WorkerPc.takes, WorkerPc.permits, WorkerPc.serves] at inboundHeld outboundHeld total
  simp only [Mailbox.Full, inboundHeld, outboundHeld] at inbound outbound
  omega

end Tallies

section Schedules

variable {tableSize inCapacity outCapacity : Nat} (build : Build)
  {served : Served tableSize inCapacity outCapacity} {frame : InboundFrame}
  {rest frames : List InboundFrame} {localId remoteId : Id}

theorem run_machine {next : Served tableSize inCapacity outCapacity}
    (stepTo : served.machineStep build = some next) :
    Run (Served.step build) anyStep served [] next :=
  Run.single trivial (show Served.step build served .machine = some (next, []) by
    rw [Served.step, stepTo, Option.map_some])

theorem run_worker {next : Served tableSize inCapacity outCapacity} {reply : List UInt8}
    (stepTo : served.workerStep reply = some next) :
    Run (Served.step build) anyStep served [] next :=
  Run.single trivial (show Served.step build served (.worker reply) = some (next, []) by
    rw [Served.step, stepTo, Option.map_some])

/-- The frames arrive in a burst. -/
theorem run_arrivals (served : Served tableSize inCapacity outCapacity)
    (frames : List InboundFrame) :
    Run (Served.step build) anyStep served frames
      { served with wire := served.wire ++ frames } := by
  induction frames generalizing served with
  | nil =>
      rw [List.append_nil]
      exact .refl
  | cons frame frames ih =>
      have first : Run (Served.step build) anyStep served [frame]
          { served with wire := served.wire ++ [frame] } :=
        Run.single trivial (show Served.step build served (.arrive frame) = _ from rfl)
      have burst := first.trans (ih _)
      rwa [List.append_assoc] at burst

/-- A DATA frame of an open connection is delivered. -/
theorem processInbound_data (served : Served tableSize inCapacity outCapacity)
    (oneOpen : OneOpen served.table localId remoteId)
    (valid : frame.DataFor localId remoteId) :
    ∃ events, served.table.processInbound served.locals 0 frame =
      .ok ⟨served.table, none, none, events⟩ := by
  obtain ⟨channel, opened⟩ := oneOpen.opened
  unfold InboundFrame.DataFor at valid
  simp [ConnTable.processInbound, valid, ConnTable.processData, opened, locals, Locals.quiet]

/-- The machine takes a frame from the wire and delivers its body. -/
theorem run_deliver (oneOpen : OneOpen served.table localId remoteId)
    (valid : frame.DataFor localId remoteId) (atMachine : served.machine = .polling)
    (wire : served.wire = frame :: rest)
    (room : served.inbound.queue.length + served.inbound.held < inCapacity) :
    ∃ inbound : Mailbox (List UInt8) inCapacity,
      inbound.queue = served.inbound.queue ++ [frame.body] ∧
      inbound.held = served.inbound.held ∧
      Run (Served.step build) anyStep served []
        { served with wire := rest, inbound := inbound } := by
  obtain ⟨reserved, reserveTo⟩ := Mailbox.exists_reserve room
  obtain ⟨reservedQueue, reservedHeld⟩ := Mailbox.of_reserve reserveTo
  obtain ⟨inbound, commitTo⟩ :=
    Mailbox.exists_commit (by omega : 0 < reserved.held) frame.body
  obtain ⟨queue, held⟩ := Mailbox.of_commit commitTo
  have takes : served.machineStep build =
      some { served with wire := rest, machine := .delivering frame } := by
    simp only [machineStep, atMachine, wire]
  have reserves : machineStep build
      { served with wire := rest, machine := .delivering frame } =
        some { served with
          wire := rest, inbound := reserved, machine := .committing frame } := by
    simp only [machineStep, reserveTo]
  have commits : machineStep build
      { served with wire := rest, inbound := reserved, machine := .committing frame } =
        some { served with wire := rest, inbound := inbound, machine := .polling } := by
    obtain ⟨events, processed⟩ := processInbound_data
      { served with wire := rest, inbound := reserved, machine := .committing frame }
      oneOpen valid
    simp only [machineStep, commitTo, processed]
  refine ⟨inbound, by rw [queue, reservedQueue], by omega, ?_⟩
  have steps := ((run_machine build takes).trans (run_machine build reserves)).trans
    (run_machine build commits)
  rwa [← atMachine] at steps

/-- The service receives the oldest message and starts its reply. -/
theorem run_receive {body : List UInt8} {later : List (List UInt8)}
    (atWorker : served.worker = .receiving) (waits : served.inbound.queue = body :: later) :
    ∃ inbound : Mailbox (List UInt8) inCapacity,
      inbound.queue = later ∧ inbound.held = served.inbound.held ∧
      Run (Served.step build) anyStep served []
        { served with inbound := inbound, worker := .replying [] } := by
  obtain ⟨taken, takeTo⟩ := Mailbox.exists_take waits
  obtain ⟨takenQueue, takenHeld⟩ := Mailbox.of_take takeTo
  obtain ⟨inbound, releaseTo⟩ := Mailbox.exists_release (by omega : 0 < taken.held)
  obtain ⟨queue, held⟩ := Mailbox.of_release releaseTo
  have receives : served.workerStep [] =
      some { served with inbound := taken, worker := .received body } := by
    simp only [workerStep, atWorker, takeTo]
  have releases : workerStep { served with inbound := taken, worker := .received body } [] =
      some { served with inbound := inbound, worker := .replying [] } := by
    simp only [workerStep, releaseTo]
  have sameQueue : body :: taken.queue = body :: later := takenQueue.symm.trans waits
  refine ⟨inbound, by rw [queue, List.cons_injective.eq_iff.mp sameQueue], by omega, ?_⟩
  exact (run_worker build receives).trans (run_worker build releases)

/-- The service sends its reply and waits for the next message. -/
theorem run_reply {reply : List UInt8} (atWorker : served.worker = .replying reply)
    (room : served.outbound.queue.length + served.outbound.held < outCapacity) :
    ∃ outbound : Mailbox (List UInt8) outCapacity,
      outbound.queue = served.outbound.queue ++ [reply] ∧
      outbound.held = served.outbound.held ∧
      Run (Served.step build) anyStep served []
        { served with outbound := outbound, worker := .receiving } := by
  obtain ⟨reserved, reserveTo⟩ := Mailbox.exists_reserve room
  obtain ⟨reservedQueue, reservedHeld⟩ := Mailbox.of_reserve reserveTo
  obtain ⟨outbound, commitTo⟩ :=
    Mailbox.exists_commit (by omega : 0 < reserved.held) reply
  obtain ⟨queue, held⟩ := Mailbox.of_commit commitTo
  have reserves : served.workerStep [] =
      some { served with outbound := reserved, worker := .committing reply } := by
    simp only [workerStep, atWorker, reserveTo]
  have commits : workerStep { served with outbound := reserved, worker := .committing reply } [] =
      some { served with outbound := outbound, worker := .receiving } := by
    simp only [workerStep, commitTo]
  refine ⟨outbound, by rw [queue, reservedQueue], by omega, ?_⟩
  exact (run_worker build reserves).trans (run_worker build commits)

/-- The service answers a frame, and the reply stays in the outbound channel. -/
theorem run_exchange (oneOpen : OneOpen served.table localId remoteId)
    (valid : frame.DataFor localId remoteId) (inPos : 0 < inCapacity)
    (atMachine : served.machine = .polling) (atWorker : served.worker = .receiving)
    (wire : served.wire = frame :: rest) (queue : served.inbound.queue = [])
    (held : served.inbound.held = 0)
    (room : served.outbound.queue.length + served.outbound.held < outCapacity) :
    ∃ inbound : Mailbox (List UInt8) inCapacity, ∃ outbound : Mailbox (List UInt8) outCapacity,
      inbound.queue = [] ∧ inbound.held = 0 ∧
      outbound.queue.length = served.outbound.queue.length + 1 ∧
      outbound.held = served.outbound.held ∧
      Run (Served.step build) anyStep served []
        { served with wire := rest, inbound := inbound, outbound := outbound } := by
  obtain ⟨filled, filledQueue, filledHeld, delivers⟩ :=
    run_deliver build oneOpen valid atMachine wire (by rw [queue, held]; exact inPos)
  rw [queue, List.nil_append] at filledQueue
  let delivered : Served tableSize inCapacity outCapacity :=
    { served with wire := rest, inbound := filled }
  have idle : delivered.worker = .receiving := atWorker
  obtain ⟨emptied, emptiedQueue, emptiedHeld, receives⟩ := run_receive build idle filledQueue
  let received : Served tableSize inCapacity outCapacity :=
    { delivered with inbound := emptied, worker := .replying [] }
  have replying : received.worker = .replying [] := rfl
  obtain ⟨replied, repliedQueue, repliedHeld, replies⟩ := run_reply build replying room
  refine ⟨emptied, replied, emptiedQueue, ?_, ?_, repliedHeld, ?_⟩
  · rw [emptiedHeld]
    exact filledHeld.trans held
  · rw [repliedQueue, List.length_append, List.length_singleton]
  · have steps := (delivers.trans receives).trans replies
    rwa [← atWorker] at steps

/-- With the wire always ready, the machine leaves the replies where they are
until they fill the outbound channel. -/
theorem run_exchanges (oneOpen : OneOpen served.table localId remoteId)
    (valid : ∀ frame ∈ frames, frame.DataFor localId remoteId)
    (inPos : 0 < inCapacity) (atMachine : served.machine = .polling)
    (atWorker : served.worker = .receiving) (wire : served.wire = frames ++ rest)
    (queue : served.inbound.queue = []) (held : served.inbound.held = 0)
    (fills : served.outbound.queue.length + served.outbound.held + frames.length =
      outCapacity) :
    ∃ inbound : Mailbox (List UInt8) inCapacity, ∃ outbound : Mailbox (List UInt8) outCapacity,
      inbound.queue = [] ∧ inbound.held = 0 ∧ outbound.Full ∧
      Run (Served.step build) anyStep served []
        { served with wire := rest, inbound := inbound, outbound := outbound } := by
  induction frames generalizing served with
  | nil =>
      refine ⟨served.inbound, served.outbound, queue, held, fills, ?_⟩
      rw [List.nil_append] at wire
      rw [← wire]
      exact .refl
  | cons frame frames ih =>
      rw [List.length_cons] at fills
      obtain ⟨emptied, replied, emptiedQueue, emptiedHeld, repliedLength, repliedHeld, first⟩ :=
        run_exchange build oneOpen (valid frame List.mem_cons_self) inPos atMachine atWorker
          wire queue held (by omega)
      let answered : Served tableSize inCapacity outCapacity :=
        { served with wire := frames ++ rest, inbound := emptied, outbound := replied }
      have stillFills : answered.outbound.queue.length + answered.outbound.held +
          frames.length = outCapacity := by
        change replied.queue.length + replied.held + frames.length = outCapacity
        omega
      obtain ⟨inbound, outbound, finalQueue, finalHeld, full, others⟩ := ih
        (show OneOpen answered.table localId remoteId from oneOpen)
        (fun later member => valid later (List.mem_cons_of_mem frame member))
        atMachine atWorker rfl emptiedQueue emptiedHeld stillFills
      exact ⟨inbound, outbound, finalQueue, finalHeld, full, first.trans others⟩

/-- While the service waits, the machine fills the inbound channel. -/
theorem run_deliveries (oneOpen : OneOpen served.table localId remoteId)
    (valid : ∀ frame ∈ frames, frame.DataFor localId remoteId)
    (atMachine : served.machine = .polling) (wire : served.wire = frames ++ rest)
    (fills : served.inbound.queue.length + served.inbound.held + frames.length = inCapacity) :
    ∃ inbound : Mailbox (List UInt8) inCapacity, inbound.Full ∧
      Run (Served.step build) anyStep served []
        { served with wire := rest, inbound := inbound } := by
  induction frames generalizing served with
  | nil =>
      refine ⟨served.inbound, fills, ?_⟩
      rw [List.nil_append] at wire
      rw [← wire]
      exact .refl
  | cons frame frames ih =>
      rw [List.length_cons] at fills
      obtain ⟨filled, filledQueue, filledHeld, delivers⟩ := run_deliver build oneOpen
        (valid frame List.mem_cons_self) atMachine wire (by omega)
      let delivered : Served tableSize inCapacity outCapacity :=
        { served with wire := frames ++ rest, inbound := filled }
      have stillFills : delivered.inbound.queue.length + delivered.inbound.held +
          frames.length = inCapacity := by
        change filled.queue.length + filled.held + frames.length = inCapacity
        rw [filledQueue, List.length_append, List.length_singleton]
        omega
      obtain ⟨inbound, full, deliveries⟩ := ih
        (show OneOpen delivered.table localId remoteId from oneOpen)
        (fun later member => valid later (List.mem_cons_of_mem frame member))
        atMachine rfl stillFills
      exact ⟨inbound, full, delivers.trans deliveries⟩

/-- The service waits with its reply, the inbound channel fills up, and the machine
waits with the next frame. -/
theorem run_stall {last : InboundFrame} (oneOpen : OneOpen served.table localId remoteId)
    (valid : ∀ each ∈ frame :: frames, each.DataFor localId remoteId)
    (fills : frames.length = inCapacity) (inPos : 0 < inCapacity)
    (atMachine : served.machine = .polling) (atWorker : served.worker = .receiving)
    (wire : served.wire = frame :: (frames ++ last :: rest))
    (queue : served.inbound.queue = []) (held : served.inbound.held = 0) :
    ∃ inbound : Mailbox (List UInt8) inCapacity, inbound.Full ∧
      Run (Served.step build) anyStep served []
        { served with
          wire := rest, inbound := inbound, machine := .delivering last,
          worker := .replying [] } := by
  obtain ⟨filled, filledQueue, filledHeld, delivers⟩ := run_deliver build oneOpen
    (valid frame List.mem_cons_self) atMachine wire (by rw [queue, held]; exact inPos)
  rw [queue, List.nil_append] at filledQueue
  let delivered : Served tableSize inCapacity outCapacity :=
    { served with wire := frames ++ last :: rest, inbound := filled }
  have idle : delivered.worker = .receiving := atWorker
  obtain ⟨taken, takenQueue, takenHeld, receives⟩ := run_receive build idle filledQueue
  let replying : Served tableSize inCapacity outCapacity :=
    { delivered with inbound := taken, worker := .replying [] }
  have empties : replying.inbound.queue.length + replying.inbound.held + frames.length =
      inCapacity := by
    have nothingHeld : taken.held = 0 := takenHeld.trans (filledHeld.trans held)
    change taken.queue.length + taken.held + frames.length = inCapacity
    rw [takenQueue, nothingHeld, fills]
    exact Nat.zero_add inCapacity
  obtain ⟨inbound, full, deliveries⟩ := run_deliveries build
    (show OneOpen replying.table localId remoteId from oneOpen)
    (fun each member => valid each (List.mem_cons_of_mem frame member)) atMachine rfl empties
  have takes : machineStep build { replying with wire := last :: rest, inbound := inbound } =
      some { replying with
        wire := rest, inbound := inbound, machine := .delivering last } := by
    simp only [machineStep, replying, delivered, atMachine]
  exact ⟨inbound, full, ((delivers.trans receives).trans deliveries).trans
    (run_machine build takes)⟩

theorem exists_split (frames : List InboundFrame) {size : Nat} (enough : size ≤ frames.length) :
    ∃ front back, frames = front ++ back ∧ front.length = size :=
  ⟨_, _, (List.take_append_drop size frames).symm, List.length_take_of_le enough⟩

/-- A burst of frames that exceeds both channels by two closes the circle. -/
theorem exists_circularWait {table : ConnTable tableSize}
    (oneOpen : OneOpen table localId remoteId)
    (valid : ∀ frame ∈ frames, frame.DataFor localId remoteId) (inPos : 0 < inCapacity)
    (burst : inCapacity + outCapacity + 2 ≤ frames.length) :
    ∃ final, Run (Served.step build) anyStep (new table inCapacity outCapacity) frames final ∧
      final.CircularWait := by
  obtain ⟨answered, others, rfl, answeredLength⟩ := exists_split frames
    (by omega : outCapacity ≤ frames.length)
  rw [List.length_append] at burst
  obtain ⟨frame, others, rfl⟩ := List.exists_cons_of_length_pos (by omega : 0 < others.length)
  rw [List.length_cons] at burst
  obtain ⟨delivered, others, rfl, deliveredLength⟩ :=
    exists_split others (by omega : inCapacity ≤ others.length)
  rw [List.length_append] at burst
  obtain ⟨last, rest, rfl⟩ := List.exists_cons_of_length_pos (by omega : 0 < others.length)
  have arrivals := run_arrivals build (new table inCapacity outCapacity)
    (answered ++ frame :: (delivered ++ last :: rest))
  rw [show (new table inCapacity outCapacity).wire = [] from rfl, List.nil_append] at arrivals
  let arrived : Served tableSize inCapacity outCapacity :=
    { new table inCapacity outCapacity with
      wire := answered ++ frame :: (delivered ++ last :: rest) }
  obtain ⟨emptied, outbound, emptiedQueue, emptiedHeld, outboundFull, exchanges⟩ :=
    run_exchanges build (show OneOpen arrived.table localId remoteId from oneOpen)
      (fun each member => valid each (List.mem_append_left _ member)) inPos rfl rfl rfl rfl rfl
      (by rw [answeredLength]; exact Nat.zero_add outCapacity)
  let exchanged : Served tableSize inCapacity outCapacity :=
    { arrived with
      wire := frame :: (delivered ++ last :: rest), inbound := emptied, outbound := outbound }
  obtain ⟨inbound, inboundFull, stalls⟩ :=
    run_stall build (show OneOpen exchanged.table localId remoteId from oneOpen)
      (fun each member => valid each (by
        rcases List.mem_cons.mp member with rfl | inside
        · simp
        · simp [inside]))
      deliveredLength inPos rfl rfl rfl emptiedQueue emptiedHeld
  have steps := (arrivals.trans exchanges).trans stalls
  rw [List.append_nil, List.append_nil] at steps
  exact ⟨_, steps, ⟨last, rfl⟩, inboundFull, ⟨[], rfl⟩, outboundFull⟩

end Schedules

/-- The two tasks can come to wait for each other exactly when more frames arrive
than both channels and both tasks together can hold. -/
theorem no_circularWait_iff {tableSize inCapacity outCapacity : Nat} (build : Build)
    {table : ConnTable tableSize} {localId remoteId : Id} {frames : List InboundFrame}
    (inPos : 0 < inCapacity) (oneOpen : OneOpen table localId remoteId)
    (valid : ∀ frame ∈ frames, frame.DataFor localId remoteId) :
    (∀ arrived final, arrived <+: frames →
      Run (step build) anyStep (new table inCapacity outCapacity) arrived final →
      ¬ final.CircularWait) ↔ frames.length ≤ inCapacity + outCapacity + 1 := by
  constructor
  · intro never
    by_contra more
    obtain ⟨final, run, circular⟩ := exists_circularWait build oneOpen valid inPos
      (by omega : inCapacity + outCapacity + 2 ≤ frames.length)
    exact never frames final (List.prefix_refl frames) run circular
  · intro few arrived final early run circular
    have enough := (tallied_of_run run).length_of_circularWait circular
    have bound := early.length_le
    omega

/-- A table with one open connection of which both ends are the first. -/
def oneConnection : ConnTable 1 where
  conns := #v[.occupied ⟨.opened .first, 0⟩]
  nextId := ⟨2, by decide⟩
  len := 1
  deadIndex := none

theorem oneOpen_oneConnection : OneOpen oneConnection .first .first where
  opened := ⟨0, rfl⟩
  alone id other := by
    have outside : ¬ id.toIndex < 1 := by
      intro inside
      apply other
      rw [← Id.toIndex_inj, Id.toIndex_first]
      omega
    simp [ConnTable.entry, outside]
  alive := rfl

def request (byte : UInt8) : InboundFrame := ⟨.data .first .first, [byte]⟩

theorem dataFor_request (bytes : List UInt8) :
    ∀ frame ∈ bytes.map request, frame.DataFor .first .first := by
  intro frame member
  obtain ⟨byte, -, rfl⟩ := List.mem_map.mp member
  rfl

/-- Two channels of one place take three frames. -/
theorem no_circularWait_three :
    ([1, 2, 3].map request).length = 1 + 1 + 1 ∧
      ∀ arrived final, arrived <+: [1, 2, 3].map request →
        Run (step .debug) anyStep (new oneConnection 1 1) arrived final →
        ¬ final.CircularWait :=
  ⟨rfl, (no_circularWait_iff .debug Nat.one_pos oneOpen_oneConnection
    (dataFor_request [1, 2, 3])).mpr (by decide)⟩

/-- Four frames close the circle. -/
theorem circularWait_reachable :
    ¬ ∀ (build : Build) (tableSize inCapacity outCapacity : Nat)
      (table : ConnTable tableSize) (localId remoteId : Id) (frames : List InboundFrame),
      0 < inCapacity → 0 < outCapacity → OneOpen table localId remoteId →
      (∀ frame ∈ frames, frame.DataFor localId remoteId) →
      ∀ arrived final, arrived <+: frames →
        Run (step build) anyStep (new table inCapacity outCapacity) arrived final →
        ¬ final.CircularWait := by
  intro always
  obtain ⟨final, run, circular⟩ := exists_circularWait .debug oneOpen_oneConnection
    (dataFor_request [1, 2, 3, 4]) Nat.one_pos (by decide : 1 + 1 + 2 ≤ _)
  exact always .debug 1 1 1 oneConnection .first .first _ Nat.one_pos Nat.one_pos
    oneOpen_oneConnection (dataFor_request [1, 2, 3, 4]) _ final (List.prefix_refl _) run
    circular

end Served

end Calliope

end Mgnp
