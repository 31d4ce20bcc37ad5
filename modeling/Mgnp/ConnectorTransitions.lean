import Mgnp.Connector
import Mgnp.OneshotNewest

/-!
# The steps of the connector

This file says what one step of a connector does to its oneshot channel and to the
call in progress.  A run of the connector is a run of the channel, which nobody
closes.
-/

namespace Mgnp

namespace Calliope

namespace Connector

open LabelledRuns Oneshot

variable {Hello : Type*} {storage : SerBox.Storage} {connector next : Connector Hello}
  {history events : List Event} {byRun : Prop}

/-- The call of the receiver that the connector waits for. -/
def Pc.call : Pc Hello → Option ReceiverCall
  | .taking _ _ => some .sender
  | .receiving _ _ => some .recv
  | .idle | .reserving _ _ | .sharing _ _ | .parked _ _ | .writing _ | .sending _ _ _
  | .panicked _ => none

/-- The sender of the call in progress. -/
def Pc.own : Pc Hello → Option Nat
  | .sending _ _ sender | .receiving _ sender => some sender
  | .idle | .reserving _ _ | .sharing _ _ | .parked _ _ | .writing _ | .taking _ _
  | .panicked _ => none

/-- The call has not come to the channel, or has left it. -/
structure Pc.Outside (pc : Pc Hello) : Prop where
  call : pc.call = none
  own : pc.own = none

/-- The events of a step outside of the channel. -/
inductive Mild : List Event → Prop
  | nil : Mild []
  | abandoned (call : Call) : Mild [.abandoned call]
  | closed (call : Call) : Mild [.returned call .closed]

/-- The events of the channel. -/
def rspEvents (history : List Event) : List (Oneshot.Event ConnectAnswer) :=
  history.filterMap fun
    | .rsp event => some event
    | _ => none

theorem rspEvents_append :
    rspEvents (history ++ events) = rspEvents history ++ rspEvents events :=
  List.filterMap_append

@[simp] theorem rspEvents_map (events : List (Oneshot.Event ConnectAnswer)) :
    rspEvents (events.map .rsp) = events := by
  induction events with
  | nil => rfl
  | cons event events ih => exact congrArg (event :: ·) ih

theorem mem_rspEvents {event : Oneshot.Event ConnectAnswer} :
    event ∈ rspEvents history ↔ .rsp event ∈ history := by
  rw [rspEvents, List.mem_filterMap]
  constructor
  · rintro ⟨found, member, isRsp⟩
    cases found with
    | rsp own =>
        cases isRsp
        exact member
    | _ => cases isRsp
  · intro member
    exact ⟨_, member, rfl⟩

/-- One step of the connector, with a statement that holds of the call's own steps. -/
inductive Transition (storage : SerBox.Storage) (connector : Connector Hello) (byRun : Prop) :
    Connector Hello → List Event → Prop
  | hello {helloSharer : SerBox.Sharing Hello} :
      Transition storage connector byRun { connector with helloSharer := helloSharer } []
  | outside {helloSharer : SerBox.Sharing Hello} {calls : Nat} {pc : Pc Hello}
      {events : List Event} (before : connector.pc.Outside) (after : pc.Outside)
      (mild : Mild events) :
      Transition storage connector byRun
        { connector with helloSharer := helloSharer, calls := calls, pc := pc } events
  | take {call : Call} {hello : Nat} {helloSharer : SerBox.Sharing Hello}
      {rsp : Channel ConnectAnswer} (at_pc : connector.pc = .writing call)
      (stepTo : connector.rsp.step .sender = some (rsp, [])) :
      Transition storage connector byRun
        { connector with helloSharer := helloSharer, rsp := rsp, pc := .taking call hello } []
  | request {call : Call} {hello sender : Nat} {rsp : Channel ConnectAnswer} {request : Request}
      (at_pc : connector.pc = .sending call hello sender) (own : request.rsp = sender)
      (stepTo : connector.rsp.step .recv = some (rsp, [])) :
      Transition storage connector byRun
        { connector with
          rsp := rsp
          pc := .receiving call sender
          requests := connector.requests ++ [request] } [.requested call request]
  | ran {rsp : Channel ConnectAnswer} {rspEvents : List (Oneshot.Event ConnectAnswer)}
      (own : byRun) (called : connector.pc.call ≠ none)
      (stepTo : connector.rsp.step .runRx = some (rsp, rspEvents)) :
      Transition storage connector byRun
        ({ connector with rsp := rsp }.resume storage connector.rsp.rxAnswer).1
        (rspEvents.map .rsp ++
          ({ connector with rsp := rsp }.resume storage connector.rsp.rxAnswer).2)
  | woken {rsp : Channel ConnectAnswer}
      (stepTo : connector.rsp.step .woken = some (rsp, [])) :
      Transition storage connector byRun { connector with rsp := rsp } []
  | cancelled {call : Call} {rsp : Channel ConnectAnswer} {helloSharer : SerBox.Sharing Hello}
      (stepTo : connector.rsp.step .cancel = some (rsp, [])) :
      Transition storage connector byRun
        { connector with helloSharer := helloSharer, rsp := rsp, pc := .idle } [.abandoned call]
  | answer {sender : Nat} {answer : ConnectAnswer} {rsp : Channel ConnectAnswer}
      (stepTo : connector.rsp.step (.send sender answer false) = some (rsp, [])) :
      Transition storage connector byRun { connector with rsp := rsp } []
  | dropRsp {sender : Nat} {rsp : Channel ConnectAnswer}
      (stepTo : connector.rsp.step (.dropSender sender) = some (rsp, [])) :
      Transition storage connector byRun { connector with rsp := rsp } [.droppedRsp sender]
  | runSender {sender : Nat} {rsp : Channel ConnectAnswer}
      {rspEvents : List (Oneshot.Event ConnectAnswer)}
      (stepTo : connector.rsp.step (.runSender sender) = some (rsp, rspEvents)) :
      Transition storage connector byRun { connector with rsp := rsp } (rspEvents.map .rsp)

section Transitions

/-- Dropping a `Consumer` concerns the hello message alone. -/
theorem releaseHello_eq (storage : SerBox.Storage) (connector : Connector Hello) (hello : Nat) :
    ∃ helloSharer, connector.releaseHello storage hello =
      { connector with helloSharer := helloSharer } := by
  unfold releaseHello
  split
  · exact ⟨_, rfl⟩
  · exact ⟨connector.helloSharer, rfl⟩

theorem resume_none (storage : SerBox.Storage) (connector : Connector Hello) :
    connector.resume storage none = (connector, []) := by
  unfold resume
  split <;> first | rfl | simp_all

/-- The call goes on without another step of the channel. -/
theorem resume_rsp (storage : SerBox.Storage) (connector : Connector Hello)
    (answer : Option (Answer ConnectAnswer)) :
    (connector.resume storage answer).1.rsp = connector.rsp ∧
      rspEvents (connector.resume storage answer).2 = [] := by
  unfold resume
  split
  · exact ⟨rfl, rfl⟩
  · rename_i call hello error _
    obtain ⟨helloSharer, released⟩ := releaseHello_eq storage connector hello
    rw [released]
    exact ⟨rfl, rfl⟩
  · exact ⟨rfl, rfl⟩
  · exact ⟨rfl, rfl⟩

theorem onHello_transition {action : SerBox.Action Hello}
    (stepTo : connector.onHello storage action = some (next, events)) :
    Transition storage connector byRun next events := by
  simp only [onHello, Option.map_eq_some_iff, Prod.mk.injEq] at stepTo
  obtain ⟨result, -, rfl, rfl⟩ := stepTo
  exact .hello

theorem run_transition (own : byRun)
    (ran : connector.run storage = some (next, events)) :
    Transition storage connector byRun next events := by
  unfold run at ran
  split at ran
  · rename_i call hello at_pc
    split at ran <;> cases ran
    refine .outside (by rw [at_pc]; exact ⟨rfl, rfl⟩) ?_ .nil
    split <;> exact ⟨rfl, rfl⟩
  · rename_i call at_pc
    split at ran <;> cases ran
    rename_i rsp silent stepTo
    cases Channel.step_begins rfl stepTo
    exact .take at_pc stepTo
  · rename_i call hello at_pc
    simp only [onRsp, Option.map_eq_some_iff, Prod.mk.injEq] at ran
    obtain ⟨result, stepTo, rfl, rfl⟩ := ran
    exact .ran own (by rw [at_pc]; simp [Pc.call]) stepTo
  · rename_i call sender at_pc
    simp only [onRsp, Option.map_eq_some_iff, Prod.mk.injEq] at ran
    obtain ⟨result, stepTo, rfl, rfl⟩ := ran
    exact .ran own (by rw [at_pc]; simp [Pc.call]) stepTo
  · rename_i call hello sender at_pc
    split at ran <;> cases ran
    rename_i rsp silent stepTo
    cases Channel.step_begins rfl stepTo
    exact .request at_pc rfl stepTo
  all_goals cases ran

theorem cancel_transition (cancelled : connector.cancel storage = some (next, events)) :
    Transition storage connector byRun next events := by
  unfold cancel at cancelled
  split at cancelled
  · rename_i call hello at_pc
    cases cancelled
    exact .outside (by rw [at_pc]; exact ⟨rfl, rfl⟩) ⟨rfl, rfl⟩ (.abandoned call)
  · rename_i call hello at_pc
    cases cancelled
    exact .outside (by rw [at_pc]; exact ⟨rfl, rfl⟩) ⟨rfl, rfl⟩ (.abandoned call)
  · rename_i call hello at_pc
    simp only [Option.map_eq_some_iff, Prod.mk.injEq] at cancelled
    obtain ⟨⟨rsp, silent⟩, stepTo, rfl, rfl⟩ := cancelled
    cases Channel.step_begins rfl stepTo
    obtain ⟨helloSharer, released⟩ := releaseHello_eq storage connector hello
    rw [released]
    exact .cancelled stepTo
  · rename_i call sender at_pc
    simp only [Option.map_eq_some_iff, Prod.mk.injEq] at cancelled
    obtain ⟨⟨rsp, silent⟩, stepTo, rfl, rfl⟩ := cancelled
    cases Channel.step_begins rfl stepTo
    exact .cancelled stepTo
  all_goals cases cancelled

theorem step_transition {action : Action Hello}
    (stepTo : connector.step storage action = some (next, events)) :
    Transition storage connector (action = .run) next events := by
  cases action with
  | connect identity hello channel =>
      simp only [step] at stepTo
      split at stepTo <;> cases stepTo
      rename_i at_pc
      exact .outside (by rw [at_pc]; exact ⟨rfl, rfl⟩) ⟨rfl, rfl⟩ .nil
  | reserved permit =>
      simp only [step] at stepTo
      split at stepTo
      · rename_i call hello at_pc
        have before : connector.pc.Outside := by rw [at_pc]; exact ⟨rfl, rfl⟩
        split at stepTo <;> cases stepTo
        · exact .outside before ⟨rfl, rfl⟩ .nil
        · exact .outside before ⟨rfl, rfl⟩ (.closed call)
      · cases stepTo
  | sharerReady =>
      simp only [step] at stepTo
      split at stepTo <;> cases stepTo
      rename_i at_pc
      exact .outside (by rw [at_pc]; exact ⟨rfl, rfl⟩) ⟨rfl, rfl⟩ .nil
  | run => exact run_transition rfl stepTo
  | woken =>
      simp only [step, onRsp, Option.map_eq_some_iff, Prod.mk.injEq] at stepTo
      obtain ⟨⟨rsp, silent⟩, woken, rfl, rfl⟩ := stepTo
      cases Channel.step_begins rfl woken
      simp only [Channel.answer, resume_none]
      exact .woken woken
  | cancel => exact cancel_transition stepTo
  | answer i answer =>
      simp only [step] at stepTo
      split at stepTo
      · simp only [onSender, Option.map_eq_some_iff, Prod.mk.injEq] at stepTo
        obtain ⟨⟨rsp, silent⟩, sends, rfl, rfl⟩ := stepTo
        cases Channel.step_begins rfl sends
        exact .answer sends
      · cases stepTo
  | dropRsp i =>
      simp only [step] at stepTo
      split at stepTo
      · simp only [onSender, Option.map_eq_some_iff, Prod.mk.injEq] at stepTo
        obtain ⟨⟨rsp, silent⟩, drops, rfl, rfl⟩ := stepTo
        cases Channel.step_begins rfl drops
        exact .dropRsp drops
      · cases stepTo
  | runSender sender =>
      simp only [step, onSender, Option.map_eq_some_iff, Prod.mk.injEq] at stepTo
      obtain ⟨⟨rsp, reported⟩, ran, rfl, rfl⟩ := stepTo
      exact .runSender ran
  | serialize i | dropHello i =>
      simp only [step] at stepTo
      split at stepTo
      · exact onHello_transition stepTo
      · cases stepTo
  | runHello hello => exact onHello_transition stepTo

theorem Mild.rspEvents (mild : Mild events) : rspEvents events = [] := by
  cases mild <;> rfl

/-- A step of the connector is at most one step of the channel, which stays open. -/
theorem Transition.rsp_step (transition : Transition storage connector byRun next events) :
    (next.rsp = connector.rsp ∧ rspEvents events = []) ∨
      ∃ action, staysOpen connector.rsp action ∧
        connector.rsp.step action = some (next.rsp, rspEvents events) := by
  cases transition with
  | hello => exact .inl ⟨rfl, rfl⟩
  | outside before after mild => exact .inl ⟨rfl, mild.rspEvents⟩
  | take at_pc stepTo => exact .inr ⟨.sender, trivial, stepTo⟩
  | request at_pc own stepTo => exact .inr ⟨.recv, trivial, stepTo⟩
  | @ran rsp reported own called stepTo =>
      obtain ⟨sameRsp, silent⟩ :=
        resume_rsp storage { connector with rsp := rsp } connector.rsp.rxAnswer
      refine .inr ⟨.runRx, trivial, ?_⟩
      rw [sameRsp, rspEvents_append, silent, List.append_nil, rspEvents_map]
      exact stepTo
  | woken stepTo => exact .inr ⟨.woken, trivial, stepTo⟩
  | cancelled stepTo => exact .inr ⟨.cancel, trivial, stepTo⟩
  | @answer sender answer rsp stepTo =>
      exact .inr ⟨.send sender answer false, trivial, stepTo⟩
  | @dropRsp sender rsp stepTo => exact .inr ⟨.dropSender sender, trivial, stepTo⟩
  | @runSender sender rsp reported stepTo =>
      refine .inr ⟨.runSender sender, trivial, ?_⟩
      rw [rspEvents_map]
      exact stepTo

end Transitions

end Connector

end Calliope

end Mgnp
