import Mgnp.Oneshot
import Mgnp.WaitCell

/-!
# A oneshot receiver that waits for a sender that is gone

`poll_recv` sets `RX_WAITING`, looks for a message and registers in the wait
cell.  A send that finds `RX_WAITING` wakes the receiver; `drop_tx` clears
`HAS_TX` without waking anybody, and a dropped `ErasedRecvRef` resets the whole
word.  The state of this file is a channel with its wait cell and the receiver
task in it.  Other tasks that share the receiver may close the channel at any time.
-/

namespace Mgnp

namespace Oneshot

open LabelledRuns WaitCell

variable {T Cell : Type*} {ops : WaitCell Cell}

/-- A channel whose receiver polls `recv` or `recv_erased`. -/
structure Recv (T Cell : Type*) where
  channel : Channel T
  waiter : Waiter Cell
  /-- Where the calls of `close` by other tasks stand. -/
  closers : List (RxPc T)

def Recv.new (ops : WaitCell Cell) (T : Type*) : Recv T Cell where
  channel := .new T
  waiter := .new ops
  closers := []

inductive RecvAction (T : Type*)
  /-- The pending future is polled again. -/
  | poll
  /-- `poll_recv` calls `wait.poll_wait`, which may find the cell closed. -/
  | pollWait (closed : Bool)
  /-- The pending future is dropped. -/
  | cancel
  /-- Another task calls `close`. -/
  | close
  /-- The next step of another task in `close`. -/
  | runClose (closer : Nat)
  /-- A step of the channel. -/
  | base (action : Action T)

/-- The calls of the wait cell.  An operation of the receiver begins with a poll. -/
def Channel.hear (ops : WaitCell Cell) (channel : Channel T) (waiter : Waiter Cell) :
    Action T → Waiter Cell
  | .runSender sender =>
      match channel.senders sender with
      | .waking => waiter.wake ops
      | _ => waiter
  | .runRx =>
      match channel.rx with
      | .closingWait _ => waiter.close ops
      | _ => waiter
  | .recv | .sender => waiter.poll
  | _ => waiter

/-- The stage of the receiver task, which reaches the wait cell from `poll_recv`. -/
def Channel.stage (channel next : Channel T) (stage : PollStage) : PollStage :=
  match channel.rx, next.rx with
  | .waiting _, .waiting _ => stage
  | _, .waiting _ => .registering
  | _, .idle => .away
  | _, _ => .checking

/-- The answers of the wait cell, which are given elsewhere. -/
def Action.answers : Action T → Bool
  | .woken | .waitClosed | .cancel => true
  | _ => false

namespace Recv

/-- A step of the channel with what it does to the wait cell. -/
def run (ops : WaitCell Cell) (recv : Recv T Cell) (waiter : Waiter Cell)
    (action : Action T) : Option (Recv T Cell × List (Event T)) :=
  match recv.channel.step action with
  | some (next, events) =>
      let heard := recv.channel.hear ops waiter action
      some ({ recv with
          channel := next
          waiter := { heard with stage := recv.channel.stage next heard.stage } }, events)
  | none => none

/-- A step of another task in `close`, which takes the steps of a receiver that is alone. -/
def runClose (ops : WaitCell Cell) (recv : Recv T Cell) (closer : Nat) :
    Option (Recv T Cell × List (Event T)) :=
  match recv.closers[closer]? with
  | some pc =>
      let channel := { recv.channel with rx := pc }
      match channel.runRx with
      | some (next, events) =>
          some ({ channel := { next with rx := recv.channel.rx }
                  waiter := channel.hear ops recv.waiter .runRx
                  closers := recv.closers.set closer next.rx }, events)
      | none => none
  | none => none

def step (ops : WaitCell Cell) (recv : Recv T Cell) :
    RecvAction T → Option (Recv T Cell × List (Event T))
  | .poll =>
      match recv.waiter.stage with
      | .pending => recv.run ops recv.waiter.poll .woken
      | .away | .checking | .registering => none
  | .pollWait closed =>
      match recv.waiter.stage with
      | .registering =>
          let waiter := recv.waiter.register ops
          if waiter.stage = .checking then
            recv.run ops waiter (if closed then .waitClosed else .woken)
          else some ({ recv with waiter := waiter }, [])
      | .away | .checking | .pending => none
  | .cancel =>
      match recv.waiter.stage with
      | .pending => recv.run ops recv.waiter .cancel
      | .away | .checking | .registering => none
  | .close => some ({ recv with closers := recv.closers ++ [.closing] }, [])
  | .runClose closer => recv.runClose ops closer
  | .base action =>
      if action.answers then none else recv.run ops recv.waiter action

end Recv

/-- A send that found `RX_WAITING` has not called `wake` yet. -/
def Channel.OwesWake (channel : Channel T) : Prop :=
  ∃ sender, channel.senders sender = .waking

/-- The call of `close` has swapped the state and not closed the wait cell yet. -/
def RxPc.owesClose : RxPc T → Bool
  | .closingWait _ => true
  | .idle | .polling _ | .waiting _ | .taking _ | .dropping _ | .storing _ _ | .casting
  | .closing | .droppingCell => false

/-- The call is one of `close`. -/
def RxPc.closes : RxPc T → Bool
  | .idle | .closing | .closingWait _ | .droppingCell => true
  | .polling _ | .waiting _ | .taking _ | .dropping _ | .storing _ _ | .casting => false

/-- Somebody has yet to wake or to close the wait cell. -/
def Recv.Owes (recv : Recv T Cell) : Prop :=
  recv.channel.OwesWake ∨ ∃ pc ∈ recv.closers, pc.owesClose = true

/-- The receiver waits for a message, and the word says so. -/
def State.Awaits (state : State) : Prop :=
  state.hasTx = true ∧ state.rxWaiting = true ∧ state.sent = false ∧ state.closed = false

/-- Before the `fetch_and(!HAS_TX)` of `drop_tx`. -/
def SenderPc.clears : SenderPc T → Bool
  | .droppingTx => true
  | _ => false

/-- The step is the `fetch_and(!HAS_TX)` of `drop_tx`, or the `store(HAS_RX)` of
a reference. -/
def Channel.Clears (channel : Channel T) : Action T → Prop
  | .runSender sender => (channel.senders sender).clears = true
  | .runRef ref => channel.refs ref = .storing
  | _ => False

instance (channel : Channel T) (action : Action T) : Decidable (channel.Clears action) :=
  match action with
  | .runSender _ | .runRef _ => inferInstanceAs (Decidable (_ = _))
  | .send _ _ _ | .dropSender _ | .sender | .recv | .close | .intoErased | .runRx | .woken
  | .waitClosed | .cancel | .downcast _ | .dropRef _ => isFalse id

/-- What a step beside a waiting receiver can do. -/
structure Beside (channel next : Channel T) (action : Action T) : Prop where
  rx : next.rx = channel.rx
  readies : ¬ next.state.Awaits →
    ¬ channel.state.Awaits ∨ next.OwesWake ∨ channel.Clears action
  owesWake : channel.OwesWake →
    next.OwesWake ∨ ∃ sender, action = .runSender sender ∧ channel.senders sender = .waking

section Beside

variable {channel next : Channel T} {events : List (Event T)} {action : Action T}

theorem Channel.OwesWake.setSender {sender : Nat} {pc : SenderPc T}
    (notWaking : channel.senders sender ≠ .waking) (owes : channel.OwesWake) :
    (channel.setSender sender pc).OwesWake := by
  obtain ⟨other, waking⟩ := owes
  have ne : other ≠ sender := by
    rintro rfl
    exact notWaking waking
  exact ⟨other, by simpa [Channel.setSender, ne] using waking⟩

theorem Beside.of_state (rx : next.rx = channel.rx) (state : next.state = channel.state)
    (owesWake : channel.OwesWake → next.OwesWake) : Beside channel next action where
  rx := rx
  readies lost := .inl (by rwa [state] at lost)
  owesWake owes := .inl (owesWake owes)

theorem Channel.runSender_beside {sender : Nat}
    (ran : channel.runSender sender = some (next, events)) :
    Beside channel next (.runSender sender) := by
  unfold Channel.runSender at ran
  split at ran
  · rename_i value deser at_sender
    cases ran
    exact .of_state rfl rfl fun owes => owes.setSender (by simp [at_sender])
  · rename_i value deser at_sender
    split at ran <;> cases ran
    · rename_i isClosed
      refine ⟨rfl, fun _ => .inl fun awaits => ?_, fun owes => .inl ?_⟩
      · simp [State.Awaits, isClosed] at awaits
      · exact owes.setSender (by simp [at_sender])
    · refine ⟨rfl, fun _ => ?_, fun owes => .inl (owes.setSender (by simp [at_sender]))⟩
      cases waits : channel.state.rxWaiting with
      | true => exact .inr (.inl ⟨sender, by simp [Channel.setSender]⟩)
      | false => exact .inl fun awaits => by simp [State.Awaits, waits] at awaits
  · rename_i waking
    cases ran
    exact ⟨rfl, .inl, fun _ => .inr ⟨sender, rfl, waking⟩⟩
  · rename_i deser at_sender
    cases ran
    exact .of_state rfl rfl fun owes => owes.setSender (by simp [at_sender])
  · rename_i at_sender
    cases ran
    exact ⟨rfl, fun _ => .inr (.inr (by rw [Channel.Clears, at_sender]; rfl)),
      fun owes => .inl (owes.setSender (by simp [at_sender]))⟩
  all_goals cases ran

theorem Channel.runRef_beside {ref : Nat}
    (ran : channel.runRef ref = some (next, events)) : Beside channel next (.runRef ref) := by
  unfold Channel.runRef at ran
  split at ran <;> cases ran
  · exact .of_state rfl rfl id
  · exact .of_state rfl rfl id
  · rename_i storing
    exact ⟨rfl, fun _ => .inr (.inr storing), .inl⟩

/-- While the receiver waits, the others can only do so much. -/
theorem Channel.step_beside {purpose : Purpose} (waits : channel.rx = .waiting purpose)
    (answers : action.answers = false) (stepTo : channel.step action = some (next, events)) :
    Beside channel next action := by
  cases action with
  | runSender sender => exact runSender_beside stepTo
  | runRef ref => exact runRef_beside stepTo
  | send | dropSender =>
      simp only [Channel.step] at stepTo
      split at stepTo <;> cases stepTo
      rename_i unused
      exact .of_state rfl rfl fun owes => owes.setSender (by simp [unused])
  | downcast | dropRef =>
      simp only [Channel.step] at stepTo
      split at stepTo <;> cases stepTo
      exact .of_state rfl rfl id
  | woken | waitClosed | cancel => cases answers
  | sender | recv | close => simp [Channel.step, Channel.start, waits] at stepTo
  | intoErased =>
      simp only [Channel.step, Channel.start, waits] at stepTo
      split at stepTo <;> simp at stepTo
  | runRx =>
      simp only [Channel.step, Channel.runRx, waits] at stepTo
      cases stepTo

theorem Channel.runSender_rx {sender : Nat}
    (ran : channel.runSender sender = some (next, events)) : next.rx = channel.rx := by
  unfold Channel.runSender at ran
  repeat' split at ran
  all_goals cases ran
  all_goals rfl

theorem Channel.runRef_rx {ref : Nat} (ran : channel.runRef ref = some (next, events)) :
    next.rx = channel.rx := by
  unfold Channel.runRef at ran
  split at ran <;> cases ran
  all_goals rfl

theorem Purpose.next_ne_waiting (purpose other : Purpose) :
    (purpose.next : RxPc T) ≠ .waiting other := by
  cases purpose with
  | receive => simp [Purpose.next]
  | discard state =>
      simp only [Purpose.next]
      split <;> simp

/-- `poll_recv` goes to the wait cell when it has found a sender and nothing else. -/
theorem Channel.runRx_waiting {purpose : Purpose}
    (ran : channel.runRx = some (next, events)) (waits : next.rx = .waiting purpose) :
    next.state.Awaits := by
  unfold Channel.runRx at ran
  split at ran
  case h_2 polled at_rx =>
    split at ran
    · cases ran
      exact absurd waits (Purpose.next_ne_waiting _ _)
    · rename_i isOpen
      split at ran
      · split at ran <;> cases ran <;> cases waits
      · rename_i unsent
        split at ran <;> cases ran
        · rename_i hasTx
          exact ⟨hasTx, rfl, by simpa using unsent, by simpa using isOpen⟩
        · exact absurd waits (Purpose.next_ne_waiting _ _)
  case h_1 at_rx =>
    split at ran
    · cases ran
      cases waits
    · split at ran <;> cases ran
      · cases waits
      · exact absurd waits (Purpose.next_ne_waiting (.discard _) _)
  case h_5 at_rx =>
    cases ran
    exact absurd waits (Purpose.next_ne_waiting _ _)
  case h_7 drops at_rx =>
    cases ran
    cases drops <;> cases waits
  all_goals
    cases ran
    try cases waits

/-- The receiver begins to wait only for a sender. -/
theorem Channel.step_waiting {purpose : Purpose}
    (before : ∀ other, channel.rx ≠ .waiting other)
    (stepTo : channel.step action = some (next, events)) (waits : next.rx = .waiting purpose) :
    next.state.Awaits := by
  cases action with
  | runRx => exact runRx_waiting stepTo waits
  | runSender sender => exact absurd (runSender_rx stepTo ▸ waits) (before _)
  | runRef ref => exact absurd (runRef_rx stepTo ▸ waits) (before _)
  | sender | recv | close =>
      simp only [Channel.step, Channel.start] at stepTo
      split at stepTo
      · cases stepTo
        cases waits
      · cases stepTo
  | intoErased =>
      simp only [Channel.step, Channel.start] at stepTo
      split at stepTo
      · cases stepTo
      · split at stepTo
        · cases stepTo
          cases waits
        · cases stepTo
  | woken | waitClosed | cancel =>
      simp [Channel.step] at stepTo
  | send | dropSender | downcast | dropRef =>
      simp only [Channel.step] at stepTo
      split at stepTo <;> cases stepTo
      exact absurd waits (before _)

theorem Channel.step_answered (answers : action.answers = true)
    (stepTo : channel.step action = some (next, events)) (purpose : Purpose) :
    next.rx ≠ .waiting purpose := by
  cases action with
  | woken | cancel =>
      simp only [Channel.step] at stepTo
      split at stepTo <;> cases stepTo
      simp
  | waitClosed =>
      simp only [Channel.step] at stepTo
      split at stepTo <;> cases stepTo
      simp [Purpose.next_ne_waiting]
  | _ => cases answers

end Beside

namespace Recv

/-- The step does not take the sender away from a receiver that nobody is going
to wake. -/
def Timely (ops : WaitCell Cell) (recv : Recv T Cell) : RecvAction T → Prop
  | .base action => recv.channel.Clears action → recv.waiter.Alert ops True recv.Owes
  | _ => True

/-- A waiting receiver does not miss that the word has changed. -/
structure Vigilant (ops : WaitCell Cell) (recv : Recv T Cell) : Prop where
  alert : recv.waiter.Alert ops (¬ recv.channel.state.Awaits) recv.Owes
  waits : recv.waiter.stage = .registering ∨ recv.waiter.stage = .pending →
    ∃ purpose, recv.channel.rx = .waiting purpose
  closers : ∀ pc ∈ recv.closers, pc.closes = true

section Vigilant

variable {recv next : Recv T Cell} {events history : List (Event T)}

theorem vigilant_new : Vigilant ops (Recv.new ops T) :=
  ⟨.of_stage (.inl rfl), by simp [Recv.new, Waiter.new], by simp [Recv.new]⟩

/-- Beside a waiting receiver only the wake of a send reaches the wait cell. -/
theorem hear_beside (ops : WaitCell Cell) {channel after : Channel T} (waiter : Waiter Cell)
    {purpose : Purpose} {action : Action T} (waits : channel.rx = .waiting purpose)
    (stepTo : channel.step action = some (after, events)) :
    channel.hear ops waiter action = waiter.wake ops ∨
      channel.hear ops waiter action = waiter ∧
        ∀ sender, action = .runSender sender → channel.senders sender ≠ .waking := by
  cases action with
  | runSender sender =>
      simp only [Channel.hear]
      split
      · exact .inl rfl
      · rename_i awake
        refine .inr ⟨rfl, ?_⟩
        rintro _ ⟨⟩
        exact awake
  | runRx => exact .inr ⟨by simp [Channel.hear, waits], by simp⟩
  | recv | sender => simp [Channel.step, Channel.start, waits] at stepTo
  | _ => exact .inr ⟨rfl, by simp⟩

/-- A step beside the waiting receiver. -/
theorem alert_beside (lawful : ops.Lawful) {channel after : Channel T}
    {waiter : Waiter Cell} {purpose : Purpose} {action : Action T} {closes : Prop}
    (alert : waiter.Alert ops (¬ channel.state.Awaits) (channel.OwesWake ∨ closes))
    (timely : channel.Clears action → waiter.Alert ops True (channel.OwesWake ∨ closes))
    (waits : channel.rx = .waiting purpose) (answers : action.answers = false)
    (stepTo : channel.step action = some (after, events)) :
    (channel.hear ops waiter action).Alert ops (¬ after.state.Awaits)
      (after.OwesWake ∨ closes) := by
  have beside := Channel.step_beside waits answers stepTo
  rcases hear_beside ops waiter waits stepTo with heard | ⟨heard, quiet⟩
  · rw [heard]
    exact alert.wake lawful _ _
  · rw [heard]
    have owesWake (owes : channel.OwesWake ∨ closes) : after.OwesWake ∨ closes := by
      refine owes.imp_left fun owes => ?_
      rcases beside.owesWake owes with still | ⟨sender, wakes, waking⟩
      · exact still
      · exact absurd waking (quiet sender wakes)
    by_cases clears : channel.Clears action
    · exact (timely clears).mono (fun _ => .inl trivial) owesWake
    · refine alert.mono (fun lost => ?_) owesWake
      rcases beside.readies lost with before | owes | clearing
      · exact .inl before
      · exact .inr (.inl owes)
      · exact absurd clearing clears

theorem Channel.stage_of_waiting {channel after : Channel T} {stage : PollStage}
    {purpose : Purpose} (before : ∀ other, channel.rx ≠ .waiting other)
    (waits : after.rx = .waiting purpose) :
    channel.stage after stage = .registering := by
  unfold Channel.stage
  rw [waits]
  split <;> simp_all

theorem Channel.stage_of_not_waiting (channel : Channel T) {after : Channel T} (stage : PollStage)
    (settled : ∀ purpose, after.rx ≠ .waiting purpose) :
    channel.stage after stage = .away ∨ channel.stage after stage = .checking := by
  unfold Channel.stage
  split <;> simp_all

/-- The receiver is vigilant when it does not wait, and when it has just found a
sender. -/
theorem Vigilant.of_fresh {channel after : Channel T} {waiter : Waiter Cell} {stage : PollStage}
    {closers : List (RxPc T)} (closes : ∀ pc ∈ closers, pc.closes = true)
    (fresh : ∀ purpose, after.rx = .waiting purpose →
      after.state.Awaits ∧ ∀ other, channel.rx ≠ .waiting other) :
    Vigilant ops ⟨after, { waiter with stage := channel.stage after stage }, closers⟩ := by
  by_cases waiting : ∃ purpose, after.rx = .waiting purpose
  · obtain ⟨purpose, waits⟩ := waiting
    obtain ⟨awaits, before⟩ := fresh purpose waits
    rw [Channel.stage_of_waiting before waits]
    exact ⟨fun lost => absurd awaits lost, fun _ => ⟨purpose, waits⟩, closes⟩
  · have settled := Channel.stage_of_not_waiting channel stage (not_exists.mp waiting)
    refine ⟨.of_stage settled, fun waits => ?_, closes⟩
    rcases settled with at_stage | at_stage <;> rcases waits with waits | waits <;>
      cases at_stage.symm.trans waits

/-- A step of the channel, other than an answer of the wait cell. -/
theorem Vigilant.base (lawful : ops.Lawful) {action : Action T}
    (vigilant : Vigilant ops recv) (timely : recv.Timely ops (.base action))
    (answers : action.answers = false)
    (ran : recv.run ops recv.waiter action = some (next, events)) : Vigilant ops next := by
  unfold Recv.run at ran
  split at ran
  · rename_i after answered stepTo
    cases ran
    by_cases waiting : ∃ purpose, recv.channel.rx = .waiting purpose
    · obtain ⟨purpose, waits⟩ := waiting
      have beside := Channel.step_beside waits answers stepTo
      have afterWaits := beside.rx.trans waits
      have stays {stage : PollStage} : recv.channel.stage after stage = stage := by
        simp only [Channel.stage, waits, afterWaits]
      refine ⟨?_, fun _ => ⟨purpose, afterWaits⟩, vigilant.closers⟩
      simp only [stays]
      exact alert_beside lawful vigilant.alert timely waits answers stepTo
    · have before := not_exists.mp waiting
      exact .of_fresh vigilant.closers
        fun _ waits => ⟨Channel.step_waiting before stepTo waits, before⟩
  · cases ran

/-- An answer of the wait cell ends the waiting. -/
theorem Vigilant.answer {waiter : Waiter Cell} {action : Action T}
    (vigilant : Vigilant ops recv) (answers : action.answers = true)
    (ran : recv.run ops waiter action = some (next, events)) : Vigilant ops next := by
  unfold Recv.run at ran
  split at ran
  · rename_i after answered stepTo
    cases ran
    exact .of_fresh vigilant.closers
      fun _ waits => absurd waits (Channel.step_answered answers stepTo _)
  · cases ran

/-- Another task in `close` wakes the waiting receiver, or is still going to. -/
theorem Vigilant.runClose (lawful : ops.Lawful) (vigilant : Vigilant ops recv) {closer : Nat}
    (ran : recv.runClose ops closer = some (next, events)) : Vigilant ops next := by
  simp only [Recv.runClose] at ran
  split at ran
  · rename_i pc at_closer
    have owes {after : RxPc T} (due : recv.Owes) (unowed : pc.owesClose = false) :
        recv.channel.OwesWake ∨ ∃ other ∈ recv.closers.set closer after,
          other.owesClose = true := by
      refine due.imp_right fun ⟨other, member, isDue⟩ => ⟨other, ?_, isDue⟩
      refine mem_set_of_ne at_closer member ?_
      rintro rfl
      cases unowed.symm.trans isDue
    have closes := vigilant.closers pc (List.mem_of_getElem? at_closer)
    cases pc with
    | closing =>
        cases ran
        have isDue : ∃ other ∈ recv.closers.set closer
            (.closingWait (recv.channel.state.sent && !recv.channel.state.hasTx)),
            other.owesClose = true :=
          ⟨_, List.mem_set (List.getElem?_eq_some_iff.mp at_closer).1 _, rfl⟩
        exact ⟨vigilant.alert.mono (fun _ => .inr (.inr isDue)) fun _ => .inr isDue,
          vigilant.waits,
          forall_mem_set vigilant.closers rfl⟩
    | closingWait drops =>
        cases ran
        exact ⟨vigilant.alert.close lawful _ _, vigilant.waits,
          forall_mem_set vigilant.closers (by cases drops <;> rfl)⟩
    | droppingCell =>
        cases ran
        exact ⟨vigilant.alert.mono .inl fun due => owes due rfl, vigilant.waits,
          forall_mem_set vigilant.closers rfl⟩
    | idle => cases ran
    | _ => cases closes
  · cases ran

theorem Vigilant.step (lawful : ops.Lawful) {action : RecvAction T}
    (vigilant : Vigilant ops recv) (timely : recv.Timely ops action)
    (stepTo : recv.step ops action = some (next, events)) : Vigilant ops next := by
  cases action with
  | poll | cancel =>
      simp only [Recv.step] at stepTo
      split at stepTo
      · exact vigilant.answer rfl stepTo
      all_goals cases stepTo
  | pollWait closed =>
      simp only [Recv.step] at stepTo
      split at stepTo
      · rename_i registering
        split at stepTo
        · exact vigilant.answer (by cases closed <;> rfl) stepTo
        · cases stepTo
          exact ⟨vigilant.alert.register lawful registering,
            fun _ => vigilant.waits (.inl registering), vigilant.closers⟩
      all_goals cases stepTo
  | close =>
      cases stepTo
      refine ⟨vigilant.alert.mono .inl ?_, vigilant.waits, ?_⟩
      · exact Or.imp_right fun ⟨pc, member, due⟩ => ⟨pc, List.mem_append_left _ member, due⟩
      · intro pc member
        rcases List.mem_append.mp member with before | added
        · exact vigilant.closers pc before
        · rw [List.mem_singleton.mp added]
          rfl
  | runClose closer => exact vigilant.runClose lawful stepTo
  | base action =>
      simp only [Recv.step] at stepTo
      split at stepTo
      · cases stepTo
      · rename_i answers
        exact vigilant.base lawful timely (by simpa using answers) stepTo

theorem vigilant_run (lawful : ops.Lawful) {final : Recv T Cell}
    (run : Run (Recv.step ops) (Recv.Timely ops) (Recv.new ops T) history final) :
    Vigilant ops final :=
  run.stateInvariant (Vigilant ops) vigilant_new
    fun vigilant timely stepTo => vigilant.step lawful timely stepTo

end Vigilant

end Recv

/-- No sender and no reference is part-way through an operation. -/
def Channel.Settled (channel : Channel T) : Prop :=
  (∀ sender, channel.senders sender = .gone ∨ channel.senders sender = .unused) ∧
    ∀ ref, channel.refs ref = .gone ∨ channel.refs ref = .held

/-- No other task is part-way through an operation. -/
def Recv.Settled (recv : Recv T Cell) : Prop :=
  recv.channel.Settled ∧ ∀ pc ∈ recv.closers, pc = .idle

/-- A parked receiver has a sender that has not sent. -/
def Recv.ParkedForSender (recv : Recv T Cell) : Prop :=
  recv.waiter.Parked → recv.Settled →
    recv.channel.state.hasTx = true ∧ recv.channel.state.sent = false ∧
      recv.channel.state.closed = false

/-- When no sender or reference clears the word under a receiver that nobody is
going to wake, the receiver parks only for a sender that has not sent. -/
theorem parked_for_sender (lawful : ops.Lawful) {history : List (Event T)}
    {final : Recv T Cell}
    (run : Run (Recv.step ops) (Recv.Timely ops) (Recv.new ops T) history final) :
    final.ParkedForSender := by
  intro parked settled
  have vigilant := Recv.vigilant_run lawful run
  by_contra lost
  have missed : ¬ final.channel.state.Awaits := fun awaits =>
    lost ⟨awaits.1, awaits.2.2⟩
  rcases vigilant.alert.parked parked missed with ⟨sender, waking⟩ | ⟨pc, member, due⟩
  · rcases settled.1.1 sender with gone | unused
    · cases waking.symm.trans gone
    · cases waking.symm.trans unused
  · rw [settled.2 pc member] at due
    cases due

/-- No sender and no reference clears the word. -/
def Recv.Undisturbed (recv : Recv T Cell) : RecvAction T → Prop
  | .base action => ¬ recv.channel.Clears action
  | _ => True

instance (recv : Recv T Cell) (action : RecvAction T) : Decidable (recv.Undisturbed action) :=
  match action with
  | .base _ => inferInstanceAs (Decidable (¬ _))
  | .poll | .pollWait _ | .cancel | .close | .runClose _ => isTrue trivial

/-- A message wakes the receiver, which parks again for another sender. -/
def receivesOnce : List (RecvAction Nat) :=
  [.base .sender, .base .runRx, .base .recv, .base .runRx, .pollWait false,
    .base (.send 0 5 true), .base (.runSender 0), .base (.runSender 0), .base (.runSender 0),
    .poll, .base .runRx, .base .runRx, .base .runRx, .base .sender, .base .runRx, .base .recv,
    .base .runRx, .pollWait false]

theorem parked_for_sender_receivesOnce :
    ∃ (history : List (Event Nat)) (final : Recv Nat Slot),
      .received (some (0, 5)) ∈ history ∧ final.waiter.Parked ∧ final.ParkedForSender := by
  obtain ⟨history, final, run, seen⟩ :=
    exists_run_of_exec (Recv.step storing) Recv.Undisturbed (Recv.new storing Nat) receivesOnce
      (fun reached => (decide (.received (some (0, 5)) ∈ reached.2), reached.1.waiter.stage,
        reached.1.waiter.woken))
      (show _ = some (true, .pending, false) by decide +kernel)
  simp only [Prod.mk.injEq, decide_eq_true_eq] at seen
  refine ⟨history, final, seen.1, seen.2, parked_for_sender storing_lawful (run.mono ?_)⟩
  intro recv action undisturbed
  cases action with
  | base action => exact fun clears => absurd clears undisturbed
  | _ => trivial

/-- The receiver parks, and its sender is dropped. -/
def dropsUnsent : List (RecvAction Nat) :=
  [.base .sender, .base .runRx, .base .recv, .base .runRx, .pollWait false,
    .base (.dropSender 0), .base (.runSender 0)]

/-- The receiver of a dropped sender sleeps on. -/
theorem not_parkedForSender_dropsUnsent :
    ¬ ∀ (history : List (Event Nat)) (final : Recv Nat Slot),
      Run (Recv.step storing) anyStep (Recv.new storing Nat) history final →
        final.ParkedForSender := by
  intro always
  obtain ⟨history, final, run, seen⟩ :=
    exists_run_of_exec (Recv.step storing) anyStep (Recv.new storing Nat) dropsUnsent
      (fun reached => (reached.1.waiter, reached.1.channel.state.hasTx,
        reached.1.channel.senders, reached.1.channel.refs, reached.1.closers))
      (show _ = some (⟨.registered, .pending, false⟩, false,
        Function.update (Function.update (Function.update (fun _ => .gone) 0 .unused) 0
          .droppingTx) 0 .gone, fun _ => .gone, []) from rfl)
  simp only [Prod.mk.injEq] at seen
  obtain ⟨waiter, hasTx, senders, refs, closers⟩ := seen
  have parked : final.waiter.Parked := by
    rw [waiter]
    exact ⟨rfl, rfl⟩
  have settled : final.Settled := by
    refine ⟨⟨fun sender => .inl ?_, fun ref => .inl (by rw [refs])⟩, by simp [closers]⟩
    rw [senders]
    by_cases first : sender = 0 <;> simp [first]
  have sender := (always history final run parked settled).1
  rw [hasTx] at sender
  cases sender

/-- Another task closes the channel under a parked receiver and wakes it. -/
example :
    (exec (Recv.step storing) anyStep (Recv.new storing Nat)
      [.base .sender, .base .runRx, .base .recv, .base .runRx, .pollWait false, .close,
        .runClose 0, .runClose 0]).map
      (fun reached => (reached.1.waiter.stage, reached.1.waiter.woken,
        reached.1.channel.state.closed)) = some (.pending, true, true) := by
  decide +kernel

/-- Two references to one message.  The second is dropped when the receiver already
waits for the next sender, whose message then wakes nobody. -/
example :
    (exec (Recv.step storing) anyStep (Recv.new storing Nat)
      [.base .intoErased, .base .sender, .base .runRx, .base (.send 0 5 false),
        .base (.runSender 0), .base (.runSender 0), .base .recv, .base .runRx, .base .recv,
        .base .runRx, .base (.dropRef 0), .base (.runRef 0), .base (.runRef 0),
        .base .sender, .base .runRx, .base .recv, .base .runRx, .pollWait false,
        .base (.dropRef 1), .base (.runRef 1), .base (.runRef 1), .base (.send 1 6 false),
        .base (.runSender 1), .base (.runSender 1)]).map
      (fun reached => (reached.1.waiter.stage, reached.1.waiter.woken,
        reached.1.channel.state.sent)) = some (.pending, false, true) := by
  decide +kernel

end Oneshot

end Mgnp
