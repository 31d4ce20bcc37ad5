import Mgnp.OneshotFifo
import Mgnp.OneshotTakeSender

/-!
# The newest sender of a oneshot channel

As long as nobody closes the channel, only its newest sender can still use it, a
waiting message is from that sender, and `HAS_TX` means that there is one or the
other.  This file also says which steps a call of a typed receiver goes through.
-/

namespace Mgnp

namespace Oneshot

open LabelledRuns

variable {T : Type*} {channel next : Channel T} {history events : List (Event T)}
  {answer : Option (Answer T)}

/-- The calls of a typed receiver that wait. -/
inductive ReceiverCall
  /-- `sender` or `deser_sender`. -/
  | sender
  | recv
  deriving DecidableEq

def Purpose.call : Purpose → ReceiverCall
  | .receive => .recv
  | .discard _ => .sender

/-- The call that the typed receiver is in. -/
def RxPc.call : RxPc T → Option ReceiverCall
  | .casting => some .sender
  | .polling purpose | .waiting purpose | .taking purpose | .storing purpose _ =>
      some purpose.call
  | .idle | .dropping _ | .closing | .closingWait _ | .droppingCell => none

/-- The call that returns with this answer. -/
def Answer.call : Answer T → Option ReceiverCall
  | .sender _ => some .sender
  | .recv _ => some .recv
  | .send _ _ => none

/-- One step of a call of a typed receiver on an open channel, with what the call
returns. -/
inductive CallStep (channel : Channel T) :
    Channel T → List (Event T) → Option (Answer T) → Prop
  | created (at_rx : channel.rx = .casting) (ready : channel.state = .ready) :
      CallStep channel
        { channel.setSender channel.senderCount .unused with
          state := .taken
          senderCount := channel.senderCount + 1
          rx := .idle } [.created channel.senderCount] (some (.sender (.ok channel.senderCount)))
  | looked (at_rx : channel.rx = .casting) (isSent : channel.state.sent = true) :
      CallStep channel channel.receiving [] none
  | refused (at_rx : channel.rx = .casting) (hasTx : channel.state.hasTx = true) :
      CallStep channel { channel with rx := .idle } []
        (some (.sender (.error .senderAlreadyActive)))
  | spun (at_rx : channel.rx = .casting) (noTx : channel.state.hasTx = false) :
      CallStep channel channel.casting [] none
  | found {purpose : Purpose} (at_rx : channel.rx = .polling purpose)
      (isSent : channel.state.sent = true) :
      CallStep channel (channel.polled (.taking purpose)) [] none
  | waits {purpose : Purpose} (at_rx : channel.rx = .polling purpose) :
      CallStep channel (channel.polled (.waiting purpose)) [] none
  | noSender {purpose : Purpose} (at_rx : channel.rx = .polling purpose)
      (unsent : channel.state.sent = false) (noTx : channel.state.hasTx = false) :
      CallStep channel (channel.polled purpose.next) [] (purpose.answer (.error .noSender))
  | read {purpose : Purpose} (at_rx : channel.rx = .taking purpose) :
      CallStep channel { channel with rx := .storing purpose channel.cell }
        [channel.useCell false] none
  | stored {purpose : Purpose} {contents : Contents T} {event : Event T}
      (at_rx : channel.rx = .storing purpose contents) :
      CallStep channel { channel with state := .ready, rx := purpose.next } [event]
        (purpose.answer (.ok (.value contents)))

section Calls

theorem Channel.casting_callStep (isOpen : channel.state.closed = false)
    (at_rx : channel.rx = .casting) (ran : channel.runRx = some (next, events)) :
    CallStep channel next events channel.rxAnswer := by
  simp only [Channel.runRx, at_rx] at ran
  simp only [Channel.rxAnswer, at_rx]
  split at ran
  · rename_i ready
    cases ran
    rw [if_pos ready]
    exact .created at_rx ready
  · rename_i notReady
    rw [if_neg notReady]
    split at ran <;> cases ran
    · rename_i isSent
      rw [if_pos isSent]
      exact .looked at_rx isSent
    · rename_i unsent
      rw [if_neg unsent]
      cases hasTx : channel.state.hasTx with
      | true =>
          rw [State.refusal_active isOpen hasTx]
          simp only [Purpose.next, hasTx, Bool.or_true]
          exact .refused at_rx hasTx
      | false =>
          rw [State.refusal_eq_none isOpen hasTx]
          simp only [Purpose.next, isOpen, hasTx]
          exact .spun at_rx hasTx

theorem Channel.polling_callStep {purpose : Purpose} (typed : channel.erased = false)
    (isOpen : channel.state.closed = false) (at_rx : channel.rx = .polling purpose)
    (ran : channel.runRx = some (next, events)) :
    CallStep channel next events channel.rxAnswer := by
  have notClosed : ¬ channel.state.closed = true := by simp [isOpen]
  simp only [Channel.runRx, at_rx, if_neg notClosed] at ran
  simp only [Channel.rxAnswer, at_rx, if_neg notClosed]
  split at ran
  · rename_i isSent
    rw [if_pos isSent]
    split at ran
    · cases ran
      split
      · rename_i erased
        cases typed.symm.trans erased
      · exact .found at_rx isSent
    · rename_i erased
      cases typed.symm.trans erased
    · rename_i erased
      cases typed.symm.trans erased
  · rename_i unsent
    rw [if_neg unsent]
    split at ran <;> cases ran
    · rename_i hasTx
      rw [if_pos hasTx]
      exact .waits at_rx
    · rename_i noTx
      rw [if_neg noTx]
      exact .noSender at_rx (eq_false_of_ne_true unsent) (eq_false_of_ne_true noTx)

/-- A call on an open typed channel takes one of these steps. -/
theorem Channel.runRx_callStep (typed : channel.erased = false)
    (isOpen : channel.state.closed = false)
    (called : channel.rx.call ≠ none)
    (ran : channel.runRx = some (next, events)) :
    CallStep channel next events channel.rxAnswer := by
  cases at_rx : channel.rx with
  | casting => exact Channel.casting_callStep isOpen at_rx ran
  | polling purpose => exact Channel.polling_callStep typed isOpen at_rx ran
  | taking purpose =>
      simp only [Channel.runRx, at_rx] at ran
      simp only [Channel.rxAnswer, at_rx]
      cases ran
      exact .read at_rx
  | storing purpose contents =>
      simp only [Channel.runRx, at_rx] at ran
      simp only [Channel.rxAnswer, at_rx]
      cases ran
      exact .stored at_rx
  | idle | waiting => simp [Channel.runRx, at_rx] at ran
  | dropping | closing | closingWait | droppingCell =>
      simp [at_rx, RxPc.call] at called

/-- The end of a receive ends the call, or `take_sender` looks at the state again. -/
theorem Purpose.next_call (purpose : Purpose) (result : Except RecvError (Received T)) :
    (purpose.answer result = none ∧ (purpose.next : RxPc T).call = some purpose.call) ∨
      ∃ found, purpose.answer result = some found ∧ found.call = some purpose.call ∧
        (purpose.next : RxPc T) = .idle := by
  cases purpose with
  | receive => exact .inr ⟨_, rfl, rfl, rfl⟩
  | discard state =>
      simp only [Purpose.answer, Purpose.next, State.refusal]
      cases state.closed with
      | true => exact .inr ⟨_, rfl, rfl, rfl⟩
      | false =>
          cases state.hasTx with
          | true => exact .inr ⟨_, rfl, rfl, rfl⟩
          | false => exact .inl ⟨rfl, rfl⟩

/-- A call goes on or returns its answer. -/
theorem CallStep.call (step : CallStep channel next events answer) :
    (answer = none ∧ next.rx.call = channel.rx.call) ∨
      ∃ found, answer = some found ∧ found.call = channel.rx.call ∧ next.rx = .idle := by
  cases step with
  | created at_rx | refused at_rx =>
      rw [at_rx]
      exact .inr ⟨_, rfl, rfl, rfl⟩
  | looked at_rx | spun at_rx | found at_rx | waits at_rx | read at_rx =>
      rw [at_rx]
      exact .inl ⟨rfl, rfl⟩
  | @noSender purpose at_rx unsent noTx =>
      rw [at_rx]
      exact purpose.next_call _
  | @stored purpose contents event at_rx =>
      rw [at_rx]
      exact purpose.next_call _

/-- A call creates a sender or leaves the senders alone. -/
theorem CallStep.sender_cases (step : CallStep channel next events answer) :
    (next.senders = channel.senders ∧ next.senderCount = channel.senderCount ∧
      ∀ sender, answer ≠ some (.sender (.ok sender))) ∨
    (answer = some (.sender (.ok channel.senderCount)) ∧
      next.senders = (channel.setSender channel.senderCount .unused).senders ∧
      next.senderCount = channel.senderCount + 1) := by
  have refuses : ∀ (purpose : Purpose) (result : Except RecvError (Received T)) (sender : Nat),
      purpose.answer result ≠ some (.sender (.ok sender)) := by
    intro purpose result sender
    cases purpose with
    | receive => simp [Purpose.answer]
    | discard state => simp [Purpose.answer]
  cases step with
  | created => exact .inr ⟨rfl, rfl, rfl⟩
  | looked | refused | spun | found | waits | read => exact .inl ⟨rfl, rfl, by simp⟩
  | @noSender purpose => exact .inl ⟨rfl, rfl, refuses purpose _⟩
  | @stored purpose => exact .inl ⟨rfl, rfl, refuses purpose _⟩

/-- A call of `recv` goes on, finds no sender, or returns the contents that it read. -/
theorem CallStep.recv_cases (step : CallStep channel next events answer)
    (called : channel.rx.call = some .recv) :
    next.senders = channel.senders ∧ next.senderCount = channel.senderCount ∧
      ((answer = none ∧ next.state.sent = channel.state.sent) ∨
        (answer = some (.recv (.error .noSender)) ∧ channel.state.sent = false ∧
          channel.state.hasTx = false) ∨
        ∃ contents, answer = some (.recv (.ok (.value contents))) ∧
          channel.rx = .storing .receive contents) := by
  cases step with
  | created at_rx | refused at_rx | looked at_rx | spun at_rx =>
      rw [at_rx] at called
      cases called
  | found | waits | read => exact ⟨rfl, rfl, .inl ⟨rfl, rfl⟩⟩
  | @noSender purpose at_rx unsent noTx =>
      rw [at_rx] at called
      cases purpose with
      | receive => exact ⟨rfl, rfl, .inr (.inl ⟨rfl, unsent, noTx⟩)⟩
      | discard state => cases called
  | @stored purpose contents event at_rx =>
      rw [at_rx] at called
      cases purpose with
      | receive => exact ⟨rfl, rfl, .inr (.inr ⟨contents, rfl, at_rx⟩)⟩
      | discard state => cases called

end Calls

/-- What only the newest sender of an open channel can have done. -/
structure Newest (history : List (Event T)) (channel : Channel T) : Prop where
  isOpen : channel.state.closed = false
  holder : channel.state.hasTx = true →
    channel.state.sent = true ∨ ∃ sender, (channel.senders sender).active = true
  newest : ∀ {sender}, (channel.senders sender).active = true →
    sender + 1 = channel.senderCount
  message : channel.state.sent = true → ∃ sender value,
    channel.cell = some (sender, value) ∧ sender + 1 = channel.senderCount ∧
      .sent sender value ∈ history

theorem newest_new : Newest [] (Channel.new T) where
  isOpen := rfl
  holder hasTx := by cases hasTx
  newest active := by cases active
  message sent := by cases sent

section Newest

/-- A step of the receiver that leaves the senders and their bits alone. -/
theorem Newest.setRx (newest : Newest history channel) {state : State} {rx : RxPc T}
    (polled : state = channel.state ∨ state = { channel.state with rxWaiting := true }) :
    Newest (history ++ events) { channel with state := state, rx := rx } := by
  constructor
  · rcases polled with rfl | rfl <;> exact newest.isOpen
  · rcases polled with rfl | rfl <;> exact newest.holder
  · exact newest.newest
  · intro isSent
    obtain ⟨sender, value, cell, last, member⟩ := newest.message (by
      rcases polled with rfl | rfl <;> exact isSent)
    exact ⟨sender, value, cell, last, List.mem_append_left _ member⟩

/-- The receiver resets the state after it has read the message. -/
theorem Newest.reset (newest : Newest history channel) {rx : RxPc T} :
    Newest (history ++ events) { channel with state := .ready, rx := rx } where
  isOpen := rfl
  holder hasTx := by cases hasTx
  newest := newest.newest
  message sent := by cases sent

theorem Newest.create (owners : Owners channel) (ready : channel.state = .ready) :
    Newest history { channel.setSender channel.senderCount .unused with
      state := .taken, senderCount := channel.senderCount + 1, rx := .idle } := by
  have isOpen : channel.state.closed = false := by rw [ready]; rfl
  constructor
  · rfl
  · intro _
    exact .inr ⟨channel.senderCount, by simp [SenderPc.active]⟩
  · intro sender active
    rcases Channel.setSender_cases active with ⟨rfl, -⟩ | ⟨-, before⟩
    · rfl
    · obtain ⟨hasTx, -⟩ := owners.sender isOpen before
      rw [ready] at hasTx
      cases hasTx
  · intro sent
    cases sent

theorem Newest.callStep (newest : Newest history channel) (owners : Owners channel)
    (step : CallStep channel next events answer) : Newest (history ++ events) next := by
  cases step with
  | created at_rx ready => exact .create owners ready
  | looked | refused | spun | read => exact newest.setRx (.inl rfl)
  | found | waits | noSender => exact newest.setRx (.inr rfl)
  | stored => exact newest.reset

/-- A sender takes a step that leaves the state byte alone. -/
theorem Newest.setSender (newest : Newest history channel) {sender : Nat} {pc : SenderPc T}
    {cell : Contents T}
    (active : pc.active = (channel.senders sender).active)
    (unsent : channel.state.sent = false ∨ cell = channel.cell) :
    Newest (history ++ events) { channel.setSender sender pc with cell := cell } := by
  have same : ∀ other, ((channel.setSender sender pc).senders other).active =
      (channel.senders other).active := by
    intro other
    by_cases self : other = sender
    · subst self
      rw [Channel.setSender_self, active]
    · rw [Channel.setSender_of_ne channel pc self]
  constructor
  · exact newest.isOpen
  · intro hasTx
    rcases newest.holder hasTx with isSent | ⟨other, isActive⟩
    · exact .inl isSent
    · exact .inr ⟨other, (same other).trans isActive⟩
  · intro other isActive
    exact newest.newest ((same other).symm.trans isActive)
  · intro isSent
    rcases unsent with notSent | rfl
    · cases notSent.symm.trans isSent
    · obtain ⟨last, value, full, newestSender, member⟩ := newest.message isSent
      exact ⟨last, value, full, newestSender, List.mem_append_left _ member⟩

/-- A sender ends its work with `HAS_TX`. -/
theorem Newest.release (newest : Newest history channel) {sender : Nat} {pc : SenderPc T}
    {state : State} (ended : pc.active = false) (closed : state.closed = false)
    (holder : state.hasTx = true → state.sent = true)
    (message : state.sent = true → ∃ sender value,
      channel.cell = some (sender, value) ∧ sender + 1 = channel.senderCount ∧
        .sent sender value ∈ history ++ events) :
    Newest (history ++ events) { channel.setSender sender pc with state := state } := by
  constructor
  · exact closed
  · intro hasTx
    exact .inl (holder hasTx)
  · intro other active
    rcases Channel.setSender_cases active with ⟨-, own⟩ | ⟨-, before⟩
    · cases ended.symm.trans own
    · exact newest.newest before
  · exact message

theorem Newest.runSender (newest : Newest history channel) (owners : Owners channel)
    (filled : Filled channel) {sender : Nat}
    (ran : channel.runSender sender = some (next, events)) :
    Newest (history ++ events) next := by
  cases at_sender : channel.senders sender with
  | writing value deser =>
      have own : (channel.senders sender).active = true := by rw [at_sender]; rfl
      have unsent := (owners.sender newest.isOpen own).2
      simp only [Channel.runSender, at_sender] at ran
      cases ran
      exact newest.setSender own.symm (.inl unsent)
  | finishing value deser =>
      have own : (channel.senders sender).active = true := by rw [at_sender]; rfl
      have notClosed : ¬ channel.state.closed = true := by simp [newest.isOpen]
      simp only [Channel.runSender, at_sender, if_neg notClosed] at ran
      cases ran
      refine newest.release (by split <;> rfl) newest.isOpen (fun _ => rfl) fun _ => ?_
      exact ⟨sender, value, filled.written at_sender, newest.newest own, by simp⟩
  | waking =>
      simp only [Channel.runSender, at_sender] at ran
      cases ran
      exact newest.setSender (by rw [at_sender]; rfl) (.inr rfl)
  | takingBack deser =>
      simp only [Channel.runSender, at_sender] at ran
      cases ran
      exact newest.setSender (by rw [at_sender]; rfl) (.inr rfl)
  | droppingTx =>
      have own : (channel.senders sender).active = true := by rw [at_sender]; rfl
      have unsent := (owners.sender newest.isOpen own).2
      simp only [Channel.runSender, at_sender] at ran
      cases ran
      refine newest.release rfl newest.isOpen (fun hasTx => by cases hasTx) fun isSent => ?_
      cases unsent.symm.trans isSent
  | gone | unused => simp [Channel.runSender, at_sender] at ran

end Newest

section Runs

/-- The steps that only begin something, or let the receiver wait no longer. -/
def Action.begins : Action T → Bool
  | .send _ _ _ | .dropSender _ | .sender | .recv | .woken | .cancel => true
  | .runSender _ | .close | .intoErased | .runRx | .waitClosed | .downcast _ | .dropRef _
  | .runRef _ => false

theorem Channel.step_begins {action : Action T} (begins : action.begins = true)
    (stepTo : channel.step action = some (next, events)) : events = [] := by
  cases action with
  | send | dropSender | woken | cancel =>
      simp only [Channel.step] at stepTo
      split at stepTo <;> cases stepTo
      rfl
  | sender | recv =>
      simp only [Channel.step, Option.map_eq_some_iff, Prod.mk.injEq] at stepTo
      obtain ⟨after, -, -, rfl⟩ := stepTo
      rfl
  | _ => cases begins

theorem Channel.step_recv (stepTo : channel.step .recv = some (next, events)) :
    next = { channel with rx := .polling .receive } := by
  simp only [Channel.step, Channel.start, Option.map_eq_some_iff, Prod.mk.injEq] at stepTo
  obtain ⟨after, started, rfl, -⟩ := stepTo
  split at started <;> cases started
  rfl

theorem Channel.step_woken (stepTo : channel.step .woken = some (next, events)) :
    ∃ purpose, channel.rx = .waiting purpose ∧ next = { channel with rx := .polling purpose } := by
  simp only [Channel.step] at stepTo
  split at stepTo <;> cases stepTo
  rename_i purpose at_rx
  exact ⟨purpose, at_rx, rfl⟩

theorem Channel.step_cancel (stepTo : channel.step .cancel = some (next, events)) :
    next = { channel with rx := .idle } := by
  simp only [Channel.step] at stepTo
  split at stepTo <;> cases stepTo
  rfl

theorem Channel.step_send {sender : Nat} {value : T} {deser : Bool}
    (stepTo : channel.step (.send sender value deser) = some (next, events)) :
    next = channel.setSender sender (.writing value deser) := by
  simp only [Channel.step] at stepTo
  split at stepTo <;> cases stepTo
  rfl

theorem Channel.step_dropSender {sender : Nat}
    (stepTo : channel.step (.dropSender sender) = some (next, events)) :
    next = channel.setSender sender .droppingTx := by
  simp only [Channel.step] at stepTo
  split at stepTo <;> cases stepTo
  rfl

/-- Nobody closes the channel, and the receiver stays typed. -/
def staysOpen (_ : Channel T) : Action T → Prop
  | .close | .intoErased => False
  | _ => True

/-- What holds after every history of a typed receiver that is not closed. -/
structure OpenSound (history : List (Event T)) (channel : Channel T) : Prop where
  typed : Typed channel
  owners : Owners channel
  filled : Filled channel
  newest : Newest history channel
  receiver : channel.rx = .idle ∨ channel.rx.call ≠ none

theorem CallStep.receiver (step : CallStep channel next events answer)
    (called : channel.rx.call ≠ none) : next.rx = .idle ∨ next.rx.call ≠ none := by
  rcases step.call with ⟨-, same⟩ | ⟨found, -, -, idle⟩
  · exact .inr (same ▸ called)
  · exact .inl idle

theorem Channel.runRx_called (ran : channel.runRx = some (next, events))
    (receiver : channel.rx = .idle ∨ channel.rx.call ≠ none) : channel.rx.call ≠ none := by
  rcases receiver with idle | called
  · simp [Channel.runRx, idle] at ran
  · exact called

theorem OpenSound.callStep (sound : OpenSound history channel)
    (ran : channel.runRx = some (next, events)) :
    CallStep channel next events channel.rxAnswer :=
  Channel.runRx_callStep sound.typed.typed sound.newest.isOpen
    (Channel.runRx_called ran sound.receiver) ran

theorem OpenSound.newest_step {action : Action T} (sound : OpenSound history channel)
    (stays : staysOpen channel action) (stepTo : channel.step action = some (next, events)) :
    Newest (history ++ events) next ∧ (next.rx = .idle ∨ next.rx.call ≠ none) := by
  cases action with
  | close | intoErased => cases stays
  | runRx =>
      have step := sound.callStep stepTo
      exact ⟨sound.newest.callStep sound.owners step,
        step.receiver (Channel.runRx_called stepTo sound.receiver)⟩
  | runSender sender =>
      have sameRx : next.rx = channel.rx := by
        simp only [Channel.step, Channel.runSender] at stepTo
        repeat' split at stepTo
        all_goals cases stepTo <;> rfl
      refine ⟨sound.newest.runSender sound.owners sound.filled stepTo, ?_⟩
      rw [sameRx]
      exact sound.receiver
  | send | dropSender =>
      simp only [Channel.step] at stepTo
      split at stepTo <;> cases stepTo
      rename_i unused
      exact ⟨sound.newest.setSender (by rw [unused]; rfl) (.inr rfl), sound.receiver⟩
  | sender | recv =>
      simp only [Channel.step, Channel.start, Option.map_eq_some_iff, Prod.mk.injEq] at stepTo
      obtain ⟨after, started, rfl, rfl⟩ := stepTo
      split at started <;> cases started
      exact ⟨sound.newest.setRx (.inl rfl), .inr (by simp [RxPc.call])⟩
  | woken =>
      simp only [Channel.step] at stepTo
      split at stepTo <;> cases stepTo
      exact ⟨sound.newest.setRx (.inl rfl), .inr (by simp [RxPc.call])⟩
  | waitClosed =>
      simp only [Channel.step] at stepTo
      split at stepTo <;> cases stepTo
      rename_i purpose at_rx
      refine ⟨sound.newest.setRx (.inl rfl), ?_⟩
      rcases purpose.next_call (T := T) (.error .closed) with ⟨-, again⟩ | ⟨found, -, -, idle⟩
      · exact .inr (by simp [again])
      · exact .inl idle
  | cancel =>
      simp only [Channel.step] at stepTo
      split at stepTo <;> cases stepTo
      exact ⟨sound.newest.setRx (.inl rfl), .inl rfl⟩
  | downcast ref | dropRef ref | runRef ref =>
      simp [Channel.step, Channel.runRef, sound.typed.noRef ref] at stepTo

theorem OpenSound.step {action : Action T} (sound : OpenSound history channel)
    (stays : staysOpen channel action) (stepTo : channel.step action = some (next, events)) :
    OpenSound (history ++ events) next := by
  have transition := Channel.step_transition stepTo
  have typed : typedReceiver channel action := by
    cases action with
    | intoErased => cases stays
    | _ => trivial
  obtain ⟨newest, receiver⟩ := sound.newest_step stays stepTo
  exact ⟨sound.typed.step typed stepTo,
    sound.owners.transition (fun _ => sound.typed.receivesAlone) transition,
    sound.filled.transition sound.owners transition, newest, receiver⟩

theorem openSound_of_run (run : Run Channel.step staysOpen (Channel.new T) history channel) :
    OpenSound history channel := by
  apply run.invariant OpenSound
  · exact ⟨typed_new, owners_new, filled_new, newest_new, .inl rfl⟩
  · intro past events before after action sound stays stepTo
    exact sound.step stays stepTo

end Runs

end Oneshot

end Mgnp
