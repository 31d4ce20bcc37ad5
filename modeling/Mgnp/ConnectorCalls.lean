import Mgnp.ConnectorTransitions

/-!
# What a call of the connector returns

An answer that a call returns was sent on the sender of its own request, whatever
the calls before it left behind: a sender is created only when no other one can be
used and no message waits.  But a call panics when an earlier request still has its
sender or its answer, since `rsp.sender()` fails then.
-/

namespace Mgnp

namespace Calliope

namespace Connector

open LabelledRuns SoloCalls Oneshot

variable {Hello : Type*} {storage : SerBox.Storage} {connector next : Connector Hello}
  {history events : List Event} {channel after : Channel ConnectAnswer}
  {byRun : Prop}

/-- The ending of a call comes from its own request. -/
inductive Own (history : List Event) (call : Call) : Ending → Prop
  | closed : Own history call .closed
  | dropped {request : Request} {error : Oneshot.RecvError}
      (requested : .requested call request ∈ history)
      (dropped : .droppedRsp request.rsp ∈ history) :
      Own history call (.received (.error error))
  | answered {request : Request} {answer : ConnectAnswer}
      (requested : .requested call request ∈ history)
      (sent : .rsp (.sent request.rsp answer) ∈ history) :
      Own history call (.received (.ok (.value (some (request.rsp, answer)))))

theorem Own.append {call : Call} {ending : Ending} (own : Own history call ending) :
    Own (history ++ events) call ending := by
  cases own with
  | closed => exact .closed
  | dropped requested dropped =>
      exact .dropped (List.mem_append_left _ requested) (List.mem_append_left _ dropped)
  | answered requested sent =>
      exact .answered (List.mem_append_left _ requested) (List.mem_append_left _ sent)

/-- The sender is going to clear `HAS_TX`. -/
def leaves : SenderPc ConnectAnswer → Bool
  | .takingBack _ | .droppingTx => true
  | .gone | .unused | .writing _ _ | .finishing _ _ | .waking => false

section Channel

theorem runSender_frame {sender : Nat} {reported : List (Oneshot.Event ConnectAnswer)}
    (ran : channel.runSender sender = some (after, reported)) :
    after.rx = channel.rx ∧ after.senderCount = channel.senderCount := by
  simp only [Channel.runSender] at ran
  repeat' split at ran
  all_goals cases ran <;> exact ⟨rfl, rfl⟩

/-- A sender of an open channel goes on, has sent, or was leaving. -/
theorem runSender_cases {sender : Nat} {reported : List (Oneshot.Event ConnectAnswer)}
    (isOpen : channel.state.closed = false)
    (ran : channel.runSender sender = some (after, reported)) :
    ∃ pc, after.senders = (channel.setSender sender pc).senders ∧
      (leaves pc = true → leaves (channel.senders sender) = true) ∧
      (channel.state.sent = true → after.state.sent = true) ∧
      ((channel.senders sender).active = true →
        pc.active = true ∨ after.state.sent = true ∨ leaves (channel.senders sender) = true) := by
  have notClosed : ¬ channel.state.closed = true := by simp [isOpen]
  cases at_sender : channel.senders sender with
  | writing value deser =>
      simp only [Channel.runSender, at_sender] at ran
      cases ran
      exact ⟨_, rfl, by simp [leaves], id, fun _ => .inl rfl⟩
  | finishing value deser =>
      simp only [Channel.runSender, at_sender, if_neg notClosed] at ran
      cases ran
      refine ⟨_, rfl, ?_, fun _ => rfl, fun _ => .inr (.inl rfl)⟩
      split <;> exact id
  | waking =>
      simp only [Channel.runSender, at_sender] at ran
      cases ran
      exact ⟨_, rfl, by simp [leaves], id, by simp [SenderPc.active]⟩
  | takingBack deser =>
      simp only [Channel.runSender, at_sender] at ran
      cases ran
      exact ⟨_, rfl, fun _ => rfl, id, fun _ => .inl rfl⟩
  | droppingTx =>
      simp only [Channel.runSender, at_sender] at ran
      cases ran
      exact ⟨_, rfl, fun _ => rfl, id, fun _ => .inr (.inr rfl)⟩
  | gone | unused => simp [Channel.runSender, at_sender] at ran

end Channel

/-- A step of the call in `rsp.sender()` or `rsp.recv()`. -/
inductive Ran (connector : Connector Hello) (rsp : Channel ConnectAnswer) :
    Connector Hello → List Event → Prop
  | on (senders : rsp.senders = connector.rsp.senders)
      (senderCount : rsp.senderCount = connector.rsp.senderCount)
      (phase : rsp.rx.call = connector.pc.call)
      (sent : connector.pc.own ≠ none → rsp.state.sent = connector.rsp.state.sent) :
      Ran connector rsp { connector with rsp := rsp } []
  | taken {call : Call} {hello : Nat} (at_pc : connector.pc = .taking call hello)
      (senders : rsp.senders =
        (connector.rsp.setSender connector.rsp.senderCount .unused).senders)
      (senderCount : rsp.senderCount = connector.rsp.senderCount + 1) (idle : rsp.rx = .idle) :
      Ran connector rsp
        { connector with rsp := rsp, pc := .sending call hello connector.rsp.senderCount } []
  | refused {call : Call} {hello : Nat} {error : SenderError}
      {helloSharer : SerBox.Sharing Hello} (at_pc : connector.pc = .taking call hello)
      (senders : rsp.senders = connector.rsp.senders)
      (senderCount : rsp.senderCount = connector.rsp.senderCount) (idle : rsp.rx = .idle)
      (answer : connector.rsp.rxAnswer = some (.sender (.error error))) :
      Ran connector rsp
        { connector with helloSharer := helloSharer, rsp := rsp, pc := .panicked error }
        [.panicked call error]
  | noSender {call : Call} {sender : Nat} (at_pc : connector.pc = .receiving call sender)
      (senders : rsp.senders = connector.rsp.senders)
      (senderCount : rsp.senderCount = connector.rsp.senderCount) (idle : rsp.rx = .idle)
      (unsent : connector.rsp.state.sent = false) (noTx : connector.rsp.state.hasTx = false) :
      Ran connector rsp { connector with rsp := rsp, pc := .idle }
        [.returned call (.received (.error .noSender))]
  | received {call : Call} {sender : Nat} {contents : Contents ConnectAnswer}
      (at_pc : connector.pc = .receiving call sender)
      (senders : rsp.senders = connector.rsp.senders)
      (senderCount : rsp.senderCount = connector.rsp.senderCount) (idle : rsp.rx = .idle)
      (at_rx : connector.rsp.rx = .storing .receive contents) :
      Ran connector rsp { connector with rsp := rsp, pc := .idle }
        [.returned call (.received (.ok (.value contents)))]

section Ran

/-- What the step of a call of the channel means to the call of the connector. -/
theorem CallStep.ran {reported : List (Oneshot.Event ConnectAnswer)}
    (step : CallStep connector.rsp channel reported connector.rsp.rxAnswer)
    (phase : connector.rsp.rx.call = connector.pc.call) (called : connector.pc.call ≠ none) :
    Ran connector channel
      ({ connector with rsp := channel }.resume storage connector.rsp.rxAnswer).1
      ({ connector with rsp := channel }.resume storage connector.rsp.rxAnswer).2 := by
  cases at_pc : connector.pc with
  | taking call hello =>
      have noOwn : connector.pc.own = none := by rw [at_pc]; rfl
      rw [at_pc] at phase
      rcases step.call with ⟨silent, same⟩ | ⟨found, answers, isCall, idle⟩
      · rw [silent, resume_none, ← at_pc]
        rcases step.sender_cases with ⟨senders, senderCount, -⟩ | ⟨created, -, -⟩
        · exact .on senders senderCount (by rw [same, phase, at_pc]) (absurd noOwn)
        · cases silent.symm.trans created
      · rw [phase] at isCall
        cases found with
        | sender result =>
            cases result with
            | ok sender =>
                rcases step.sender_cases with ⟨-, -, none⟩ | ⟨created, senders, senderCount⟩
                · exact absurd answers (none sender)
                · rw [created]
                  simp only [resume]
                  exact .taken at_pc senders senderCount idle
            | error error =>
                rcases step.sender_cases with ⟨senders, senderCount, -⟩ | ⟨created, -, -⟩
                · obtain ⟨helloSharer, released⟩ :=
                    releaseHello_eq storage { connector with rsp := channel } hello
                  rw [answers]
                  simp only [resume]
                  rw [at_pc] at released
                  rw [released]
                  exact .refused at_pc senders senderCount idle answers
                · cases answers.symm.trans created
        | recv result => cases isCall
        | send sender delivered => cases isCall
  | receiving call sender =>
      rw [at_pc] at phase
      obtain ⟨senders, senderCount, cases⟩ := step.recv_cases phase
      rcases cases with ⟨silent, sent⟩ | ⟨answers, unsent, noTx⟩ | ⟨contents, answers, at_rx⟩
      · rcases step.call with ⟨-, same⟩ | ⟨found, answers, -, -⟩
        · rw [silent, resume_none, ← at_pc]
          exact .on senders senderCount (by rw [same, phase, at_pc]) fun _ => sent
        · cases silent.symm.trans answers
      · rcases step.call with ⟨silent, -⟩ | ⟨-, -, -, idle⟩
        · cases silent.symm.trans answers
        · rw [answers]
          simp only [resume]
          exact .noSender at_pc senders senderCount idle unsent noTx
      · rcases step.call with ⟨silent, -⟩ | ⟨-, -, -, idle⟩
        · cases silent.symm.trans answers
        · rw [answers]
          simp only [resume]
          exact .received at_pc senders senderCount idle at_rx
  | idle | reserving | sharing | parked | writing | sending | panicked =>
      simp [at_pc, Pc.call] at called

end Ran

/-- What holds of the channel and of the call in progress. -/
structure Steady (history : List Event) (connector : Connector Hello) : Prop where
  rsp : OpenSound (rspEvents history) connector.rsp
  phase : connector.rsp.rx.call = connector.pc.call
  leaving : ∀ {sender}, leaves (connector.rsp.senders sender) = true →
    .droppedRsp sender ∈ history
  own : ∀ {sender}, connector.pc.own = some sender →
    sender + 1 = connector.rsp.senderCount ∧
      ((connector.rsp.senders sender).active = true ∨ connector.rsp.state.sent = true ∨
        .droppedRsp sender ∈ history)

theorem steady_new : Steady [] (new Hello) where
  rsp := openSound_of_run .refl
  phase := rfl
  leaving leaving := by cases leaving
  own own := by cases own

section Steady

/-- A step that leaves the senders alone, and the message while the call has its own
sender. -/
theorem Steady.keep (steady : Steady history connector)
    (rsp : OpenSound (rspEvents (history ++ events)) next.rsp)
    (phase : next.rsp.rx.call = next.pc.call)
    (senders : next.rsp.senders = connector.rsp.senders)
    (senderCount : next.rsp.senderCount = connector.rsp.senderCount)
    (own : ∀ {sender}, next.pc.own = some sender → connector.pc.own = some sender ∧
      next.rsp.state.sent = connector.rsp.state.sent) :
    Steady (history ++ events) next := by
  refine ⟨rsp, phase, ?_, ?_⟩
  · intro sender leaving
    rw [senders] at leaving
    exact List.mem_append_left _ (steady.leaving leaving)
  · intro sender isOwn
    obtain ⟨wasOwn, sent⟩ := own isOwn
    rw [senders, senderCount, sent]
    obtain ⟨newest, cases⟩ := steady.own wasOwn
    exact ⟨newest, cases.imp_right (Or.imp_right (List.mem_append_left _))⟩

/-- A step of one sender. -/
theorem Steady.setSender (steady : Steady history connector)
    {sender : Nat} {pc : SenderPc ConnectAnswer}
    (rsp : OpenSound (rspEvents (history ++ events)) channel)
    (rx : channel.rx = connector.rsp.rx)
    (senders : channel.senders = (connector.rsp.setSender sender pc).senders)
    (senderCount : channel.senderCount = connector.rsp.senderCount)
    (sent : connector.rsp.state.sent = true → channel.state.sent = true)
    (leaving : leaves pc = true → .droppedRsp sender ∈ history ++ events)
    (active : (connector.rsp.senders sender).active = true → pc.active = true ∨
      channel.state.sent = true ∨ .droppedRsp sender ∈ history ++ events) :
    Steady (history ++ events) { connector with rsp := channel } := by
  refine ⟨rsp, ?_, ?_, ?_⟩
  · exact (congrArg RxPc.call rx).trans steady.phase
  · intro other isLeaving
    change leaves (channel.senders other) = true at isLeaving
    rw [senders] at isLeaving
    rcases Channel.setSender_cases isLeaving with ⟨rfl, own⟩ | ⟨-, before⟩
    · exact leaving own
    · exact List.mem_append_left _ (steady.leaving before)
  · intro other isOwn
    obtain ⟨newest, cases⟩ := steady.own isOwn
    refine ⟨newest.trans senderCount.symm, ?_⟩
    change (channel.senders other).active = true ∨ _
    rw [senders]
    rcases cases with isActive | isSent | dropped
    · by_cases same : other = sender
      · subst same
        rw [Channel.setSender_self]
        exact active isActive
      · rw [Channel.setSender_of_ne _ _ same]
        exact .inl isActive
    · exact .inr (.inl (sent isSent))
    · exact .inr (.inr (List.mem_append_left _ dropped))

theorem Steady.ran (steady : Steady history connector)
    (rsp : OpenSound (rspEvents (history ++ events)) next.rsp) {later : List Event}
    (ran : Ran connector channel next later) : Steady (history ++ events) next := by
  cases ran with
  | on senders senderCount phase sent =>
      refine steady.keep rsp phase senders senderCount fun own => ⟨own, sent ?_⟩
      exact fun none => by cases none.symm.trans own
  | taken at_pc senders senderCount idle =>
      refine ⟨rsp, ?_, ?_, ?_⟩
      · exact congrArg RxPc.call idle
      · intro sender leaving
        change leaves (channel.senders sender) = true at leaving
        rw [senders] at leaving
        rcases Channel.setSender_cases leaving with ⟨rfl, own⟩ | ⟨-, before⟩
        · cases own
        · exact List.mem_append_left _ (steady.leaving before)
      · intro sender own
        cases own
        refine ⟨senderCount.symm, .inl ?_⟩
        change (channel.senders _).active = true
        rw [senders, Channel.setSender_self]
        rfl
  | refused at_pc senders senderCount idle | noSender at_pc senders senderCount idle
  | received at_pc senders senderCount idle =>
      exact steady.keep rsp (congrArg RxPc.call idle) senders senderCount fun own => by cases own

/-- The step of the channel that the call takes. -/
theorem Steady.callStep (steady : Steady history connector)
    {reported : List (Oneshot.Event ConnectAnswer)} (called : connector.pc.call ≠ none)
    (stepTo : connector.rsp.step .runRx = some (channel, reported)) :
    Ran connector channel
      ({ connector with rsp := channel }.resume storage connector.rsp.rxAnswer).1
      ({ connector with rsp := channel }.resume storage connector.rsp.rxAnswer).2 :=
  CallStep.ran (steady.rsp.callStep stepTo) steady.phase called

theorem Steady.transition (steady : Steady history connector)
    (transition : Transition storage connector byRun next events) :
    Steady (history ++ events) next := by
  have rsp : OpenSound (rspEvents (history ++ events)) next.rsp := by
    rw [rspEvents_append]
    rcases transition.rsp_step with ⟨same, silent⟩ | ⟨action, stays, stepTo⟩
    · rw [silent, List.append_nil, same]
      exact steady.rsp
    · exact steady.rsp.step stays stepTo
  cases transition with
  | hello => exact steady.keep rsp steady.phase rfl rfl fun own => ⟨own, rfl⟩
  | outside before after mild =>
      refine steady.keep rsp ?_ rfl rfl fun own => ?_
      · rw [after.call, ← before.call]
        exact steady.phase
      · cases after.own.symm.trans own
  | take at_pc stepTo =>
      cases Channel.step_sender stepTo
      exact steady.keep rsp rfl rfl rfl fun own => by cases own
  | request at_pc own stepTo =>
      cases Channel.step_recv stepTo
      refine steady.keep rsp rfl rfl rfl fun isOwn => ⟨?_, rfl⟩
      rw [at_pc]
      exact isOwn
  | ran own called stepTo => exact steady.ran rsp (steady.callStep called stepTo)
  | woken stepTo =>
      obtain ⟨purpose, at_rx, rfl⟩ := Channel.step_woken stepTo
      refine steady.keep rsp ?_ rfl rfl fun own => ⟨own, rfl⟩
      rw [← steady.phase, at_rx]
      rfl
  | cancelled stepTo =>
      cases Channel.step_cancel stepTo
      exact steady.keep rsp rfl rfl rfl fun own => by cases own
  | answer stepTo =>
      cases Channel.step_send stepTo
      exact steady.setSender rsp rfl rfl rfl id (fun leaving => by cases leaving)
        fun _ => .inl rfl
  | dropRsp stepTo =>
      cases Channel.step_dropSender stepTo
      exact steady.setSender rsp rfl rfl rfl id (fun _ => by simp) fun _ => .inl rfl
  | @runSender sender channel reported stepTo =>
      obtain ⟨sameRx, sameCount⟩ := runSender_frame stepTo
      obtain ⟨pc, senders, leaving, sent, active⟩ :=
        runSender_cases steady.rsp.newest.isOpen stepTo
      refine steady.setSender rsp sameRx senders sameCount sent ?_ ?_
      · intro isLeaving
        exact List.mem_append_left _ (steady.leaving (leaving isLeaving))
      · intro isActive
        exact (active isActive).imp_right (Or.imp_right fun wasLeaving =>
          List.mem_append_left _ (steady.leaving wasLeaving))

theorem steady_of_run {admits : Connector Hello → Action Hello → Prop}
    (run : Run (step storage) admits (new Hello) history connector) :
    Steady history connector := by
  apply run.invariant Steady
  · exact steady_new
  · intro past reported before after action steady _ stepTo
    exact steady.transition (step_transition stepTo)

end Steady

/-- The requests are made on senders of their own, and calls end with their own answers. -/
structure Requests (history : List Event) (connector : Connector Hello) : Prop where
  requested : ∀ {call sender}, connector.pc = .receiving call sender →
    ∃ request : Request, .requested call request ∈ history ∧ request.rsp = sender
  older : ∀ {call request}, .requested call request ∈ history →
    request.rsp < connector.rsp.senderCount ∧
      ∀ {other hello sender}, connector.pc = .sending other hello sender → request.rsp < sender
  distinct : ∀ {call request other second}, .requested call request ∈ history →
    .requested other second ∈ history → request.rsp = second.rsp → call = other
  own : ∀ {call ending}, .returned call ending ∈ history → Own history call ending

theorem requests_new : Requests [] (new Hello) where
  requested at_pc := by cases at_pc
  older member := by cases member
  distinct member := by cases member
  own member := by cases member

section Requests

/-- A step that makes no request. -/
theorem Requests.keep (requests : Requests history connector)
    (silent : ∀ call request, .requested call request ∉ events)
    (returned : ∀ {call ending}, .returned call ending ∈ events →
      Own (history ++ events) call ending)
    (senderCount : connector.rsp.senderCount ≤ next.rsp.senderCount)
    (receiving : ∀ {call sender}, next.pc = .receiving call sender →
      connector.pc = .receiving call sender)
    (sending : ∀ {call hello sender}, next.pc = .sending call hello sender →
      connector.pc = .sending call hello sender ∨ sender = connector.rsp.senderCount) :
    Requests (history ++ events) next := by
  have before : ∀ {call request}, .requested call request ∈ history ++ events →
      .requested call request ∈ history := by
    intro call request member
    exact (List.mem_append.mp member).resolve_right (silent call request)
  constructor
  · intro call sender at_pc
    obtain ⟨request, member, own⟩ := requests.requested (receiving at_pc)
    exact ⟨request, List.mem_append_left _ member, own⟩
  · intro call request member
    obtain ⟨bound, older⟩ := requests.older (before member)
    refine ⟨bound.trans_le senderCount, ?_⟩
    intro other hello sender at_pc
    rcases sending at_pc with same | rfl
    · exact older same
    · exact bound
  · intro call request other second first member
    exact requests.distinct (before first) (before member)
  · intro call ending member
    rcases List.mem_append.mp member with past | now
    · exact (requests.own past).append
    · exact returned now

/-- The call sends its request, with the sender that it has just got. -/
theorem Requests.request (requests : Requests history connector) {call : Call}
    {hello sender : Nat} {request : Request} (at_pc : connector.pc = .sending call hello sender)
    (own : request.rsp = sender) (bound : sender < next.rsp.senderCount)
    (senderCount : next.rsp.senderCount = connector.rsp.senderCount)
    (receiving : next.pc = .receiving call sender) :
    Requests (history ++ [.requested call request]) next := by
  have cases : ∀ {other second},
      .requested other second ∈ history ++ [.requested call request] →
      (other = call ∧ second = request) ∨
        (.requested other second ∈ history ∧ second.rsp < sender) := by
    intro other second member
    rcases List.mem_append.mp member with past | now
    · exact .inr ⟨past, (requests.older past).2 at_pc⟩
    · simp only [List.mem_singleton, Event.requested.injEq] at now
      exact .inl now
  constructor
  · intro other otherSender at_next
    cases receiving.symm.trans at_next
    exact ⟨request, by simp, own⟩
  · intro other second member
    refine ⟨?_, ?_⟩
    · rcases cases member with ⟨-, rfl⟩ | ⟨past, -⟩
      · exact own ▸ bound
      · rw [senderCount]
        exact (requests.older past).1
    · intro third hello' sender' at_next
      cases receiving.symm.trans at_next
  · intro first firstRequest other second firstMember secondMember same
    rcases cases firstMember with ⟨rfl, rfl⟩ | ⟨firstPast, firstOlder⟩
    · rcases cases secondMember with ⟨rfl, -⟩ | ⟨-, older⟩
      · rfl
      · omega
    · rcases cases secondMember with ⟨-, rfl⟩ | ⟨secondPast, -⟩
      · omega
      · exact requests.distinct firstPast secondPast same
  · intro other ending member
    rcases List.mem_append.mp member with past | now
    · exact (requests.own past).append
    · simp at now

/-- Only the call's own sender can be missing. -/
theorem Steady.dropped (steady : Steady history connector) {call : Call} {sender : Nat}
    (at_pc : connector.pc = .receiving call sender)
    (unsent : connector.rsp.state.sent = false) (noTx : connector.rsp.state.hasTx = false) :
    .droppedRsp sender ∈ history := by
  rcases (steady.own (by rw [at_pc]; rfl)).2 with active | isSent | dropped
  · have isTx := (steady.rsp.owners.sender steady.rsp.newest.isOpen active).1
    cases noTx.symm.trans isTx
  · cases unsent.symm.trans isSent
  · exact dropped

/-- What the receiver has read was sent by the call's own sender. -/
theorem Steady.answered (steady : Steady history connector) {call : Call} {sender : Nat}
    {contents : Contents ConnectAnswer} (at_pc : connector.pc = .receiving call sender)
    (at_rx : connector.rsp.rx = .storing .receive contents) :
    ∃ answer, contents = some (sender, answer) ∧ .rsp (.sent sender answer) ∈ history := by
  have holds := (steady.rsp.owners.reads (by rw [at_rx]; rfl)).1
  simp only [State.holds, Bool.and_eq_true] at holds
  obtain ⟨last, answer, cell, newest, sent⟩ := steady.rsp.newest.message holds.1
  have isOwn : connector.pc.own = some sender := by rw [at_pc]; rfl
  obtain ⟨own, -⟩ := steady.own isOwn
  obtain rfl : last = sender := Nat.succ.inj (newest.trans own.symm)
  exact ⟨answer, (steady.rsp.filled.stored at_rx).symm.trans cell, mem_rspEvents.mp sent⟩

theorem Requests.ran (requests : Requests history connector) (steady : Steady history connector)
    {reported : List (Oneshot.Event ConnectAnswer)} {later : List Event}
    (ran : Ran connector channel next later) :
    Requests (history ++ (reported.map .rsp ++ later)) next := by
  cases ran with
  | on senders senderCount phase sent =>
      exact requests.keep (by simp) (by simp) senderCount.ge id .inl
  | taken at_pc senders senderCount idle =>
      refine requests.keep (by simp) (by simp) (senderCount ▸ Nat.le_succ _)
        (fun at_next => by cases at_next) fun at_next => ?_
      cases at_next
      exact .inr rfl
  | refused at_pc senders senderCount idle =>
      exact requests.keep (by simp) (by simp) senderCount.ge (fun at_next => by cases at_next)
        fun at_next => by cases at_next
  | @noSender call sender at_pc senders senderCount idle unsent noTx =>
      refine requests.keep (by simp) ?_ senderCount.ge (fun at_next => by cases at_next)
        fun at_next => by cases at_next
      intro other ending member
      obtain ⟨rfl, rfl⟩ : other = call ∧ ending = .received (.error .noSender) := by
        simpa using member
      obtain ⟨request, requested, rfl⟩ := requests.requested at_pc
      exact Own.append (.dropped requested (steady.dropped at_pc unsent noTx))
  | @received call sender contents at_pc senders senderCount idle at_rx =>
      refine requests.keep (by simp) ?_ senderCount.ge (fun at_next => by cases at_next)
        fun at_next => by cases at_next
      intro other ending member
      obtain ⟨rfl, rfl⟩ : other = call ∧ ending = .received (.ok (.value contents)) := by
        simpa using member
      obtain ⟨request, requested, rfl⟩ := requests.requested at_pc
      obtain ⟨answer, rfl, sent⟩ := steady.answered at_pc at_rx
      exact Own.append (.answered requested sent)

theorem Requests.transition (requests : Requests history connector)
    (steady : Steady history connector)
    (transition : Transition storage connector byRun next events) :
    Requests (history ++ events) next := by
  cases transition with
  | hello => exact requests.keep (by simp) (by simp) (Nat.le_refl _) id .inl
  | outside before after mild =>
      refine requests.keep ?_ ?_ (Nat.le_refl _) ?_ ?_
      · cases mild <;> simp
      · intro call ending member
        cases mild with
        | nil => cases member
        | abandoned => simp at member
        | closed other =>
            obtain ⟨-, rfl⟩ : call = other ∧ ending = .closed := by simpa using member
            exact .closed
      · intro call sender at_pc
        obtain rfl : _ = Pc.receiving call sender := at_pc
        cases after.own
      · intro call hello sender at_pc
        obtain rfl : _ = Pc.sending call hello sender := at_pc
        cases after.own
  | take at_pc stepTo =>
      cases Channel.step_sender stepTo
      exact requests.keep (by simp) (by simp) (Nat.le_refl _) (fun at_next => by cases at_next)
        fun at_next => by cases at_next
  | @request call hello sender rsp request at_pc own stepTo =>
      cases Channel.step_recv stepTo
      have isOwn : connector.pc.own = some sender := by rw [at_pc]; rfl
      have newest := (steady.own isOwn).1
      exact requests.request at_pc own (Nat.lt_of_succ_le newest.le) rfl rfl
  | ran own called stepTo => exact requests.ran steady (steady.callStep called stepTo)
  | woken stepTo =>
      obtain ⟨purpose, -, rfl⟩ := Channel.step_woken stepTo
      exact requests.keep (by simp) (by simp) (Nat.le_refl _) id .inl
  | cancelled stepTo =>
      cases Channel.step_cancel stepTo
      exact requests.keep (by simp) (by simp) (Nat.le_refl _) (fun at_next => by cases at_next)
        fun at_next => by cases at_next
  | answer stepTo =>
      cases Channel.step_send stepTo
      exact requests.keep (by simp) (by simp) (Nat.le_refl _) id .inl
  | dropRsp stepTo =>
      cases Channel.step_dropSender stepTo
      exact requests.keep (by simp) (by simp) (Nat.le_refl _) id .inl
  | runSender stepTo =>
      exact requests.keep (by simp) (by simp) (runSender_frame stepTo).2.ge id .inl

theorem requests_of_run {admits : Connector Hello → Action Hello → Prop}
    (run : Run (step storage) admits (new Hello) history connector) :
    Requests history connector := by
  have both : Steady history connector ∧ Requests history connector := by
    apply run.invariant fun past state => Steady past state ∧ Requests past state
    · exact ⟨steady_new, requests_new⟩
    · intro past reported before after action sound _ stepTo
      have transition := step_transition stepTo
      exact ⟨sound.1.transition transition, sound.2.transition sound.1 transition⟩
  exact both.2

end Requests

end Connector

end Calliope

end Mgnp
