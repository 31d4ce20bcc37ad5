import Mgnp.ConnectorCalls

/-!
# When a call of the connector panics

`rsp.sender()` fails exactly when an earlier request still has its sender, or its
answer has not been received.  That is so when a call is dropped in `rsp.recv()`,
unless its request is dropped without an answer before the next call gets that far.
-/

namespace Mgnp

namespace Calliope

namespace Connector

open LabelledRuns SoloCalls Oneshot

variable {Hello : Type*} {storage : SerBox.Storage} {connector next : Connector Hello}
  {history events : List Event} {channel after : Channel ConnectAnswer} {byRun : Prop}

/-- An earlier request still has its sender, or its answer waits. -/
def Occupied (connector : Connector Hello) : Prop :=
  (∃ sender < connector.rsp.senderCount, (connector.rsp.senders sender).active = true) ∨
    connector.rsp.state.sent = true

instance (connector : Connector Hello) : Decidable connector.Occupied :=
  inferInstanceAs (Decidable ((∃ sender < connector.rsp.senderCount, _ = true) ∨ _ = true))

/-- No call looks for a sender while the channel is occupied. -/
def takesFree (connector : Connector Hello) : Action Hello → Prop
  | .run => connector.rsp.rx.casts = true → ¬ connector.Occupied
  | _ => True

instance (connector : Connector Hello) (action : Action Hello) :
    Decidable (takesFree connector action) :=
  match action with
  | .run => inferInstanceAs (Decidable (_ = true → ¬ _))
  | .connect _ _ _ | .reserved _ | .sharerReady | .woken | .cancel | .answer _ _ | .dropRsp _
  | .runSender _ | .serialize _ | .dropHello _ | .runHello _ => isTrue trivial

/-- What a caller of `connect` can rely on. -/
structure Reliable (history : List Event) : Prop where
  calm : ∀ call error, .panicked call error ∉ history
  own : ∀ call ending, .returned call ending ∈ history → Own history call ending
  distinct : ∀ call request other second, .requested call request ∈ history →
    .requested other second ∈ history → request.rsp = second.rsp → call = other

/-- `HAS_TX` is set exactly when the channel is occupied. -/
theorem Steady.occupied_iff (steady : Steady history connector) :
    connector.Occupied ↔ connector.rsp.state.hasTx = true := by
  have isOpen := steady.rsp.newest.isOpen
  constructor
  · rintro (⟨sender, -, active⟩ | isSent)
    · exact (steady.rsp.owners.sender isOpen active).1
    · exact steady.rsp.owners.hasTx isOpen isSent
  · intro hasTx
    rcases steady.rsp.newest.holder hasTx with isSent | ⟨sender, active⟩
    · exact .inr isSent
    · exact .inl ⟨sender, steady.rsp.owners.senderCount active, active⟩

section Free

/-- Without `HAS_TX`, the loop of `take_sender` goes round or creates a sender. -/
theorem CallStep.free {T : Type*} {channel after : Channel T} {reported : List (Oneshot.Event T)}
    {answer : Option (Answer T)} (step : CallStep channel after reported answer)
    (at_rx : channel.rx = .casting) (noTx : channel.state.hasTx = false)
    (unsent : channel.state.sent = false) :
    (answer = none ∧ after.rx = .casting) ∨
      answer = some (.sender (.ok channel.senderCount)) := by
  cases step with
  | created => exact .inr rfl
  | looked casting isSent => cases unsent.symm.trans isSent
  | refused casting hasTx => cases noTx.symm.trans hasTx
  | spun => exact .inl ⟨rfl, rfl⟩
  | found polling | waits polling | noSender polling => cases at_rx.symm.trans polling
  | read taking => cases at_rx.symm.trans taking
  | stored storing => cases at_rx.symm.trans storing

/-- The call has not gone beyond the compare-exchange of `rsp.sender()`. -/
structure Calm (history : List Event) (connector : Connector Hello) : Prop where
  casting : ∀ {call hello}, connector.pc = .taking call hello → connector.rsp.rx = .casting
  calm : ∀ call error, .panicked call error ∉ history

theorem calm_new : Calm [] (new Hello) where
  casting at_pc := by cases at_pc
  calm call error member := by cases member

theorem Calm.keep (calm : Calm history connector)
    (silent : ∀ call error, .panicked call error ∉ events)
    (casting : ∀ {call hello}, next.pc = .taking call hello → next.rsp.rx = .casting) :
    Calm (history ++ events) next := by
  refine ⟨casting, ?_⟩
  intro call error member
  exact (List.mem_append.mp member).elim (calm.calm call error) (silent call error)

theorem Pc.call_cases {pc : Pc Hello} (called : pc.call ≠ none) :
    (∃ call hello, pc = .taking call hello) ∨ ∃ call sender, pc = .receiving call sender := by
  cases pc with
  | taking call hello => exact .inl ⟨call, hello, rfl⟩
  | receiving call sender => exact .inr ⟨call, sender, rfl⟩
  | _ => exact absurd rfl called

theorem Calm.ranTaking (calm : Calm history connector) (steady : Steady history connector)
    (free : connector.rsp.rx.casts = true → ¬ connector.Occupied) {call : Call} {hello : Nat}
    (at_pc : connector.pc = .taking call hello)
    {reported : List (Oneshot.Event ConnectAnswer)}
    (stepTo : connector.rsp.step .runRx = some (channel, reported)) :
    Calm (history ++ (reported.map .rsp ++
        ({ connector with rsp := channel }.resume storage connector.rsp.rxAnswer).2))
      ({ connector with rsp := channel }.resume storage connector.rsp.rxAnswer).1 := by
  have at_rx := calm.casting at_pc
  have noTx : connector.rsp.state.hasTx = false := by
    rw [← Bool.not_eq_true, ← steady.occupied_iff]
    exact free (by rw [at_rx]; rfl)
  have unsent : connector.rsp.state.sent = false := by
    rw [← Bool.not_eq_true]
    intro isSent
    cases noTx.symm.trans (steady.rsp.owners.hasTx steady.rsp.newest.isOpen isSent)
  rcases CallStep.free (steady.rsp.callStep stepTo) at_rx noTx unsent with
    ⟨silent, again⟩ | created
  · rw [silent, resume_none]
    exact calm.keep (by simp) fun _ => again
  · rw [created]
    exact calm.keep (by simp [resume, at_pc]) fun at_next => by simp [resume, at_pc] at at_next

theorem Calm.ranReceiving (calm : Calm history connector) {call : Call} {sender : Nat}
    (at_pc : connector.pc = .receiving call sender)
    {reported : List (Oneshot.Event ConnectAnswer)} {later : List Event}
    (ran : Ran connector channel next later) :
    Calm (history ++ (reported.map .rsp ++ later)) next := by
  cases ran with
  | on => exact calm.keep (by simp) fun at_next => by cases at_pc.symm.trans at_next
  | taken taking | refused taking => cases at_pc.symm.trans taking
  | noSender | received => exact calm.keep (by simp) fun at_next => by cases at_next

theorem Calm.transition (calm : Calm history connector) (steady : Steady history connector)
    (free : byRun → connector.rsp.rx.casts = true → ¬ connector.Occupied)
    (transition : Transition storage connector byRun next events) :
    Calm (history ++ events) next := by
  cases transition with
  | hello => exact calm.keep (by simp) calm.casting
  | outside before after mild =>
      refine calm.keep ?_ ?_
      · cases mild <;> simp
      · intro call hello at_pc
        obtain rfl : _ = Pc.taking call hello := at_pc
        cases after.call
  | take at_pc stepTo =>
      cases Channel.step_sender stepTo
      exact calm.keep (by simp) fun _ => rfl
  | request at_pc own stepTo => exact calm.keep (by simp) fun at_next => by cases at_next
  | ran own called stepTo =>
      rcases Pc.call_cases called with ⟨call, hello, at_pc⟩ | ⟨call, sender, at_pc⟩
      · exact calm.ranTaking steady (free own) at_pc stepTo
      · exact calm.ranReceiving at_pc (steady.callStep called stepTo)
  | woken stepTo =>
      obtain ⟨purpose, at_rx, rfl⟩ := Channel.step_woken stepTo
      refine calm.keep (by simp) fun at_pc => ?_
      cases at_rx.symm.trans (calm.casting at_pc)
  | cancelled stepTo => exact calm.keep (by simp) fun at_next => by cases at_next
  | answer stepTo =>
      cases Channel.step_send stepTo
      exact calm.keep (by simp) calm.casting
  | dropRsp stepTo =>
      cases Channel.step_dropSender stepTo
      exact calm.keep (by simp) calm.casting
  | runSender stepTo =>
      refine calm.keep (by simp) fun at_pc => ?_
      exact (runSender_frame stepTo).1.trans (calm.casting at_pc)

end Free

theorem connects_of_run (run : Run (step storage) takesFree (new Hello) history connector) :
    Reliable history := by
  have sound : Steady history connector ∧ Calm history connector := by
    apply run.invariant fun past state => Steady past state ∧ Calm past state
    · exact ⟨steady_new, calm_new⟩
    · intro past reported before after action sound admitted stepTo
      have transition := step_transition stepTo
      have free : action = .run → before.rsp.rx.casts = true → ¬ before.Occupied := by
        rintro rfl
        exact admitted
      exact ⟨sound.1.transition transition, sound.2.transition sound.1 free transition⟩
  have requests := requests_of_run run
  exact ⟨sound.2.calm, fun _ _ => requests.own, fun _ _ _ _ => requests.distinct⟩

section Occupied

theorem step_run {call : Call} {hello : Nat} (at_pc : connector.pc = .taking call hello)
    {reported : List (Oneshot.Event ConnectAnswer)}
    (stepTo : connector.rsp.runRx = some (channel, reported)) :
    connector.step storage .run =
      some (({ connector with rsp := channel }.resume storage connector.rsp.rxAnswer).1,
        reported.map .rsp ++
          ({ connector with rsp := channel }.resume storage connector.rsp.rxAnswer).2) := by
  have rspStep : connector.rsp.step .runRx = some (channel, reported) := stepTo
  simp only [step, run, at_pc, onRsp, rspStep, Option.map_some, Channel.answer]

/-- When `rsp.sender()` fails, the call of the connector panics. -/
theorem panics_of_returns {reported : List (Oneshot.Event ConnectAnswer)}
    {result : Answer ConnectAnswer} {call : Call} {hello : Nat} {error : SenderError}
    (returns : channel.Returns reported result after) (at_rsp : connector.rsp = channel)
    (at_pc : connector.pc = .taking call hello) (fails : result = .sender (.error error)) :
    ∃ later final, Run (step storage) anyStep connector later final ∧
      .panicked call error ∈ later := by
  induction returns generalizing connector with
  | last stepTo answered =>
      subst at_rsp fails
      refine ⟨_, _, .single trivial (step_run at_pc stepTo), ?_⟩
      simp [answered, resume, at_pc]
  | @silent state next final events later result stepTo unanswered rest ih =>
      subst at_rsp
      have first : connector.step storage .run = _ := step_run at_pc stepTo
      rw [unanswered, resume_none] at first
      obtain ⟨tail, last, run, member⟩ :=
        @ih { connector with rsp := next } rfl at_pc fails
      exact ⟨_, last, (Run.single trivial first).trans run, List.mem_append_right _ member⟩

/-- A call that looks for a sender in an occupied channel panics when it goes on. -/
theorem panics_of_occupied {admits : Connector Hello → Action Hello → Prop}
    (run : Run (step storage) admits (new Hello) history connector) {call : Call} {hello : Nat}
    (at_pc : connector.pc = .taking call hello) (at_rx : connector.rsp.rx = .casting)
    (occupied : connector.Occupied) :
    ∃ later final, Run (step storage) anyStep connector later final ∧
      .panicked call .senderAlreadyActive ∈ later := by
  have steady := steady_of_run run
  obtain ⟨reported, channel, returns⟩ := Channel.returns_active at_rx steady.rsp.newest.isOpen
    (steady.occupied_iff.mp occupied)
  exact panics_of_returns returns rfl at_pc rfl

end Occupied

/-- A call of `connect` up to where it waits for the answer. -/
def call (hello : Nat) : List (Action Nat) :=
  [.connect .sample hello hello, .reserved true, .run, .run, .run, .run, .run]

/-- The frame of a request was sent, and the hello message is dropped. -/
def sendFrame (request : Nat) : List (Action Nat) :=
  [.serialize request, .dropHello request, .runHello request, .runHello request,
    .runHello request, .runHello request]

/-- The machine answers a request, and the call returns. -/
def answered (request : Nat) (answer : ConnectAnswer) : List (Action Nat) :=
  [.answer request answer, .runSender request, .runSender request, .runSender request,
    .woken, .run, .run, .run]

/-- Two calls return.  Between them one is dropped in `reserve` and one in `share`, where
the hello message of the first call keeps it waiting. -/
theorem connects_twice :
    ∃ history : List Event, ∃ connector : Connector Nat,
      Run (step .heap) takesFree (new Nat) history connector ∧
      (history.filter fun | .returned _ _ | .abandoned _ => true | _ => false) =
        [.returned ⟨0, .sample, 3⟩ (.received (.ok (.value (some (0, .error .notFound))))),
          .abandoned ⟨1, .sample, 4⟩, .abandoned ⟨2, .sample, 6⟩,
          .returned ⟨3, .sample, 5⟩ (.received (.ok (.value (some (1, .ok ())))))] ∧
      Reliable history := by
  obtain ⟨history, connector, run, outcome⟩ := exists_run_of_exec (step .heap) takesFree
    (new Nat) (call 3 ++ answered 0 (.error .notFound) ++ [.connect .sample 4 4, .cancel] ++
      [.connect .sample 6 6, .reserved true, .run, .cancel] ++ sendFrame 0 ++ call 5 ++
      sendFrame 1 ++ answered 1 (.ok ()))
    (fun reached => reached.2.filter fun | .returned _ _ | .abandoned _ => true | _ => false)
    (show _ = some
      [.returned ⟨0, .sample, 3⟩ (.received (.ok (.value (some (0, .error .notFound))))),
        .abandoned ⟨1, .sample, 4⟩, .abandoned ⟨2, .sample, 6⟩,
        .returned ⟨3, .sample, 5⟩ (.received (.ok (.value (some (1, .ok ())))))]
      by decide +kernel)
  exact ⟨history, connector, run, outcome, connects_of_run run⟩

/-- A call is dropped while it waits for the answer, and the next one panics. -/
theorem not_reliable_abandoned :
    ¬ ∀ (history : List Event) (connector : Connector Nat),
      Run (step .heap) anyStep (new Nat) history connector → Reliable history := by
  intro always
  obtain ⟨history, connector, run, outcome⟩ := exists_run_of_exec (step .heap) anyStep
    (new Nat) (call 3 ++ sendFrame 0 ++ [.cancel] ++
      [.connect .sample 4 4, .reserved true, .run, .run, .run])
    (fun reached => decide (.panicked ⟨1, .sample, 4⟩ .senderAlreadyActive ∈ reached.2))
    (show _ = some true by decide +kernel)
  exact (always history connector run).calm _ _ (of_decide_eq_true outcome)

end Connector

end Calliope

end Mgnp
