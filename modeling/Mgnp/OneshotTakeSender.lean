import Mgnp.OneshotAnswers

/-!
# The loop of `take_sender`

A call that runs alone decides from the state byte alone.  It spins on a byte in
which only `RX_WAITING` is left over, and it reports an active sender whenever
`HAS_TX` is set, which a message that was sent leaves behind.
-/

namespace Mgnp

namespace Oneshot

open LabelledRuns SoloCalls

variable {T : Type*} {channel next final : Channel T} {events later history : List (Event T)}
  {result : Answer T}

/-- `HAS_RX | RX_WAITING`: a receive that found no sender left its flag behind. -/
def State.spins : State := ⟨true, false, true, false, false⟩

def SenderPc.isUnused : SenderPc T → Bool
  | .unused => true
  | .gone | .writing _ _ | .finishing _ _ | .waking | .takingBack _ | .droppingTx => false

/-- The sender is not in the middle of an operation. -/
def SenderPc.rests : SenderPc T → Bool
  | .gone | .unused => true
  | .writing _ _ | .finishing _ _ | .waking | .takingBack _ | .droppingTx => false

/-- The loop of `take_sender` begins. -/
def Channel.casting (channel : Channel T) : Channel T :=
  { channel with rx := .casting }

/-- The receiver has set `RX_WAITING`. -/
def Channel.polled (channel : Channel T) (rx : RxPc T) : Channel T :=
  { channel with state := { channel.state with rxWaiting := true }, rx := rx }

/-- The loop of `take_sender` receives after it found the state. -/
def Channel.receiving (channel : Channel T) : Channel T :=
  { channel with rx := .polling (.discard channel.state) }

section Calls

variable (channel) in
/-- The receive of `take_sender` uses the waiting message and is about to reset
the state. -/
theorem Channel.returns_discard {state : State}
    (at_rx : channel.rx = .polling (.discard state)) (isOpen : channel.state.closed = false)
    (isSent : channel.state.sent = true)
    (rest : Channel.Returns (channel.polled (.storing (.discard state) channel.cell))
      later result final) :
    ∃ events, channel.Returns (events ++ later) result final := by
  cases typed : channel.erased with
  | false =>
      have polls : channel.runRx = some (channel.polled (.taking (.discard state)), []) := by
        simp [Channel.runRx, Channel.polled, at_rx, isOpen, isSent, typed]
      have unanswered : channel.rxAnswer = none := by
        simp [Channel.rxAnswer, at_rx, isOpen, isSent, typed]
      have reads : Channel.Returns (channel.polled (.taking (.discard state)))
          ([channel.useCell false] ++ later) result final := .silent rfl rfl rest
      exact ⟨[channel.useCell false], by simpa using Completes.silent polls unanswered reads⟩
  | true =>
      have polls : channel.runRx = some (channel.polled (.dropping state), []) := by
        simp [Channel.runRx, Channel.polled, at_rx, isOpen, isSent, typed]
      have unanswered : channel.rxAnswer = none := by
        simp [Channel.rxAnswer, at_rx, isOpen, isSent, typed]
      have reads : Channel.Returns (channel.polled (.dropping state))
          ([channel.useCell true] ++ later) result final := .silent rfl rfl rest
      exact ⟨[channel.useCell true], by simpa using Completes.silent polls unanswered reads⟩

/-- The loop looks at a state other than `HAS_RX` in which nothing was sent. -/
theorem Channel.returns_refused {error : SenderError} (at_rx : channel.rx = .casting)
    (notReady : channel.state ≠ .ready) (unsent : channel.state.sent = false)
    (refuses : channel.state.refusal = some error) :
    ∃ events final, channel.Returns events (.sender (.error error)) final := by
  refine ⟨[], { channel with rx := (Purpose.discard channel.state).next }, .last ?_ ?_⟩
  · simp [Channel.runRx, at_rx, notReady, unsent]
  · simp [Channel.rxAnswer, at_rx, notReady, unsent, refuses]

/-- The loop takes the message that it found and looks at the same state again. -/
theorem Channel.returns_of_receiving (at_rx : channel.rx = .casting)
    (isSent : channel.state.sent = true)
    (rest : channel.receiving.Returns later result final) :
    channel.Returns later result final := by
  have notReady : channel.state ≠ .ready := by
    intro ready
    rw [ready] at isSent
    cases isSent
  rw [← List.nil_append later]
  refine .silent ?_ ?_ rest
  · simp [Channel.runRx, Channel.receiving, at_rx, notReady, isSent]
  · simp [Channel.rxAnswer, at_rx, notReady, isSent]

theorem Channel.returns_ready (at_rx : channel.rx = .casting)
    (ready : channel.state = .ready) :
    channel.Returns [.created channel.senderCount] (.sender (.ok channel.senderCount))
      { channel.setSender channel.senderCount .unused with
        state := .taken
        senderCount := channel.senderCount + 1
        rx := .idle } := by
  refine .last ?_ ?_
  · simp [Channel.runRx, at_rx, ready]
  · simp [Channel.rxAnswer, at_rx, ready]

theorem Channel.returns_closed (at_rx : channel.rx = .casting)
    (isClosed : channel.state.closed = true) :
    ∃ events final, channel.Returns events (.sender (.error .closed)) final := by
  have refuses := State.refusal_closed isClosed
  cases isSent : channel.state.sent with
  | false =>
      refine Channel.returns_refused at_rx ?_ isSent refuses
      intro ready
      rw [ready] at isClosed
      cases isClosed
  | true =>
      have polls : channel.receiving.runRx =
          some (channel.polled (Purpose.discard channel.state).next, []) := by
        simp [Channel.runRx, Channel.receiving, Channel.polled, isClosed]
      have answers : channel.receiving.rxAnswer = some (.sender (.error .closed)) := by
        simp [Channel.rxAnswer, Channel.receiving, isClosed, Purpose.answer, refuses]
      exact ⟨[], _, Channel.returns_of_receiving at_rx isSent (.last polls answers)⟩

theorem Channel.returns_active (at_rx : channel.rx = .casting)
    (isOpen : channel.state.closed = false) (hasTx : channel.state.hasTx = true) :
    ∃ events final, channel.Returns events (.sender (.error .senderAlreadyActive)) final := by
  have refuses := State.refusal_active isOpen hasTx
  cases isSent : channel.state.sent with
  | false =>
      refine Channel.returns_refused at_rx ?_ isSent refuses
      intro ready
      rw [ready] at hasTx
      cases hasTx
  | true =>
      have answers :
          (channel.receiving.polled (.storing (.discard channel.state) channel.cell)).rxAnswer =
            some (.sender (.error .senderAlreadyActive)) := by
        simp [Channel.rxAnswer, Channel.polled, Purpose.answer, refuses]
      obtain ⟨events, returns⟩ :=
        channel.receiving.returns_discard rfl isOpen isSent (.last rfl answers)
      exact ⟨_, _, Channel.returns_of_receiving at_rx isSent returns⟩

/-- Without `HAS_TX`, the loop throws away a waiting message and creates a sender. -/
theorem Channel.returns_created (at_rx : channel.rx = .casting)
    (isOpen : channel.state.closed = false) (noTx : channel.state.hasTx = false)
    (found : channel.state = .ready ∨ channel.state.sent = true) :
    ∃ events final, channel.Returns events (.sender (.ok channel.senderCount)) final ∧
      final.senders channel.senderCount = .unused ∧
      (channel.state.sent = true → .tossed channel.cell ∈ events) := by
  rcases found with ready | isSent
  · refine ⟨_, _, Channel.returns_ready at_rx ready, Channel.setSender_self .., ?_⟩
    intro isSent
    rw [ready] at isSent
    cases isSent
  · have again : (Purpose.discard channel.state).next = (.casting : RxPc T) := by
      simp [Purpose.next, isOpen, noTx]
    have unanswered :
        (channel.receiving.polled (.storing (.discard channel.state) channel.cell)).rxAnswer =
          none := by
      simp [Channel.rxAnswer, Channel.polled, Purpose.answer,
        State.refusal_eq_none isOpen noTx]
    obtain ⟨events, returns⟩ := channel.receiving.returns_discard rfl isOpen isSent
      (.silent rfl unanswered (Channel.returns_ready again rfl))
    refine ⟨_, _, Channel.returns_of_receiving at_rx isSent returns, Channel.setSender_self ..,
      ?_⟩
    simp [Channel.receiving]

end Calls

/-- What every history says about the state byte. -/
structure Formed (history : List (Event T)) (channel : Channel T) : Prop where
  hasRx : channel.state.hasRx = !channel.state.closed
  closed : channel.state.closed = true → .closed ∈ history

theorem formed_new : Formed [] (Channel.new T) where
  hasRx := rfl
  closed isClosed := by cases isClosed

theorem Formed.keep (formed : Formed history channel)
    (hasRx : next.state.hasRx = channel.state.hasRx)
    (closed : next.state.closed = channel.state.closed) : Formed (history ++ events) next := by
  constructor
  · rw [hasRx, closed]
    exact formed.hasRx
  · intro isClosed
    exact List.mem_append_left _ (formed.closed (closed ▸ isClosed))

/-- The state is set to a byte without `CLOSED`. -/
theorem Formed.reset (hasRx : next.state.hasRx = true) (isOpen : next.state.closed = false) :
    Formed history next := by
  constructor
  · rw [hasRx, isOpen]
    rfl
  · intro isClosed
    cases isOpen.symm.trans isClosed

theorem Formed.transition {byRx : Prop} (formed : Formed history channel)
    (transition : Transition channel byRx next events) : Formed (history ++ events) next := by
  cases transition with
  | rxLocal before reads drops polled =>
      rcases polled with rfl | rfl
      · exact formed.keep rfl rfl
      · exact formed.keep rfl rfl
  | create | store | refStore => exact .reset rfl rfl
  | close own at_rx =>
      refine ⟨rfl, fun _ => ?_⟩
      simp
  | _ => exact formed.keep rfl rfl

theorem formed_of_run (run : Run Channel.step anyStep (Channel.new T) history channel) :
    Formed history channel := by
  apply run.invariant Formed
  · exact formed_new
  · intro past events before after action formed _ stepTo
    exact formed.transition (Channel.step_transition stepTo)

/-- What is left of an open state without a sender and without a message. -/
theorem Formed.ready_or_spins (formed : Formed history channel)
    (isOpen : channel.state.closed = false) (noTx : channel.state.hasTx = false)
    (unsent : channel.state.sent = false) :
    channel.state = .ready ∨ channel.state = .spins := by
  have hasRx := formed.hasRx
  cases at_state : channel.state with
  | mk hasRxBit hasTxBit rxWaiting sentBit closedBit =>
      rw [at_state] at isOpen noTx unsent hasRx
      simp only at isOpen noTx unsent hasRx
      subst isOpen noTx unsent hasRx
      cases rxWaiting with
      | true => exact .inr rfl
      | false => exact .inl rfl

section Spinning

/-- The compare-exchange fails on this state, and no test of the loop succeeds. -/
theorem Channel.runRx_spins (at_rx : channel.rx = .casting) (spins : channel.state = .spins) :
    channel.runRx = some (channel, []) ∧ channel.rxAnswer = none := by
  cases channel with
  | mk state cell senders senderCount rx erased refs refCount =>
      simp only at at_rx spins
      subst at_rx spins
      exact ⟨rfl, rfl⟩

theorem Channel.not_finishes_of_spins (at_rx : channel.rx = .casting)
    (spins : channel.state = .spins) : ¬ Finishes Channel.runRx Channel.rxAnswer channel := by
  apply not_finishes_of_loop (fun reached => reached = channel) _ _ rfl
  · rintro _ rfl
    exact (Channel.runRx_spins at_rx spins).2
  · rintro _ next events rfl stepTo
    cases (Channel.runRx_spins at_rx spins).1.symm.trans stepTo
    rfl

theorem takeSender_finishes_iff
    (run : Run Channel.step anyStep (Channel.new T) history channel)
    (at_rx : channel.rx = .casting) :
    Finishes Channel.runRx Channel.rxAnswer channel ↔ channel.state ≠ .spins := by
  constructor
  · intro finishes spins
    exact Channel.not_finishes_of_spins at_rx spins finishes
  · intro notSpins
    cases isClosed : channel.state.closed with
    | true =>
        obtain ⟨events, final, returns⟩ := Channel.returns_closed at_rx isClosed
        exact ⟨_, _, _, returns⟩
    | false =>
        cases hasTx : channel.state.hasTx with
        | true =>
            obtain ⟨events, final, returns⟩ := Channel.returns_active at_rx isClosed hasTx
            exact ⟨_, _, _, returns⟩
        | false =>
            have found : channel.state = .ready ∨ channel.state.sent = true := by
              by_contra neither
              rw [not_or, Bool.not_eq_true] at neither
              rcases (formed_of_run run).ready_or_spins isClosed hasTx neither.2 with
                ready | spins
              · exact neither.1 ready
              · exact notSpins spins
            obtain ⟨events, final, returns, -⟩ :=
              Channel.returns_created at_rx isClosed hasTx found
            exact ⟨_, _, _, returns⟩

/-- A receive that finds no sender, and then a call of `sender`. -/
def failedReceive : List (Action Nat) :=
  [.recv, .runRx, .sender]

theorem takeSender_finishes_afterSend :
    ∃ history : List (Event Nat), ∃ channel : Channel Nat,
      Run Channel.step anyStep (Channel.new Nat) history channel ∧
      Finishes Channel.runRx Channel.rxAnswer channel := by
  obtain ⟨history, channel, run, outcome⟩ := exists_run_of_exec Channel.step anyStep
    (Channel.new Nat)
    [.sender, .runRx, .send 0 5 false, .runSender 0, .runSender 0, .recv, .runRx, .runRx,
      .runRx, .sender]
    (fun reached => (reached.1.rx.casts, reached.1.state))
    (show _ = some (true, .ready) by decide +kernel)
  simp only [Prod.mk.injEq] at outcome
  refine ⟨history, channel, run, ?_⟩
  rw [takeSender_finishes_iff run (RxPc.eq_casting outcome.1), outcome.2]
  decide

theorem not_takeSender_finishes_failedReceive :
    ¬ ∀ (history : List (Event Nat)) (channel : Channel Nat),
      Run Channel.step anyStep (Channel.new Nat) history channel → channel.rx = .casting →
      Finishes Channel.runRx Channel.rxAnswer channel := by
  intro always
  obtain ⟨history, channel, run, outcome⟩ := exists_run_of_exec Channel.step anyStep
    (Channel.new Nat) failedReceive (fun reached => (reached.1.rx.casts, reached.1.state))
    (show _ = some (true, .spins) by decide +kernel)
  simp only [Prod.mk.injEq] at outcome
  have at_rx := RxPc.eq_casting outcome.1
  exact Channel.not_finishes_of_spins at_rx outcome.2 (always history channel run at_rx)

end Spinning

section Documented

/-- Nobody is part-way through an operation. -/
def Channel.Quiet (channel : Channel T) : Prop :=
  channel.rx.isIdle = true ∧
    (∀ sender < channel.senderCount, (channel.senders sender).rests = true) ∧
    ∀ ref < channel.refCount, channel.refs ref = .gone ∨ channel.refs ref = .held

instance (channel : Channel T) : Decidable channel.Quiet :=
  inferInstanceAs (Decidable (_ ∧ _ ∧ _))

/-- A sender exists that was neither used nor dropped. -/
def Channel.HasUnused (channel : Channel T) : Prop :=
  ∃ sender < channel.senderCount, (channel.senders sender).isUnused = true

instance (channel : Channel T) : Decidable channel.HasUnused :=
  inferInstanceAs (Decidable (∃ sender < channel.senderCount, _))

/-- The result of `sender`, `deser_sender` or `downcast_sender` that the
documentation gives. -/
structure Documented (history : List (Event T)) (channel : Channel T)
    (events : List (Event T)) (result : Answer T) (final : Channel T) : Prop where
  closed : .closed ∈ history → result = .sender (.error .closed)
  active : .closed ∉ history → channel.HasUnused →
    result = .sender (.error .senderAlreadyActive)
  created : .closed ∉ history → ¬ channel.HasUnused →
    result = .sender (.ok channel.senderCount) ∧
      final.senders channel.senderCount = .unused ∧
      (channel.state.holds = true → .tossed channel.cell ∈ events)

theorem Documented.unclosed {result : Answer T}
    (documented : Documented history channel events result final)
    (returned : result ≠ .sender (.error .closed)) : .closed ∉ history := by
  intro member
  exact returned (documented.closed member)

/-- `CLOSED` is set, the call never returns, or `close` was not called and `HAS_TX`
tells whether there is an unused sender. -/
def Faithful (history : List (Event T)) (channel : Channel T) : Prop :=
  channel.state.closed = true ∨ channel.state = .spins ∨
    (.closed ∉ history ∧ (channel.state.hasTx = true ↔ channel.HasUnused))

theorem Channel.step_sender {called : Channel T}
    (begins : channel.step .sender = some (called, [])) :
    called = channel.casting := by
  simp only [Channel.step, Channel.start] at begins
  split at begins <;> cases begins
  rfl

theorem Channel.step_sender_of_idle (idle : channel.rx.isIdle = true) :
    channel.step .sender = some (channel.casting, []) := by
  simp [Channel.step, Channel.start, Channel.casting, RxPc.eq_idle idle]

theorem Documented.of_closed (formed : Formed history channel)
    (isClosed : channel.state.closed = true) :
    Documented history channel events (.sender (.error .closed)) final where
  closed _ := rfl
  active unclosed := absurd (formed.closed isClosed) unclosed
  created unclosed := absurd (formed.closed isClosed) unclosed

theorem documented_active_iff :
    Documented history channel events (.sender (.error .senderAlreadyActive)) final ↔
      .closed ∉ history ∧ channel.HasUnused := by
  constructor
  · intro documented
    have unclosed := documented.unclosed (by simp)
    refine ⟨unclosed, ?_⟩
    by_contra noUnused
    have mismatch := (documented.created unclosed noUnused).1
    simp at mismatch
  · rintro ⟨unclosed, hasUnused⟩
    exact ⟨fun member => absurd member unclosed, fun _ _ => rfl,
      fun _ noUnused => absurd hasUnused noUnused⟩

theorem documented_created_iff (unused : final.senders channel.senderCount = .unused)
    (tossed : channel.state.holds = true → .tossed channel.cell ∈ events) :
    Documented history channel events (.sender (.ok channel.senderCount)) final ↔
      .closed ∉ history ∧ ¬ channel.HasUnused := by
  constructor
  · intro documented
    have unclosed := documented.unclosed (by simp)
    refine ⟨unclosed, ?_⟩
    intro hasUnused
    have mismatch := documented.active unclosed hasUnused
    simp at mismatch
  · rintro ⟨unclosed, noUnused⟩
    exact ⟨fun member => absurd member unclosed,
      fun _ hasUnused => absurd hasUnused noUnused, fun _ _ => ⟨rfl, unused, tossed⟩⟩

/-- An open state byte says what the call returns, unless it spins. -/
theorem Channel.returns_open {called : Channel T} (formed : Formed history channel)
    (begins : channel.step .sender = some (called, []))
    (isOpen : channel.state.closed = false) (notSpins : channel.state ≠ .spins) :
    (channel.state.hasTx = true ∧ ∃ events final,
      called.Returns events (.sender (.error .senderAlreadyActive)) final) ∨
    (channel.state.hasTx = false ∧ ∃ events final,
      called.Returns events (.sender (.ok channel.senderCount)) final ∧
      final.senders channel.senderCount = .unused ∧
      (channel.state.holds = true → .tossed channel.cell ∈ events)) := by
  cases channel.step_sender begins
  cases hasTx : channel.state.hasTx with
  | true => exact .inl ⟨rfl, Channel.returns_active rfl isOpen hasTx⟩
  | false =>
      have found : channel.state = .ready ∨ channel.state.sent = true := by
        by_contra neither
        rw [not_or, Bool.not_eq_true] at neither
        rcases formed.ready_or_spins isOpen hasTx neither.2 with ready | spins
        · exact neither.1 ready
        · exact notSpins spins
      have at_rx : channel.casting.rx = .casting := rfl
      obtain ⟨events, final, returns, unused, tossed⟩ :=
        Channel.returns_created at_rx isOpen hasTx found
      refine .inr ⟨rfl, events, final, returns, unused, fun holds => tossed ?_⟩
      simp only [State.holds, Bool.and_eq_true] at holds
      exact holds.1

theorem takeSender_documented_iff {called : Channel T}
    (run : Run Channel.step anyStep (Channel.new T) history channel)
    (begins : channel.step .sender = some (called, [])) :
    (∀ events result final, called.Returns events result final →
      Documented history channel events result final) ↔ Faithful history channel := by
  have formed := formed_of_run run
  have at_rx : called.rx = .casting := by
    rw [channel.step_sender begins]
    rfl
  have sameState : called.state = channel.state := by
    rw [channel.step_sender begins]
    rfl
  cases isClosed : channel.state.closed with
  | true =>
      obtain ⟨events, final, returns⟩ :=
        Channel.returns_closed at_rx (by rw [sameState]; exact isClosed)
      rw [returns.forall_iff]
      exact iff_of_true (.of_closed formed isClosed) (.inl isClosed)
  | false =>
      by_cases spins : channel.state = .spins
      · have notFinishes := Channel.not_finishes_of_spins at_rx (sameState.trans spins)
        refine iff_of_true ?_ (.inr (.inl spins))
        intro events result final returns
        exact absurd ⟨events, result, final, returns⟩ notFinishes
      · have faithful : Faithful history channel ↔
            .closed ∉ history ∧ (channel.state.hasTx = true ↔ channel.HasUnused) := by
          simp [Faithful, isClosed, spins]
        rw [faithful]
        rcases Channel.returns_open formed begins isClosed spins with
          ⟨hasTx, events, final, returns⟩ | ⟨noTx, events, final, returns, unused, tossed⟩
        · rw [returns.forall_iff, documented_active_iff, hasTx]
          simp
        · rw [returns.forall_iff, documented_created_iff unused tossed, noTx]
          simp

/-- A message that was sent waits to be received. -/
def unreceived : List (Action Nat) :=
  [.sender, .runRx, .send 0 5 false, .runSender 0, .runSender 0]

theorem takeSender_documented_afterReceive :
    ∃ history : List (Event Nat), ∃ channel called : Channel Nat,
      Run Channel.step anyStep (Channel.new Nat) history channel ∧
      channel.step .sender = some (called, []) ∧
      ∀ events result final, called.Returns events result final →
        Documented history channel events result final := by
  obtain ⟨history, channel, run, outcome⟩ := exists_run_of_exec Channel.step anyStep
    (Channel.new Nat) (unreceived ++ [.recv, .runRx, .runRx, .runRx])
    (fun reached => (reached.1.rx.isIdle, reached.1.state, decide (.closed ∈ reached.2),
      decide reached.1.HasUnused))
    (show _ = some (true, .ready, false, false) by decide +kernel)
  simp only [Prod.mk.injEq, decide_eq_false_iff_not] at outcome
  obtain ⟨idle, ready, unclosed, noUnused⟩ := outcome
  have begins := Channel.step_sender_of_idle idle
  refine ⟨history, channel, _, run, begins, ?_⟩
  rw [takeSender_documented_iff run begins]
  refine .inr (.inr ⟨unclosed, ?_⟩)
  rw [ready]
  exact iff_of_false (by decide) noUnused

theorem not_takeSender_documented_unreceived :
    ¬ ∀ (history : List (Event Nat)) (channel called : Channel Nat),
      Run Channel.step anyStep (Channel.new Nat) history channel → channel.Quiet →
      channel.step .sender = some (called, []) →
      ∀ events result final, called.Returns events result final →
        Documented history channel events result final := by
  intro always
  obtain ⟨history, channel, run, outcome⟩ := exists_run_of_exec Channel.step anyStep
    (Channel.new Nat) unreceived
    (fun reached => (decide reached.1.Quiet, reached.1.state.closed, reached.1.state.hasTx,
      decide reached.1.HasUnused))
    (show _ = some (true, false, true, false) by decide +kernel)
  simp only [Prod.mk.injEq, decide_eq_false_iff_not, decide_eq_true_eq] at outcome
  obtain ⟨quiet, isOpen, hasTx, noUnused⟩ := outcome
  have begins := Channel.step_sender_of_idle quiet.1
  have at_rx : channel.casting.rx = .casting := rfl
  obtain ⟨events, final, returns⟩ := Channel.returns_active at_rx isOpen hasTx
  have documented := always history channel _ run quiet begins events _ final returns
  exact noUnused (documented_active_iff.mp documented).2

end Documented

end Oneshot

end Mgnp
