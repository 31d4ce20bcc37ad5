import Mgnp.OneshotShared

/-!
# A closed oneshot channel

`CLOSED` is one bit of the state byte.  It survives every operation except the plain
`store(HAS_RX)` at the end of a receive that found its message before `close`.  An
`ErasedRecvRef` stores it, and so does a call of `recv` or `sender` that was in progress.
While the bit is set every call that returns fails, and a call that was made after
`close` reports that the channel is closed.
-/

namespace Mgnp

namespace Oneshot

open LabelledRuns

variable {T : Type*} {channel next : Channel T} {events history later : List (Event T)}

/-- The receive is before its `store(HAS_RX)`. -/
def RxPc.stores : RxPc T → Bool
  | .storing _ _ => true
  | .idle | .polling _ | .waiting _ | .taking _ | .dropping _ | .casting | .closing
  | .closingWait _ | .droppingCell => false

/-- The step does not store `HAS_RX` over `CLOSED`. -/
def Channel.KeepsClosed (channel : Channel T) : Action T → Prop
  | .runRx => channel.rx.stores = true → channel.state.closed = false
  | .runRef ref => channel.refs ref = .storing → channel.state.closed = false
  | _ => True

instance (channel : Channel T) (action : Action T) : Decidable (channel.KeepsClosed action) :=
  match action with
  | .runRx | .runRef _ => inferInstanceAs (Decidable (_ → _))
  | .send _ _ _ | .dropSender _ | .runSender _ | .sender | .recv | .close | .intoErased
  | .woken | .waitClosed | .cancel | .downcast _ | .dropRef _ => isTrue trivial

/-- No receive, by a call or by an `ErasedRecvRef`, stores `HAS_RX` over `CLOSED`. -/
def keepsClosed (shared : Shared T) (action : SharedAction T) : Prop :=
  (shared.focus (shared.caller action)).KeepsClosed action.base

instance (shared : Shared T) (action : SharedAction T) : Decidable (keepsClosed shared action) :=
  inferInstanceAs (Decidable (Channel.KeepsClosed _ _))

/-- Where a call that was made after `close` may stand.  `take_sender` has seen
`CLOSED` when it polls. -/
def RxPc.afterClose : RxPc T → Bool
  | .idle | .casting | .closing | .closingWait _ | .droppingCell | .polling .receive => true
  | .polling (.discard state) => state.closed
  | .waiting _ | .taking _ | .dropping _ | .storing _ _ => false

/-- The call does not succeed, and a receive reports that the channel is closed. -/
def Answer.Fails : Answer T → Prop
  | .sender result => ∃ error, result = .error error
  | .recv result => result = .error .closed
  | .send _ delivered => delivered = false

/-- The call reports that the channel is closed. -/
def Answer.Refuses : Answer T → Prop
  | .sender result => result = .error .closed
  | .recv result => result = .error .closed
  | .send _ delivered => delivered = false

section Channel

/-- A channel is closed after the swap of `close`. -/
theorem Transition.closes {byRx : Prop} (transition : Transition channel byRx next events) :
    next.state.closed = true ∨ .closed ∉ events := by
  cases transition with
  | close own at_rx => exact .inl rfl
  | store at_rx reports =>
      refine .inr ?_
      rcases reports with rfl | rfl <;> simp
  | @takeBack sender deser at_sender =>
      refine .inr ?_
      cases deser <;> simp [Channel.useCell]
  | @read purpose drops at_rx =>
      refine .inr ?_
      cases drops <;> simp [Channel.useCell]
  | @refRead ref drops at_ref =>
      refine .inr ?_
      cases drops <;> simp [Channel.useCell]
  | dropCell at_rx =>
      refine .inr ?_
      simp [Channel.useCell]
  | _ => exact .inr (by simp)

/-- A step of a call in a closed channel. -/
theorem Channel.runRx_closed (isClosed : channel.state.closed = true)
    (unstored : channel.rx.stores = false) (ran : channel.runRx = some (next, events)) :
    next.state.closed = true ∧ (channel.rx.afterClose = true → next.rx.afterClose = true) := by
  have notReady := State.ne_ready_of_closed isClosed
  cases at_rx : channel.rx with
  | casting =>
      simp only [Channel.runRx, at_rx, notReady, if_false] at ran
      split at ran <;> cases ran
      · exact ⟨isClosed, fun _ => isClosed⟩
      · refine ⟨isClosed, fun _ => ?_⟩
        simp [Purpose.next, isClosed, RxPc.afterClose]
  | polling purpose =>
      simp only [Channel.runRx, at_rx, isClosed, if_true] at ran
      cases ran
      refine ⟨rfl, fun after => ?_⟩
      cases purpose with
      | receive => rfl
      | discard state =>
          simp [Purpose.next, show state.closed = true from after, RxPc.afterClose]
  | closing =>
      simp only [Channel.runRx, at_rx] at ran
      cases ran
      exact ⟨rfl, fun _ => rfl⟩
  | closingWait drops =>
      simp only [Channel.runRx, at_rx] at ran
      cases ran
      cases drops <;> exact ⟨isClosed, fun _ => rfl⟩
  | droppingCell =>
      simp only [Channel.runRx, at_rx] at ran
      cases ran
      exact ⟨isClosed, fun _ => rfl⟩
  | taking purpose | dropping state =>
      simp only [Channel.runRx, at_rx] at ran
      cases ran
      exact ⟨isClosed, fun after => by cases after⟩
  | idle | waiting => simp [Channel.runRx, at_rx] at ran
  | storing =>
      rw [at_rx] at unstored
      cases unstored

theorem Channel.runSender_closed {sender : Nat}
    (ran : channel.runSender sender = some (next, events)) :
    next.state.closed = channel.state.closed := by
  unfold Channel.runSender at ran
  repeat' split at ran
  all_goals cases ran
  all_goals rfl

theorem Channel.runRef_closed {ref : Nat} (unstored : channel.refs ref ≠ .storing)
    (ran : channel.runRef ref = some (next, events)) :
    next.state.closed = channel.state.closed := by
  unfold Channel.runRef at ran
  split at ran <;> cases ran
  · rfl
  · rfl
  · rename_i at_ref
    exact absurd at_ref unstored

theorem Channel.start_closed {rx : RxPc T} (started : channel.start rx = some next) :
    next.state = channel.state ∧ next.rx = rx := by
  unfold Channel.start at started
  split at started <;> cases started
  exact ⟨rfl, rfl⟩

/-- A closed channel stays closed over a step that stores nothing over it. -/
theorem Channel.step_closed {action : Action T} (isClosed : channel.state.closed = true)
    (keeps : channel.KeepsClosed action) (stepTo : channel.step action = some (next, events)) :
    next.state.closed = true ∧ (channel.rx.afterClose = true → next.rx.afterClose = true) := by
  cases action with
  | runRx =>
      refine Channel.runRx_closed isClosed ?_ stepTo
      by_contra stores
      cases (keeps (Bool.of_not_eq_false stores)).symm.trans isClosed
  | runSender sender =>
      rw [Shared.step_rx_of_beside rfl stepTo]
      exact ⟨(Channel.runSender_closed stepTo).trans isClosed, id⟩
  | runRef ref =>
      rw [Shared.step_rx_of_beside rfl stepTo]
      refine ⟨(Channel.runRef_closed ?_ stepTo).trans isClosed, id⟩
      intro at_ref
      cases (keeps at_ref).symm.trans isClosed
  | sender | recv | close =>
      simp only [Channel.step, Option.map_eq_some_iff, Prod.mk.injEq] at stepTo
      obtain ⟨started, startsTo, rfl, rfl⟩ := stepTo
      obtain ⟨sameState, atRx⟩ := Channel.start_closed startsTo
      rw [sameState, atRx]
      exact ⟨isClosed, fun _ => rfl⟩
  | intoErased =>
      simp only [Channel.step] at stepTo
      split at stepTo
      · cases stepTo
      · simp only [Option.map_eq_some_iff, Prod.mk.injEq] at stepTo
        obtain ⟨started, startsTo, rfl, rfl⟩ := stepTo
        obtain ⟨sameState, atRx⟩ := Channel.start_closed startsTo
        rw [sameState, atRx]
        exact ⟨isClosed, fun _ => rfl⟩
  | woken | waitClosed | cancel =>
      simp only [Channel.step] at stepTo
      split at stepTo <;> cases stepTo
      rename_i at_rx
      rw [at_rx]
      exact ⟨isClosed, fun after => by cases after⟩
  | send | dropSender | downcast | dropRef =>
      simp only [Channel.step] at stepTo
      split at stepTo <;> cases stepTo
      exact ⟨isClosed, id⟩

/-- The end of a receive that finds the channel closed. -/
theorem Purpose.answer_closed {purpose : Purpose} {answer : Answer T}
    (answered : purpose.answer (.error .closed) = some answer) :
    answer.Fails ∧ ((RxPc.polling purpose : RxPc T).afterClose = true → answer.Refuses) := by
  cases purpose with
  | receive =>
      cases answered
      exact ⟨rfl, fun _ => rfl⟩
  | discard state =>
      obtain ⟨error, refused, rfl⟩ := Option.map_eq_some_iff.mp answered
      refine ⟨⟨error, rfl⟩, fun after => ?_⟩
      cases (State.refusal_closed (show state.closed = true from after)).symm.trans refused
      rfl

theorem Channel.rxAnswer_closed {answer : Answer T} (isClosed : channel.state.closed = true)
    (unstored : channel.rx.stores = false) (answered : channel.rxAnswer = some answer) :
    answer.Fails ∧ (channel.rx.afterClose = true → answer.Refuses) := by
  have notReady := State.ne_ready_of_closed isClosed
  cases at_rx : channel.rx with
  | casting =>
      simp only [Channel.rxAnswer, at_rx, notReady, if_false,
        State.refusal_closed isClosed] at answered
      split at answered <;> cases answered
      exact ⟨⟨_, rfl⟩, fun _ => rfl⟩
  | polling purpose =>
      simp only [Channel.rxAnswer, at_rx, isClosed, if_true] at answered
      exact Purpose.answer_closed answered
  | storing =>
      rw [at_rx] at unstored
      cases unstored
  | idle | waiting | taking | dropping | closing | closingWait | droppingCell =>
      simp [Channel.rxAnswer, at_rx] at answered

/-- Whatever call returns in a closed channel fails. -/
theorem Channel.answer_closed {action : Action T} {answer : Answer T}
    (isClosed : channel.state.closed = true) (keeps : channel.KeepsClosed action)
    (answered : channel.answer action = some answer) :
    answer.Fails ∧ (channel.rx.afterClose = true → answer.Refuses) := by
  cases action with
  | runRx =>
      refine Channel.rxAnswer_closed isClosed ?_ answered
      by_contra stores
      cases (keeps (Bool.of_not_eq_false stores)).symm.trans isClosed
  | runSender sender =>
      simp only [Channel.answer, Channel.senderAnswer, isClosed, if_true] at answered
      split at answered <;> cases answered
      exact ⟨rfl, fun _ => rfl⟩
  | waitClosed =>
      simp only [Channel.answer] at answered
      split at answered
      · rename_i purpose at_rx
        rw [at_rx]
        exact ⟨(Purpose.answer_closed answered).1, fun after => by cases after⟩
      · cases answered
  | _ => cases answered

end Channel

section Closed

variable {shared after : Shared T} {action : SharedAction T} {first : Nat}

/-- A step of a shared receiver keeps the channel closed. -/
theorem Shared.Placed.step_closed (placed : shared.Placed)
    (isClosed : shared.channel.state.closed = true) (keeps : keepsClosed shared action)
    (stepTo : shared.step action = some (after, events)) :
    after.channel.state.closed = true ∧ ∀ call,
      (shared.calls call).afterClose = true → (after.calls call).afterClose = true := by
  obtain ⟨focused, count, stepsTo, rfl, -⟩ := placed.step_focus stepTo
  have focusClosed : (shared.focus (shared.caller action)).state.closed = true := isClosed
  obtain ⟨stays, kept⟩ := Channel.step_closed focusClosed keeps stepsTo
  refine ⟨stays, fun call before => ?_⟩
  by_cases same : call = shared.caller action
  · subst same
    simpa [Shared.unfocus] using kept before
  · simpa [Shared.unfocus, Function.update_of_ne same] using before

/-- `close` is recorded by its bit. -/
structure Recorded (history : List (Event T)) (shared : Shared T) : Prop where
  placed : shared.Placed
  closed : .closed ∈ history → shared.channel.state.closed = true

theorem Recorded.step (recorded : Recorded history shared) (keeps : keepsClosed shared action)
    (stepTo : shared.step action = some (after, events)) :
    Recorded (history ++ events) after := by
  refine ⟨recorded.placed.step stepTo, fun member => ?_⟩
  rcases List.mem_append.mp member with before | now
  · exact (recorded.placed.step_closed (recorded.closed before) keeps stepTo).1
  · obtain ⟨focused, count, stepsTo, rfl, -⟩ := recorded.placed.step_focus stepTo
    rcases (Channel.step_transition stepsTo).closes with isClosed | silent
    · exact isClosed
    · exact absurd now silent

/-- The channel is closed, and the calls from `first` on were made after `close`. -/
structure Closed (first : Nat) (shared : Shared T) : Prop where
  placed : shared.Placed
  closed : shared.channel.state.closed = true
  late : ∀ call, first ≤ call → (shared.calls call).afterClose = true

theorem Closed.step (closed : Closed first shared) (keeps : keepsClosed shared action)
    (stepTo : shared.step action = some (after, events)) : Closed first after := by
  obtain ⟨stays, kept⟩ := closed.placed.step_closed closed.closed keeps stepTo
  exact ⟨closed.placed.step stepTo, stays, fun call made => kept call (closed.late call made)⟩

theorem Closed.answer (closed : Closed first shared) (keeps : keepsClosed shared action)
    {answer : Answer T} (answered : shared.answer action = some answer) :
    answer.Fails ∧ (first ≤ shared.caller action → answer.Refuses) := by
  have isClosed : (shared.focus (shared.caller action)).state.closed = true := closed.closed
  obtain ⟨fails, refuses⟩ := Channel.answer_closed isClosed keeps answered
  exact ⟨fails, fun made => refuses (closed.late _ made)⟩

end Closed

/-- Once `close` has been called the channel stays closed: nobody gets a sender, no send
succeeds, every receive reports `Closed`, and the calls that are made later report
exactly that. -/
def StaysClosed (T : Type*) (admits : Shared T → SharedAction T → Prop) : Prop :=
  ∀ (history later : List (Event T)) (closed final : Shared T),
    Run Shared.step admits (Shared.new T) history closed → .closed ∈ history →
    Run Shared.step admits closed later final →
    final.channel.state.closed = true ∧
      ∀ action answer, admits final action → final.answer action = some answer →
        answer.Fails ∧ (closed.callCount ≤ final.caller action → answer.Refuses)

section Runs

theorem closed_forever (T : Type*) : StaysClosed T keepsClosed := by
  intro history later mid final first isClosed second
  have recorded : Recorded history mid := by
    apply first.invariant Recorded
    · exact ⟨Shared.placed_new, fun member => by cases member⟩
    · intro past events before after action recorded keeps stepTo
      exact recorded.step keeps stepTo
  have started : Closed mid.callCount mid := by
    refine ⟨recorded.placed, recorded.closed isClosed, fun call made => ?_⟩
    rw [recorded.placed.fresh call made]
    rfl
  have closed : Closed mid.callCount final :=
    second.stateInvariant (Closed mid.callCount) started
      fun closed keeps stepTo => closed.step keeps stepTo
  exact ⟨closed.closed, fun action answer keeps answered => closed.answer keeps answered⟩

/-- `close` swaps while a call of `recv` waits and a send has begun. -/
def closeBeside : List (SharedAction Nat) :=
  [.begin .sender, .call 0 .run, .begin .recv, .call 1 .run, .use (.send 0 5 false),
    .begin .close, .call 2 .run]

/-- The send fails, the waiting call is woken, and the receiver is used again. -/
def usedLater : List (SharedAction Nat) :=
  [.use (.runSender 0), .use (.runSender 0), .use (.runSender 0), .use (.runSender 0),
    .call 2 .run, .call 1 .woken, .begin .recv, .begin .sender, .call 4 .run]

theorem closed_forever_closeBeside :
    StaysClosed Nat keepsClosed ∧
      ∃ (history later : List (Event Nat)) (closed final : Shared Nat),
        Run Shared.step keepsClosed (Shared.new Nat) history closed ∧ .closed ∈ history ∧
        Run Shared.step keepsClosed closed later final ∧ closed.callCount = 3 ∧
        [1, 3, 4].map (fun call => final.answer (.call call .run)) =
          [some (.recv (.error .closed)), some (.recv (.error .closed)),
            some (.sender (.error .closed))] := by
  refine ⟨closed_forever Nat, ?_⟩
  obtain ⟨history, closed, run, seen⟩ := exists_run_of_exec Shared.step keepsClosed
    (Shared.new Nat) closeBeside
    (fun reached => (decide (.closed ∈ reached.2), reached.1.callCount,
      (exec Shared.step keepsClosed reached.1 usedLater).map fun last =>
        [1, 3, 4].map fun call => last.1.answer (.call call .run)))
    (show _ = some (true, 3, some [some (.recv (.error .closed)),
      some (.recv (.error .closed)), some (.sender (.error .closed))]) by decide +kernel)
  simp only [Prod.mk.injEq, decide_eq_true_eq] at seen
  obtain ⟨isClosed, count, executed⟩ := seen
  obtain ⟨⟨final, later⟩, ran, answers⟩ := Option.map_eq_some_iff.mp executed
  exact ⟨history, later, closed, final, run, isClosed, run_of_exec ran, count, answers⟩

/-- `close` swaps while a call of `recv` that has found the message is before its
`store(HAS_RX)`, and a call of `sender` begins after the store. -/
def storedAfterClose : List (SharedAction Nat) :=
  [.begin .sender, .call 0 .run, .use (.send 0 5 false), .use (.runSender 0),
    .use (.runSender 0), .begin .recv, .call 1 .run, .call 1 .run, .begin .close, .call 2 .run]

theorem not_closed_forever_storedAfterClose : ¬ StaysClosed Nat anyStep := by
  intro stays
  obtain ⟨history, closed, run, seen⟩ := exists_run_of_exec Shared.step anyStep
    (Shared.new Nat) storedAfterClose
    (fun reached => (decide (.closed ∈ reached.2), reached.1.callCount,
      (exec Shared.step anyStep reached.1 [.call 1 .run, .begin .sender]).map fun last =>
        last.1.answer (.call 3 .run)))
    (show _ = some (true, 3, some (some (.sender (.ok 1)))) by decide +kernel)
  simp only [Prod.mk.injEq, decide_eq_true_eq] at seen
  obtain ⟨isClosed, -, executed⟩ := seen
  obtain ⟨⟨final, later⟩, ran, answered⟩ := Option.map_eq_some_iff.mp executed
  obtain ⟨-, answers⟩ := stays history later closed final run isClosed (run_of_exec ran)
  obtain ⟨error, refused⟩ := (answers (.call 3 .run) _ trivial answered).1
  cases refused

/-- An `ErasedRecvRef` that was received before `close` and is dropped after it opens the
channel again, with one call after the other. -/
example :
    (exec Shared.step anyStep (Shared.new Nat)
      [.intoErased, .begin .sender, .call 0 .run, .use (.send 0 5 false), .use (.runSender 0),
        .use (.runSender 0), .begin .recv, .call 1 .run, .begin .close, .call 2 .run,
        .call 2 .run, .use (.dropRef 0), .use (.runRef 0), .use (.runRef 0),
        .begin .sender]).map (fun reached => reached.1.answer (.call 3 .run)) =
      some (some (.sender (.ok 1))) := by
  decide +kernel

end Runs

end Oneshot

end Mgnp
