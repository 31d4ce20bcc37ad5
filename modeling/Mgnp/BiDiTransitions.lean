import Mgnp.BiDi
import Mgnp.ChannelAnswers

/-!
# The steps of a bidirectional channel

Every step of a `BiDi` is a step of one of its halves with the `wait` that awaits its answer, a
call that `wait` makes, or a move of `wait` alone.  So a run of a `BiDi` is a run of each of its
halves.
-/

namespace Mgnp

namespace Bidi

open LabelledRuns PositionWord
open ChannelCore (Channel TaskAt)

variable {Out In E : Type*} {width : PointerWidth}

section History

def txEvents (history : List (Report Out In E)) : List (ChannelCore.Event Out E) :=
  history.filterMap fun
    | .tx event => some event
    | _ => none

def rxEvents (history : List (Report Out In E)) : List (ChannelCore.Event In E) :=
  history.filterMap fun
    | .rx event => some event
    | _ => none

/-- What the calls of `wait` returned. -/
def results (history : List (Report Out In E)) : List (WaitResult In E) :=
  history.filterMap fun
    | .returned result => some result
    | _ => none

/-- The messages that `wait` returned. -/
def messages (history : List (Report Out In E)) : List (Option In) :=
  (results history).filterMap fun
    | .ok (.recv message) => some message
    | _ => none

/-- The errors of the send half that `wait` returned. -/
def sendErrors (history : List (Report Out In E)) : List E :=
  (results history).filterMap fun
    | .error (.send error) => some error
    | _ => none

/-- The errors of the receive half that `wait` returned. -/
def recvErrors (history : List (Report Out In E)) : List E :=
  (results history).filterMap fun
    | .error (.recv error) => some error
    | _ => none

variable {first second : List (Report Out In E)}

theorem txEvents_append : txEvents (first ++ second) = txEvents first ++ txEvents second :=
  List.filterMap_append

theorem rxEvents_append : rxEvents (first ++ second) = rxEvents first ++ rxEvents second :=
  List.filterMap_append

theorem results_append : results (first ++ second) = results first ++ results second :=
  List.filterMap_append

@[simp]
theorem messages_append : messages (first ++ second) = messages first ++ messages second := by
  simp [messages, results_append]

@[simp]
theorem sendErrors_append :
    sendErrors (first ++ second) = sendErrors first ++ sendErrors second := by
  simp [sendErrors, results_append]

@[simp]
theorem recvErrors_append :
    recvErrors (first ++ second) = recvErrors first ++ recvErrors second := by
  simp [recvErrors, results_append]

@[simp]
theorem txEvents_tx (events : List (ChannelCore.Event Out E)) :
    txEvents (events.map (.tx : _ → Report Out In E)) = events := by
  simp [txEvents, List.filterMap_map]

@[simp]
theorem txEvents_rx (events : List (ChannelCore.Event In E)) :
    txEvents (events.map (.rx : _ → Report Out In E)) = [] := by
  simp [txEvents]

@[simp]
theorem rxEvents_tx (events : List (ChannelCore.Event Out E)) :
    rxEvents (events.map (.tx : _ → Report Out In E)) = [] := by
  simp [rxEvents]

@[simp]
theorem rxEvents_rx (events : List (ChannelCore.Event In E)) :
    rxEvents (events.map (.rx : _ → Report Out In E)) = events := by
  simp [rxEvents, List.filterMap_map]

@[simp]
theorem results_tx (events : List (ChannelCore.Event Out E)) :
    results (events.map (.tx : _ → Report Out In E)) = [] := by
  simp [results]

@[simp]
theorem results_rx (events : List (ChannelCore.Event In E)) :
    results (events.map (.rx : _ → Report Out In E)) = [] := by
  simp [results]

@[simp]
theorem messages_tx (events : List (ChannelCore.Event Out E)) :
    messages (events.map (.tx : _ → Report Out In E)) = [] := by
  simp [messages]

@[simp]
theorem messages_rx (events : List (ChannelCore.Event In E)) :
    messages (events.map (.rx : _ → Report Out In E)) = [] := by
  simp [messages]

@[simp]
theorem sendErrors_tx (events : List (ChannelCore.Event Out E)) :
    sendErrors (events.map (.tx : _ → Report Out In E)) = [] := by
  simp [sendErrors]

@[simp]
theorem sendErrors_rx (events : List (ChannelCore.Event In E)) :
    sendErrors (events.map (.rx : _ → Report Out In E)) = [] := by
  simp [sendErrors]

@[simp]
theorem recvErrors_tx (events : List (ChannelCore.Event Out E)) :
    recvErrors (events.map (.tx : _ → Report Out In E)) = [] := by
  simp [recvErrors]

@[simp]
theorem recvErrors_rx (events : List (ChannelCore.Event In E)) :
    recvErrors (events.map (.rx : _ → Report Out In E)) = [] := by
  simp [recvErrors]

end History

/-- The `wait` is in `try_dequeue`. -/
def WaitPc.dequeues : WaitPc → Bool
  | .receiving _ .dequeuing | .fallenToRecv .dequeuing => true
  | _ => false

/-- The call of `reserve` that the `wait` has made. -/
def WaitPc.call : WaitPc → Option Nat
  | .reserving call | .receiving call _ | .fallenToReserve call => some call
  | _ => none

/-- The call of `reserve` that the `wait` is polling. -/
def WaitPc.polls : WaitPc → Option Nat
  | .reserving call | .fallenToReserve call => some call
  | _ => none

/-- Where `wait` calls `reserve`. -/
inductive Reserves (call : Nat) : WaitPc → WaitPc → Prop
  | wait : Reserves call .idle (.reserving call)
  | fall : Reserves call .fallingToReserve (.fallenToReserve call)

/-- Where `wait` calls `try_dequeue`. -/
inductive Dequeues : WaitPc → WaitPc → Prop
  | select {call : Nat} : Dequeues (.receiving call .polling) (.receiving call .dequeuing)
  | fallen : Dequeues (.fallenToRecv .polling) (.fallenToRecv .dequeuing)

/-- The moves of `wait` outside of the channels. -/
inductive WaitMove (bidi : BiDi Out In E) : WaitPc → WaitPc → Prop
  | park {call : Nat} (pending : bidi.reservePending call = true) :
      WaitMove bidi (.reserving call) (.receiving call .polling)
  | polled {call : Nat} {pc : RecvPc} : WaitMove bidi (.receiving call .empty) (.receiving call pc)
  | again {call : Nat} : WaitMove bidi (.receiving call .pending) (.reserving call)
  | fallen {pc pc' : RecvPc} (quiet : pc ≠ .dequeuing) :
      WaitMove bidi (.fallenToRecv pc) (.fallenToRecv pc')
  | drop {wait : WaitPc} (quiet : wait.dequeues = false) : WaitMove bidi wait .idle

section Calls

variable {call : Nat} {wait wait' : WaitPc}

theorem WaitPc.call_of_polls (polls : wait.polls = some call) : wait.call = some call := by
  cases wait <;> cases polls <;> rfl

theorem WaitPc.quiet_of_polls (polls : wait.polls = some call) : wait.dequeues = false := by
  cases wait <;> cases polls <;> rfl

theorem WaitPc.parked_of_unpolled (made : wait.call = some call) (unpolled : wait.polls = none) :
    wait.parked = some call := by
  cases wait <;> cases made <;> first | rfl | cases unpolled

theorem Reserves.call_eq (reserves : Reserves call wait wait') : wait'.call = some call := by
  cases reserves <;> rfl

theorem Reserves.quiet (reserves : Reserves call wait wait') : wait.dequeues = false := by
  cases reserves <;> rfl

theorem Dequeues.call_eq (dequeues : Dequeues wait wait') : wait'.call = wait.call := by
  cases dequeues <;> rfl

theorem Dequeues.dequeues (dequeues : Dequeues wait wait') : wait'.dequeues = true := by
  cases dequeues <;> rfl

theorem WaitMove.call_eq {bidi : BiDi Out In E} (move : WaitMove bidi wait wait')
    (made : wait'.call = some call) : wait.call = some call := by
  cases move <;> first | exact made | cases made

theorem WaitMove.quiet {bidi : BiDi Out In E} (move : WaitMove bidi wait wait') :
    wait.dequeues = false := by
  cases move with
  | park | polled | again => rfl
  | @fallen pc pc' quiet => cases pc <;> first | rfl | exact absurd rfl quiet
  | drop quiet => exact quiet

end Calls

/-- What the events of the send half do to the `wait` that polls a call of `reserve`. -/
inductive TxAnswered (bidi : BiDi Out In E) (events : List (ChannelCore.Event Out E)) :
    BiDi Out In E → List (Report Out In E) → Prop
  | none (unanswered : ∀ call, bidi.wait.polls = some call →
        (∀ idx, .reserved call idx ∉ events) ∧ ∀ reason, .sendClosed call reason ∉ events) :
      TxAnswered bidi events bidi []
  | ready {call idx} (polls : bidi.wait.polls = some call) (got : .reserved call idx ∈ events) :
      TxAnswered bidi events { bidi with wait := .idle } [.returned (.ok (.sendReady call))]
  | error {call error} (polls : bidi.wait.polls = some call)
      (refused : .sendClosed call (some error) ∈ events)
      (unseen : bidi.wait = .reserving call → bidi.seenTxError = false) :
      TxAnswered bidi events { bidi with seenTxError := true, wait := .idle }
        [.returned (.error (.send error))]
  | fall {call reason} (at_wait : bidi.wait = .reserving call)
      (refused : .sendClosed call reason ∈ events)
      (seen : reason.isSome = true → bidi.seenTxError = true) :
      TxAnswered bidi events { bidi with wait := .fallenToRecv .polling } []
  | disconnected {call} (at_wait : bidi.wait = .fallenToReserve call)
      (refused : .sendClosed call none ∈ events) :
      TxAnswered bidi events { bidi with wait := .idle } [.returned (.error .disconnected)]

/-- The same for the events of the receive half and the `wait` in `try_dequeue`. -/
inductive RxAnswered (bidi : BiDi Out In E) (events : List (ChannelCore.Event In E)) :
    BiDi Out In E → List (Report Out In E) → Prop
  | none (unanswered : bidi.wait.dequeues = true → ∀ event ∈ events, dequeueAnswer event = none) :
      RxAnswered bidi events bidi []
  | empty {wait} (dequeues : bidi.wait.dequeues = true) (answered : .empty ∈ events)
      (moves : (∃ call, bidi.wait = .receiving call .dequeuing ∧ wait = .receiving call .empty) ∨
        bidi.wait = .fallenToRecv .dequeuing ∧ wait = .fallenToRecv .empty) :
      RxAnswered bidi events { bidi with wait := wait } []
  | message {idx message dropped} (dequeues : bidi.wait.dequeues = true)
      (answered : .received idx message ∈ events) :
      RxAnswered bidi events { bidi with wait := .idle, dropped := dropped }
        [.returned (.ok (.recv message))]
  | error {error dropped} (dequeues : bidi.wait.dequeues = true)
      (answered : .recvClosed (some error) ∈ events)
      (unseen : bidi.wait ≠ .fallenToRecv .dequeuing → bidi.seenRxError = false) :
      RxAnswered bidi events
        { bidi with seenRxError := true, wait := .idle, dropped := dropped }
        [.returned (.error (.recv error))]
  | fall {call reason dropped} (at_wait : bidi.wait = .receiving call .dequeuing)
      (answered : .recvClosed reason ∈ events)
      (seen : reason.isSome = true → bidi.seenRxError = true) :
      RxAnswered bidi events { bidi with wait := .fallingToReserve, dropped := dropped } []
  | disconnected (at_wait : bidi.wait = .fallenToRecv .dequeuing)
      (answered : .recvClosed none ∈ events) :
      RxAnswered bidi events { bidi with wait := .idle } [.returned (.error .disconnected)]

namespace BiDi

/-- The effect of one step. -/
inductive Move (width : PointerWidth) (bidi : BiDi Out In E) :
    Action Out In E → BiDi Out In E → List (Report Out In E) → Prop
  | reserve {action tx wait}
      (called : ChannelCore.step width bidi.tx (.reserve bidi.sender true) = some (tx, []))
      (reserves : Reserves bidi.tx.tasks.length bidi.wait wait) :
      Move width bidi action { bidi with tx := tx, wait := wait } []
  | tryDequeue {action rx wait}
      (called : ChannelCore.step width bidi.rx .tryRecv = some (rx, []))
      (dequeues : Dequeues bidi.wait wait) :
      Move width bidi action { bidi with rx := rx, wait := wait } []
  | alone {action wait dropped} (move : WaitMove bidi bidi.wait wait) :
      Move width bidi action { bidi with wait := wait, dropped := dropped } []
  | tx {action tx events next reports} (allowed : bidi.allowsTx action = true)
      (stepTo : ChannelCore.step width bidi.tx action = some (tx, events))
      (answered : TxAnswered { bidi with tx := tx } events next reports) :
      Move width bidi (.tx action) next (events.map .tx ++ reports)
  | rx {action rx events next reports} (allowed : bidi.allowsRx action = true)
      (stepTo : ChannelCore.step width bidi.rx action = some (rx, events))
      (answered : RxAnswered { bidi with rx := rx } events next reports) :
      Move width bidi (.rx action) next (events.map .rx ++ reports)

variable {bidi next : BiDi Out In E} {action : Action Out In E} {reports : List (Report Out In E)}

section Answers

variable (bidi : BiDi Out In E)

theorem reserveAnswer_cases {call : Nat} {events : List (ChannelCore.Event Out E)}
    {answer : Except (SendError E) Nat}
    (found : events.findSome? (reserveAnswer call) = some answer) :
    (∃ idx, .reserved call idx ∈ events ∧ answer = .ok call) ∨
      ∃ reason, .sendClosed call reason ∈ events ∧ answer = .error (.ofReason reason) := by
  obtain ⟨event, member, answered⟩ := List.exists_of_findSome?_eq_some found
  cases event with
  | reserved task idx =>
      obtain ⟨rfl, ends⟩ := Option.ite_none_right_eq_some.mp answered
      exact .inl ⟨idx, member, (Option.some.inj ends).symm⟩
  | sendClosed task reason =>
      obtain ⟨rfl, ends⟩ := Option.ite_none_right_eq_some.mp answered
      exact .inr ⟨reason, member, (Option.some.inj ends).symm⟩
  | _ => cases answered

/-- A `wait` whose call is not answered goes on polling it. -/
theorem TxAnswered.of_unanswered {call : Nat} {events : List (ChannelCore.Event Out E)}
    (polls : bidi.wait.polls = some call)
    (none : events.findSome? (reserveAnswer call) = none) : TxAnswered bidi events bidi [] := by
  rw [List.findSome?_eq_none_iff] at none
  refine .none fun other polled => ?_
  cases polls.symm.trans polled
  exact ⟨fun idx member => by simpa [reserveAnswer] using none _ member,
    fun reason member => by simpa [reserveAnswer] using none _ member⟩

theorem reserveArm_answered {call : Nat} {events : List (ChannelCore.Event Out E)}
    {answer : Except (SendError E) Nat} (at_wait : bidi.wait = .reserving call)
    (found : events.findSome? (reserveAnswer call) = some answer) :
    TxAnswered bidi events (bidi.reserveArm answer).1 (bidi.reserveArm answer).2 := by
  have polls : bidi.wait.polls = some call := by rw [at_wait]; rfl
  rcases reserveAnswer_cases found with ⟨idx, member, rfl⟩ | ⟨reason, member, rfl⟩
  · exact .ready polls member
  · cases reason with
    | none => exact .fall at_wait member (by simp)
    | some error =>
        simp only [SendError.ofReason, reserveArm]
        split
        · rename_i seen
          exact .fall at_wait member fun _ => seen
        · rename_i unseen
          exact .error polls member fun _ => by simpa using unseen

theorem reserveFallen_answered {call : Nat} {events : List (ChannelCore.Event Out E)}
    {answer : Except (SendError E) Nat} (at_wait : bidi.wait = .fallenToReserve call)
    (found : events.findSome? (reserveAnswer call) = some answer) :
    TxAnswered bidi events (bidi.reserveFallen answer).1 (bidi.reserveFallen answer).2 := by
  have polls : bidi.wait.polls = some call := by rw [at_wait]; rfl
  rcases reserveAnswer_cases found with ⟨idx, member, rfl⟩ | ⟨reason, member, rfl⟩
  · exact .ready polls member
  · cases reason with
    | none => exact .disconnected at_wait member
    | some error => exact .error polls member fun other => by cases at_wait.symm.trans other

theorem observeTx_answered (events : List (ChannelCore.Event Out E)) :
    TxAnswered bidi events (bidi.observeTx events).1 (bidi.observeTx events).2 := by
  unfold observeTx
  split
  · rename_i call at_wait
    split
    · rename_i answer found
      exact bidi.reserveArm_answered at_wait found
    · rename_i unanswered
      exact TxAnswered.of_unanswered bidi (by rw [at_wait]; rfl) unanswered
  · rename_i call at_wait
    split
    · rename_i answer found
      exact bidi.reserveFallen_answered at_wait found
    · rename_i unanswered
      exact TxAnswered.of_unanswered bidi (by rw [at_wait]; rfl) unanswered
  · rename_i notReserving notFallen
    refine .none fun call polls => ?_
    cases at_wait : bidi.wait <;> simp_all [WaitPc.polls]

theorem dequeueAnswer_ready {events : List (ChannelCore.Event In E)}
    {result : Except (RecvError E) (Option In)}
    (found : events.findSome? dequeueAnswer = some (.ready result)) :
    (∃ idx message, .received idx message ∈ events ∧ result = .ok message) ∨
      ∃ reason, .recvClosed reason ∈ events ∧ result = .error (.ofReason reason) := by
  obtain ⟨event, member, answered⟩ := List.exists_of_findSome?_eq_some found
  cases event with
  | received idx message =>
      cases answered
      exact .inl ⟨idx, message, member, rfl⟩
  | recvClosed reason =>
      cases answered
      exact .inr ⟨reason, member, rfl⟩
  | _ => cases answered

theorem dequeueAnswer_empty {events : List (ChannelCore.Event In E)}
    (found : events.findSome? dequeueAnswer = some .empty) : .empty ∈ events := by
  obtain ⟨event, member, answered⟩ := List.exists_of_findSome?_eq_some found
  cases event with
  | empty => exact member
  | _ => cases answered

theorem recvArm_answered {call : Nat} {events : List (ChannelCore.Event In E)}
    {result : Except (RecvError E) (Option In)} (at_wait : bidi.wait = .receiving call .dequeuing)
    (found : events.findSome? dequeueAnswer = some (.ready result)) (dropped : List Nat) :
    RxAnswered bidi events ({ bidi with dropped := dropped }.recvArm result).1
      ({ bidi with dropped := dropped }.recvArm result).2 := by
  have dequeues : bidi.wait.dequeues = true := by rw [at_wait]; rfl
  rcases dequeueAnswer_ready found with ⟨idx, message, member, rfl⟩ | ⟨reason, member, rfl⟩
  · exact .message dequeues member
  · cases reason with
    | none => exact .fall at_wait member (by simp)
    | some error =>
        simp only [RecvError.ofReason, recvArm]
        split
        · rename_i seen
          exact .fall at_wait member fun _ => seen
        · rename_i unseen
          exact .error dequeues member fun _ => by simpa using unseen

theorem recvFallen_answered {events : List (ChannelCore.Event In E)}
    {result : Except (RecvError E) (Option In)} (at_wait : bidi.wait = .fallenToRecv .dequeuing)
    (found : events.findSome? dequeueAnswer = some (.ready result)) :
    RxAnswered bidi events (bidi.recvFallen result).1 (bidi.recvFallen result).2 := by
  have dequeues : bidi.wait.dequeues = true := by rw [at_wait]; rfl
  rcases dequeueAnswer_ready found with ⟨idx, message, member, rfl⟩ | ⟨reason, member, rfl⟩
  · exact .message dequeues member
  · cases reason with
    | none => exact .disconnected at_wait member
    | some error => exact .error dequeues member fun other => absurd at_wait other

theorem observeRx_answered (events : List (ChannelCore.Event In E)) :
    RxAnswered bidi events (bidi.observeRx events).1 (bidi.observeRx events).2 := by
  unfold observeRx
  split
  · rename_i call at_wait
    split
    · rename_i result found
      exact bidi.recvArm_answered at_wait found (call :: bidi.dropped)
    · rename_i found
      exact .empty (by rw [at_wait]; rfl) (dequeueAnswer_empty found)
        (.inl ⟨call, at_wait, rfl⟩)
    · rename_i unanswered
      exact .none fun _ => List.findSome?_eq_none_iff.mp unanswered
  · rename_i at_wait
    split
    · rename_i result found
      exact bidi.recvFallen_answered at_wait found
    · rename_i found
      exact .empty (by rw [at_wait]; rfl) (dequeueAnswer_empty found) (.inr ⟨at_wait, rfl⟩)
    · rename_i unanswered
      exact .none fun _ => List.findSome?_eq_none_iff.mp unanswered
  · rename_i notReceiving notFallen
    refine .none fun dequeues => ?_
    cases at_wait : bidi.wait with
    | receiving call pc => cases pc <;> simp_all [WaitPc.dequeues]
    | fallenToRecv pc => cases pc <;> simp_all [WaitPc.dequeues]
    | _ => simp_all [WaitPc.dequeues]

end Answers

theorem reserve_move {pc : Nat → WaitPc} (made : bidi.reserve width pc = some next)
    (reserves : Reserves bidi.tx.tasks.length bidi.wait (pc bidi.tx.tasks.length)) :
    Move width bidi action next [] := by
  obtain ⟨⟨tx, events⟩, called, rfl⟩ := Option.map_eq_some_iff.mp made
  obtain ⟨-, rfl⟩ := ChannelCore.reserve_spawns called
  exact .reserve called reserves

theorem tryDequeue_move {pc : WaitPc} (made : bidi.tryDequeue width pc = some next)
    (dequeues : Dequeues bidi.wait pc) : Move width bidi action next [] := by
  obtain ⟨⟨rx, events⟩, called, rfl⟩ := Option.map_eq_some_iff.mp made
  obtain ⟨-, rfl⟩ := ChannelCore.tryRecv_eq called
  exact .tryDequeue called dequeues

theorem runWait_move {ready : Bool} (ran : bidi.runWait width ready = some next) :
    Move width bidi action next [] := by
  unfold runWait at ran
  split at ran <;> rename_i at_wait
  · split at ran <;> cases ran
    rename_i pending
    exact .alone (at_wait ▸ .park pending)
  · exact tryDequeue_move ran (at_wait ▸ .select)
  · cases ran
    exact .alone (at_wait ▸ .polled)
  · cases ran
    exact .alone (at_wait ▸ .again)
  · exact tryDequeue_move ran (at_wait ▸ .fallen)
  · cases ran
    exact .alone (at_wait ▸ .fallen (by simp))
  · cases ran
    exact .alone (at_wait ▸ .fallen (by simp))
  · exact reserve_move ran (at_wait ▸ .fall)
  all_goals cases ran

theorem dropWait_move (left : bidi.dropWait = some next) : Move width bidi action next [] := by
  unfold dropWait at left
  split at left <;> rename_i at_wait
  · cases left
    exact .alone (at_wait ▸ .drop rfl)
  · cases left
    exact .alone (at_wait ▸ .drop rfl)
  · split at left <;> cases left
    exact .alone (at_wait ▸ .drop rfl)
  · cases left

/-- Every step is one of the moves. -/
theorem step_move (stepTo : bidi.step width action = some (next, reports)) :
    Move width bidi action next reports := by
  cases action with
  | wait =>
      simp only [step] at stepTo
      split at stepTo
      · rename_i at_wait
        obtain ⟨after, made, ends⟩ := Option.map_eq_some_iff.mp stepTo
        cases ends
        exact reserve_move made (at_wait ▸ .wait)
      · cases stepTo
  | runWait ready =>
      obtain ⟨after, ran, ends⟩ := Option.map_eq_some_iff.mp stepTo
      cases ends
      exact runWait_move ran
  | dropWait =>
      obtain ⟨after, left, ends⟩ := Option.map_eq_some_iff.mp stepTo
      cases ends
      exact dropWait_move left
  | tx action =>
      obtain ⟨allowed, made⟩ := Option.ite_none_right_eq_some.mp stepTo
      obtain ⟨⟨tx, events⟩, ran, ends⟩ := Option.map_eq_some_iff.mp made
      cases ends
      exact .tx allowed ran (observeTx_answered _ events)
  | rx action =>
      obtain ⟨allowed, made⟩ := Option.ite_none_right_eq_some.mp stepTo
      obtain ⟨⟨rx, events⟩, ran, ends⟩ := Option.map_eq_some_iff.mp made
      cases ends
      exact .rx allowed ran (observeRx_answered _ events)

end BiDi

end Bidi

end Mgnp
