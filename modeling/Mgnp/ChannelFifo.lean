import Mgnp.ChannelOwnership

/-!
# Messages leave in the order in which they were committed

Read through the ledger, the answers of `try_dequeue` are those of a queue, as
long as the receiver does not reach the last position that fits in a word.
There the stored sequence number wraps to zero while the expected one,
computed after the shift, does not: the message stays in its slot and
`try_dequeue` answers `Empty`.
-/

namespace Mgnp

namespace ChannelCore

open LabelledRuns PositionWord

variable {T E : Type*} {width : PointerWidth} {capacity : Nat}

/-- The messages in the order of their compare-exchanges on `enqueue_pos`, each
with the task that committed it and the index of its cell. -/
def committed (history : List (Event T E)) : List (Nat × Nat × Option T) :=
  history.filterMap fun
    | .committed i idx message => some (i, idx, message)
    | _ => none

/-- The indices and messages that `try_dequeue` returned. -/
def received (history : List (Event T E)) : List (Nat × Option T) :=
  history.filterMap fun
    | .received idx message => some (idx, message)
    | _ => none

theorem issues_ledgerOps (history : List (Event T E)) :
    TicketQueue.issues (ledgerOps history) = committed history := by
  rw [TicketQueue.issues, ledgerOps, List.filterMap_filterMap, committed]
  refine List.filterMap_congr fun event _ => ?_
  cases event <;> rfl

theorem takes_ledgerOps (history : List (Event T E)) :
    TicketQueue.takes (ledgerOps history) = received history := by
  rw [TicketQueue.takes, ledgerOps, List.filterMap_filterMap, received]
  refine List.filterMap_congr fun event _ => ?_
  cases event <;> rfl

theorem mem_publish_ledgerOps {history : List (Event T E)} {i : Nat} :
    .publish i ∈ ledgerOps history ↔ .stored i ∈ history := by
  rw [ledgerOps, List.mem_filterMap]
  constructor
  · rintro ⟨event, member, published⟩
    cases event <;> cases published
    exact member
  · exact fun member => ⟨_, member, rfl⟩

/-- The receiver is about to load the slot of the last position, and the
message of that position has been stored. -/
def StoredAtLastPosition (width : PointerWidth) (channel : Channel T E) : Prop :=
  match channel.rx with
  | .examining head =>
      (head >>> posShift width).toNat + 1 = positions width ∧
        channel.core.queue (slotOf width (head >>> posShift width)) >>>
          posShift width = 0
  | _ => False

instance (width : PointerWidth) (channel : Channel T E) :
    Decidable (StoredAtLastPosition width channel) := by
  unfold StoredAtLastPosition
  exact match channel.rx with
    | .examining _ => inferInstanceAs (Decidable (_ ∧ _))
    | .idle | .loading | .claiming _ _ | .releasing _ _ | .closing | .dropped => isFalse id

/-- The receiver does not examine the last position while it is stored. -/
def beforeWrap (width : PointerWidth) (channel : Channel T E) : Action T E → Prop
  | .runRx => ¬ StoredAtLastPosition width channel
  | _ => True

instance (width : PointerWidth) (channel : Channel T E) (action : Action T E) :
    Decidable (beforeWrap width channel action) :=
  match action with
  | .runRx => inferInstanceAs (Decidable (¬ _))
  | .reserve _ _ | .closeWithError _ _ | .cloneTx _ _ | .dropTx _ | .dropRx | .tryRecv | .run _
  | .allocate _ _ | .spurious _ | .woken _ | .write _ _ | .commit _ | .release _
  | .spuriousRx => isTrue trivial

/-- The answers of `try_dequeue` are those of a queue: what has been received
is a prefix of what has been committed, and `Empty` means that the next message
has not been committed or not been stored. -/
def AnswersInOrder (history : List (Event T E)) : Prop :=
  received history <+: (committed history).map Prod.snd ∧
    ∀ past later, history = past ++ .empty :: later →
      ∀ i item, (committed past)[(received past).length]? = some (i, item) →
        .stored i ∉ past

section Receiver

variable {channel next : Channel T E} {events : List (Event T E)}

theorem runTask_rx {i : Nat} {task : Task E}
    (ran : runTask width channel i task = some (next, events)) :
    next.rx = channel.rx := by
  obtain ⟨handle, pc⟩ := task
  cases pc <;> simp only [runTask] at ran
  all_goals
    repeat' split at ran
    all_goals cases ran <;> rfl

/-- Only the receiver's own step moves it on from a slot load. -/
theorem runRx_of_examining {action : Action T E} {head : UInt16}
    (at_rx : channel.rx = .examining head)
    (stepTo : step width channel action = some (next, events))
    (moves : next.rx ≠ channel.rx) : action = .runRx := by
  cases action
  case runRx => rfl
  case run i =>
    simp only [step] at stepTo
    split at stepTo
    · exact absurd (runTask_rx stepTo) moves
    · cases stepTo
  case dropRx | tryRecv | spuriousRx =>
    simp only [step, at_rx] at stepTo
    cases stepTo
  all_goals
    simp only [step] at stepTo
    repeat' split at stepTo
    all_goals cases stepTo <;> exact absurd rfl moves

end Receiver

section Answers

variable {channel next : Channel T E} {history events : List (Event T E)}
  {ledger : Ledger T}

/-- A published front ticket that is not ready sits at the last position. -/
theorem RingInv.storedAtLastPosition (inv : RingInv width ledger channel)
    {head : UInt16} (at_rx : channel.rx = .examining head) {i : Nat}
    {item : Nat × Option T}
    (front : ledger.issued[ledger.taken]? = some (i, item))
    (published : i ∈ ledger.published) (notReady : ¬ FrontReady width ledger) :
    StoredAtLastPosition width channel := by
  obtain ⟨idx, message⟩ := item
  have held := inv.tickets (Nat.le_refl _) front
  have at_slot : channel.core.queue (ledger.taken % maxCapacity width) =
      word width (ledger.taken + 1) idx := held.stored published
  have last : ledger.taken + 1 = positions width := by
    by_contra ne
    exact notReady ⟨lt_of_le_of_ne inv.taken_lt ne, (idx, message), i, front, published⟩
  obtain ⟨flag, headEq⟩ := inv.receiver at_rx
  rw [StoredAtLastPosition, at_rx]
  constructor
  · rw [headEq, word_shift_toNat (flag_lt width flag), Nat.mod_eq_of_lt inv.taken_lt,
      last]
  · rw [headEq, slotOf_word (flag_lt width flag), at_slot, ← UInt16.toNat_inj,
      word_shift_toNat held.index_lt, last, Nat.mod_self, UInt16.toNat_zero]

/-- When the slot load of `try_dequeue` finds nothing, the next message has not
been committed or not been stored. -/
theorem Represents.nothing_stored
    (represents : Represents width capacity history channel) {head : UInt16}
    (at_rx : channel.rx = .examining head)
    (behind : channel.core.dequeueOrder width head = .lt)
    (admitted : ¬ StoredAtLastPosition width channel) {i : Nat}
    {item : Nat × Option T}
    (front : (committed history)[(received history).length]? = some (i, item)) :
    .stored i ∉ history := by
  obtain ⟨ledger, replays, inv, _⟩ := represents
  rw [← issues_ledgerOps, ← replays.issued_eq, ← takes_ledgerOps,
    ← replays.taken_eq] at front
  rw [← mem_publish_ledgerOps, ← replays.mem_published]
  intro published
  rcases inv.dequeueOrder at_rx with ⟨ready, _⟩ | ⟨_, notReady⟩
  · cases ready.symm.trans behind
  · exact admitted (inv.storedAtLastPosition at_rx front published notReady)

/-- What has been received is a prefix of what has been committed. -/
theorem Represents.received_in_order
    (represents : Represents width capacity history channel) :
    received history <+: (committed history).map Prod.snd := by
  obtain ⟨ledger, replays, _, _⟩ := represents
  rw [← takes_ledgerOps, ← issues_ledgerOps]
  exact replays.takes_in_order

theorem Transition.empty (transition : Transition width channel events next)
    (answered : .empty ∈ events) :
    events = [.empty] ∧ ∃ head, channel.rx = .examining head ∧
      channel.core.dequeueOrder width head = .lt ∧ next = { channel with rx := .idle } := by
  cases transition with
  | rxLocal at_rx move =>
      cases move with
      | sawEmpty behind => exact ⟨rfl, _, at_rx, behind, rfl⟩
      | call | loadHead | sawClosed | claim | reloadHead | claimFailed
      | answerClosed => simp at answered
  | taskLocal _ move =>
      cases move with
      | @closeConsWait byError => cases byError <;> simp at answered
      | _ => simp at answered
  | taskState _ move => cases move <;> simp at answered
  | call | cloneTx | dropTx | dropRx | allocate | free | write | commitWon | store
  | closeRx | closeTx | dequeueWon | release => simp at answered

/-- In every run in which the receiver does not examine the last position while
it is stored, messages are received in commit order, each once, and
`try_dequeue` answers `Empty` only when the next message is not there. -/
theorem received_in_commit_order {final : Channel T E}
    (capacityLe : capacity ≤ maxCapacity width)
    (run : Run (step width) (beforeWrap width) (Channel.new width capacity)
      history final) : AnswersInOrder history := by
  refine ⟨(represents_run capacityLe run).received_in_order, ?_⟩
  intro past later occurs i item front
  obtain ⟨pre, first, rest, last, before, action, after, rfl, rfl, runBefore, admitted,
    stepTo, _⟩ := run.split_event occurs
  obtain ⟨eventsEq, head, at_rx, behind, nextEq⟩ :=
    (step_transition stepTo).empty (by simp)
  have moves : after.rx ≠ before.rx := by simp [nextEq, at_rx]
  obtain rfl : first = [] := by
    cases first with
    | nil => rfl
    | cons event first => simp at eventsEq
  obtain rfl := runRx_of_examining at_rx stepTo moves
  rw [List.append_nil] at front ⊢
  exact (represents_run capacityLe runBefore).nothing_stored at_rx behind admitted front

end Answers

section Rounds

variable {n : Nat} {channel : Channel T E}

/-- A channel of capacity one between two messages: `n` of them have been sent
and received, and nothing is in progress. -/
structure Quiet (width : PointerWidth) (n : Nat) (channel : Channel T E) : Prop where
  rx : channel.rx = .idle
  handles : channel.handles = [0]
  indices : channel.core.indices = [0]
  enqueuePos : channel.core.enqueuePos = word width n 0
  dequeuePos : channel.core.dequeuePos = word width n 0
  vacant : ∀ pos, n ≤ pos → pos < n + maxCapacity width →
    channel.core.queue (pos % maxCapacity width) = word width pos 0

/-- Reserve, commit and wake. -/
def sendActions (k : Nat) : List (Action T E) :=
  [.reserve 0 false, .run k, .allocate k 0, .commit k, .run k, .run k, .run k, .run k,
    .run k]

def Channel.sent (width : PointerWidth) (n : Nat) (channel : Channel T E) :
    Channel T E :=
  { channel with
    core := { channel.core with
      enqueuePos := word width (n + 1) 0
      indices := []
      queue := Function.update channel.core.queue (n % maxCapacity width)
        (word width (n + 1) 0) }
    tasks := channel.tasks ++ [⟨some 0, .finished⟩] }

theorem commitOrder_vacant {core : Core E}
    (vacant : core.queue (n % maxCapacity width) = word width n 0) :
    core.commitOrder width (word width n 0) = .eq := by
  simp only [Core.commitOrder, slotOf_word (maxCapacity_pos width), vacant, signedDif,
    Int16.sub_self]
  rfl

theorem not_closed_word : ¬ word width n 0 &&& closed = closed := by
  rw [word_and_closed (maxCapacity_pos width)]
  decide

/-- The word that `commit_send` stores for index 0 at a position with word 0. -/
theorem next_word : (word width n 0 >>> posShift width + 1) <<< posShift width =
    word width (n + 1) 0 := by
  have packed : UInt16.ofNat 0 ||| (word width n 0 >>> posShift width + 1) <<<
      posShift width = word width (n + 1) 0 :=
    or_shift_add_one (maxCapacity_pos width) (maxCapacity_pos width)
  simpa using packed

theorem Quiet.vacant_self (quiet : Quiet width n channel) :
    channel.core.queue (n % maxCapacity width) = word width n 0 :=
  quiet.vacant n (Nat.le_refl n) (Nat.lt_add_of_pos_right (maxCapacity_pos width))

theorem exec_send (quiet : Quiet width n channel) :
    exec (step width) anyStep channel (sendActions channel.tasks.length) =
      some (channel.sent width n,
        [.reserved channel.tasks.length 0,
          .committed channel.tasks.length 0 (channel.elements 0),
          .stored channel.tasks.length, .wakeCons, .sendOk channel.tasks.length]) := by
  simp [exec, sendActions, anyStep, step, runTask, Channel.spawn, Channel.goto,
    quiet.handles, quiet.indices, quiet.enqueuePos, not_closed_word,
    commitOrder_vacant, quiet.vacant_self, slotOf_word (maxCapacity_pos width), next_word,
    word_add_posOne (maxCapacity_pos width), Channel.sent]

/-- Receive and drop the reservation. -/
def receiveActions (k : Nat) : List (Action T E) :=
  [.tryRecv, .runRx, .runRx, .runRx, .runRx, .release k, .run k, .run k]

def Channel.receivedAt (width : PointerWidth) (n : Nat) (channel : Channel T E) :
    Channel T E :=
  { channel with
    core := { channel.core with
      dequeuePos := word width (n + 1) 0
      indices := [0]
      queue := Function.update channel.core.queue (n % maxCapacity width)
        (word width (n + maxCapacity width) 0) }
    tasks := channel.tasks ++ [⟨none, .finished⟩] }

theorem dequeueOrder_stored {core : Core E} (nLt : n < positions width)
    (stored : core.queue (n % maxCapacity width) = word width (n + 1) 0) :
    core.dequeueOrder width (word width n 0) =
      compare ((n + 1) % positions width) (n + 1) := by
  have headEq : word width n 0 = word width n false.toNat := rfl
  exact dequeueOrder_word headEq nLt (maxCapacity_pos width) stored

theorem exec_receive (quiet : Quiet width n channel) (inside : n + 1 < positions width) :
    exec (step width) anyStep (channel.sent width n)
        (receiveActions (channel.tasks.length + 1)) =
      some ((channel.sent width n).receivedAt width n,
        [.received 0 (channel.elements 0), .wakeProd]) := by
  have nLt : n < positions width := Nat.lt_of_succ_lt inside
  have order {core : Core E}
      (stored : core.queue (n % maxCapacity width) = word width (n + 1) 0) :
      core.dequeueOrder width (word width n 0) = .eq := by
    rw [dequeueOrder_stored nLt stored, Nat.mod_eq_of_lt inside, compare_eq_iff_eq]
  have index : (word width (n + 1) 0 &&& mask width).toNat = 0 :=
    word_and_mask_toNat (maxCapacity_pos width)
  simp [exec, receiveActions, anyStep, step, runRx, runTask, Channel.spawn, Channel.goto,
    Channel.sent, Channel.receivedAt, quiet.rx, quiet.dequeuePos, order,
    slotOf_word (maxCapacity_pos width), index, word_add_posOne (maxCapacity_pos width),
    word_add_lapOne (maxCapacity_pos width)]

theorem exec_receive_last (quiet : Quiet width n channel)
    (last : n + 1 = positions width) :
    ∃ final, exec (step width) anyStep (channel.sent width n)
        [.tryRecv, .runRx, .runRx] = some (final, [.empty]) := by
  have nLt : n < positions width := by omega
  have order {core : Core E}
      (stored : core.queue (n % maxCapacity width) = word width (n + 1) 0) :
      core.dequeueOrder width (word width n 0) = .lt := by
    rw [dequeueOrder_stored nLt stored, last, Nat.mod_self, compare_lt_iff_lt]
    exact positions_pos width
  have isOpen : word width n 0 &&& closed = 0 := by
    by_contra isClosed
    exact not_closed_word ((hasClosed_iff_ne_zero _).mpr isClosed)
  simp [exec, anyStep, step, runRx, Channel.sent, quiet.rx, quiet.dequeuePos, order,
    isOpen]

theorem Quiet.round (quiet : Quiet width n channel) :
    Quiet width (n + 1) ((channel.sent width n).receivedAt width n) where
  rx := quiet.rx
  handles := quiet.handles
  indices := rfl
  enqueuePos := rfl
  dequeuePos := rfl
  vacant pos after inLap := by
    rcases Nat.lt_or_ge pos (n + maxCapacity width) with old | new
    · have ne : pos % maxCapacity width ≠ n % maxCapacity width :=
        slot_ne (by omega) old (by omega)
      simp [Channel.receivedAt, Channel.sent, Function.update_of_ne ne,
        quiet.vacant pos (Nat.le_of_succ_le after) old]
    · obtain rfl : pos = n + maxCapacity width := by omega
      simp [Channel.receivedAt]

theorem quiet_new : Quiet width 0 (Channel.new width 1 : Channel T E) where
  rx := rfl
  handles := rfl
  indices := rfl
  enqueuePos := by cases width <;> rfl
  dequeuePos := by cases width <;> rfl
  vacant pos _ inLap := by
    have posLt : pos < maxCapacity width := by simpa using inLap
    rw [Nat.mod_eq_of_lt posLt]
    exact initial_slot posLt

/-- Any number of messages below the last position can go through one by one. -/
theorem run_rounds (width : PointerWidth) (nLt : n < positions width) :
    ∃ history channel, Run (step width) anyStep (Channel.new width 1 : Channel T E)
        history channel ∧ Quiet width n channel ∧ (committed history).length = n ∧
      (received history).length = n := by
  induction n with
  | zero => exact ⟨[], _, .refl, quiet_new, rfl, rfl⟩
  | succ n ih =>
      obtain ⟨history, channel, run, quiet, committedLen, receivedLen⟩ :=
        ih (Nat.lt_of_succ_lt nLt)
      have sends := run_of_exec (exec_send quiet)
      have receives := run_of_exec (exec_receive quiet nLt)
      refine ⟨_, _, (run.trans sends).trans receives, quiet.round, ?_, ?_⟩
      · simp [committed, List.filterMap_append] at committedLen ⊢
        exact committedLen
      · simp [received, List.filterMap_append] at receivedLen ⊢
        exact receivedLen

/-- The message committed at the last position is stored and never received:
`try_dequeue` answers `Empty`. -/
theorem last_position_answers_empty :
    ¬ ∀ (history : List (Event Nat Nat)) (final : Channel Nat Nat),
      Run (step .bits64) anyStep (Channel.new .bits64 1) history final →
        AnswersInOrder history := by
  intro inOrder
  have last : 1023 + 1 = positions .bits64 := by decide
  obtain ⟨history, channel, run, quiet, committedLen, receivedLen⟩ :=
    run_rounds .bits64 (T := Nat) (E := Nat) (n := 1023) (by decide)
  obtain ⟨final, answered⟩ := exec_receive_last quiet last
  have whole := (run.trans (run_of_exec (exec_send quiet))).trans (run_of_exec answered)
  refine (inOrder _ _ whole).2 _ [] rfl channel.tasks.length (0, channel.elements 0) ?_ ?_
  · have sent : (committed (history ++ ([.reserved channel.tasks.length 0,
        .committed channel.tasks.length 0 (channel.elements 0),
        .stored channel.tasks.length, .wakeCons,
        .sendOk channel.tasks.length] : List (Event Nat Nat)))) =
        committed history ++ [(channel.tasks.length, 0, channel.elements 0)] := by
      simp [committed, List.filterMap_append]
    have kept : (received (history ++ ([.reserved channel.tasks.length 0,
        .committed channel.tasks.length 0 (channel.elements 0),
        .stored channel.tasks.length, .wakeCons,
        .sendOk channel.tasks.length] : List (Event Nat Nat)))).length =
        (committed history).length := by
      rw [committedLen, ← receivedLen]
      simp [received, List.filterMap_append]
    rw [sent, kept, List.getElem?_concat_length]
  · simp

end Rounds

/-- Two senders race for the first position.  The second wins it, and its message is not
there yet when the receiver first looks. -/
def racing : List (Action Nat Nat) :=
  [.cloneTx 0 1, .reserve 0 false, .reserve 1 false, .run 0, .run 1, .allocate 0 0,
    .allocate 1 1, .write 0 7, .write 1 8, .commit 0, .commit 1, .run 0, .run 0, .run 1,
    .run 1, .run 1, .run 0, .run 0, .run 0, .run 0, .run 0, .tryRecv, .runRx, .runRx, .run 1,
    .run 1]

/-- Both messages are received, and an index is used for a third. -/
def racingReceived : List (Action Nat Nat) :=
  [.tryRecv, .runRx, .runRx, .runRx, .runRx, .tryRecv, .runRx, .runRx, .runRx, .runRx,
    .release 2, .run 2, .run 2, .reserve 1 false, .run 4, .allocate 4 1, .write 4 9, .commit 4,
    .run 4, .run 4, .run 4, .run 4, .run 4, .tryRecv, .runRx, .runRx, .runRx, .runRx]

theorem received_in_commit_order_racing :
    ∃ history : List (Event Nat Nat),
      received history = [(1, some 8), (0, some 7), (1, some 9)] ∧
        AnswersInOrder history := by
  obtain ⟨history, final, run, seen⟩ :=
    exists_run_of_exec (step .bits64) (beforeWrap .bits64)
      (Channel.new .bits64 2 : Channel Nat Nat) (racing ++ racingReceived)
      (fun reached => received reached.2)
      (show _ = some [(1, some 8), (0, some 7), (1, some 9)] by decide +kernel)
  exact ⟨history, seen, received_in_commit_order (by decide) run⟩

end ChannelCore

end Mgnp
