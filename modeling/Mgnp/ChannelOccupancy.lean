import Mgnp.ChannelCapacity
import Mgnp.ChannelFifo

/-!
# How full the channel says it is

While nothing is in progress, the two positions are as far apart as there are
messages that were committed and not received.  `is_empty` compares the whole words,
with the `CLOSED` flags that the two sides set, so it is right about an empty channel
only while both words are marked or neither.
-/

namespace Mgnp

namespace ChannelCore

open LabelledRuns PositionWord

variable {T E : Type*} {width : PointerWidth} {capacity : Nat} {channel : Channel T E}
  {history : List (Event T E)}

/-- `Core::is_empty`, whose two loads find the words of one state. -/
def Core.isEmpty (core : Core E) : Bool :=
  core.enqueuePos == core.dequeuePos

/-- The committed messages that have not been received. -/
def waiting (history : List (Event T E)) : List (Nat × Nat × Option T) :=
  (committed history).drop (received history).length

/-- No operation is in progress. -/
structure Channel.AtRest (channel : Channel T E) : Prop where
  rx : channel.rx = .idle ∨ channel.rx = .dropped
  tasks : ∀ task ∈ channel.tasks, task.pc.settled = true

instance (channel : Channel T E) : Decidable channel.AtRest :=
  decidable_of_iff ((channel.rx = .idle ∨ channel.rx = .dropped) ∧
      ∀ task ∈ channel.tasks, task.pc.settled = true)
    ⟨fun rests => ⟨rests.1, rests.2⟩, fun rests => ⟨rests.rx, rests.tasks⟩⟩

/-- The positions of the words, `count` apart, and whether the words are marked. -/
structure Apart (width : PointerWidth) (count : Nat) (core : Core E)
    (position : Nat) (enqueueClosed dequeueClosed : Bool) : Prop where
  enqueuePos : core.enqueuePos = word width (position + count) enqueueClosed.toNat
  dequeuePos : core.dequeuePos = word width position dequeueClosed.toNat
  within : count ≤ maxCapacity width

section Apart

/-- There are more positions than a lap, so the words tell the occupancy. -/
theorem maxCapacity_lt_positions (width : PointerWidth) :
    maxCapacity width < positions width := by
  cases width <;> decide

theorem hasClosed_word (seq : Nat) (flag : Bool) :
    HasClosed (word width seq flag.toNat) ↔ flag = true := by
  rw [HasClosed, word_and_closed (flag_lt width flag)]
  cases flag <;> simp

theorem Channel.AtRest.claimed (rests : channel.AtRest) : channel.rx.claimed = 0 := by
  rcases rests.rx with at_rx | at_rx
  · rw [at_rx]
    rfl
  · rw [at_rx]
    rfl

/-- The messages that wait are those of the outstanding tickets. -/
theorem waiting_eq {ledger : Ledger T}
    (replays : TicketQueue.Replays (ledgerOps history) ledger) :
    waiting history = ledger.issued.drop ledger.taken := by
  rw [waiting, ← issues_ledgerOps, ← replays.issued_eq, ← takes_ledgerOps, ← replays.taken_eq]

/-- The positions are as far apart as messages wait. -/
theorem Represents.apart (represents : Represents width capacity history channel)
    (unclaimed : channel.rx.claimed = 0) :
    ∃ position enqueueClosed dequeueClosed,
      Apart width (waiting history).length channel.core position enqueueClosed
        dequeueClosed := by
  obtain ⟨ledger, replays, inv, -⟩ := represents
  obtain ⟨enqueueClosed, enqueuePos⟩ := inv.enqueuePos
  obtain ⟨dequeueClosed, dequeuePos⟩ := inv.dequeuePos
  have count : ledger.taken + (waiting history).length = ledger.issued.length := by
    rw [waiting_eq replays, List.length_drop, Nat.add_sub_cancel' replays.taken_le]
  refine ⟨ledger.taken, enqueueClosed, dequeueClosed, ?_, ?_, ?_⟩
  · rw [count]
    exact enqueuePos
  · rw [unclaimed] at dequeuePos
    exact dequeuePos
  · have window := inv.window
    omega

variable {count position : Nat} {core : Core E} {enqueueClosed dequeueClosed : Bool}

/-- Positions at most a lap apart are equal as words only when they are equal. -/
theorem Apart.isEmpty_iff
    (apart : Apart width count core position enqueueClosed dequeueClosed) :
    core.isEmpty = true ↔ count = 0 ∧ enqueueClosed = dequeueClosed := by
  have within := apart.within
  have positionsLt := maxCapacity_lt_positions width
  rw [Core.isEmpty, beq_iff_eq, apart.enqueuePos, apart.dequeuePos,
    word_inj (flag_lt width _) (flag_lt width _)]
  have samePosition : (position + count) % positions width = position % positions width ↔
      count = 0 := by
    constructor
    · intro same
      by_contra some
      have less : position < position + count := by omega
      exact slot_ne less.ne (by omega) (by omega) same.symm
    · rintro rfl
      rfl
  rw [samePosition]
  cases enqueueClosed <;> cases dequeueClosed <;> simp

end Apart

section IsEmpty

/-- When nothing is in progress, `is_empty` tells whether a message waits exactly when
one does, or when both position words are marked as closed or neither is. -/
theorem isEmpty_tells_iff (capacityLe : capacity ≤ maxCapacity width)
    (run : Run (step width) anyStep (Channel.new width capacity) history channel)
    (rests : channel.AtRest) :
    (channel.core.isEmpty = true ↔ waiting history = []) ↔
      waiting history ≠ [] ∨
        (HasClosed channel.core.enqueuePos ↔ HasClosed channel.core.dequeuePos) := by
  obtain ⟨position, enqueueClosed, dequeueClosed, apart⟩ :=
    (represents_run capacityLe run).apart rests.claimed
  rw [apart.isEmpty_iff, apart.enqueuePos, apart.dequeuePos, hasClosed_word, hasClosed_word,
    List.length_eq_zero_iff]
  by_cases empty : waiting history = []
  · cases enqueueClosed <;> cases dequeueClosed <;> simp [empty]
  · simp [empty]

/-- A message is sent and received, and the channel is closed with an error. -/
def closedByError : List (Action Nat Nat) :=
  sendActions 0 ++ receiveActions 1 ++
    [.closeWithError none 5, .run 2, .run 2, .run 2, .run 2, .run 2, .run 2, .run 2]

theorem isEmpty_tells_closedByError :
    ∃ (history : List (Event Nat Nat)) (channel : Channel Nat Nat),
      Run (step .bits64) anyStep (Channel.new .bits64 1) history channel ∧ channel.AtRest ∧
      (channel.core.isEmpty = true ↔ waiting history = []) := by
  obtain ⟨history, channel, run, seen⟩ :=
    exists_run_of_exec (step .bits64) anyStep (Channel.new .bits64 1 : Channel Nat Nat)
      closedByError (fun reached => (decide reached.1.AtRest,
        decide (HasClosed reached.1.core.enqueuePos),
        decide (HasClosed reached.1.core.dequeuePos)))
      (show _ = some (true, true, true) by decide +kernel)
  simp only [Prod.mk.injEq, decide_eq_true_eq] at seen
  obtain ⟨rests, enqueueClosed, dequeueClosed⟩ := seen
  refine ⟨history, channel, run, rests, ?_⟩
  exact (isEmpty_tells_iff (by decide) run rests).mpr
    (.inr (iff_of_true enqueueClosed dequeueClosed))

/-- The last sender of a new channel is dropped, and the empty channel is not empty. -/
theorem not_isEmpty_tells_sendersDropped :
    ¬ ∀ (history : List (Event Nat Nat)) (channel : Channel Nat Nat),
      Run (step .bits64) anyStep (Channel.new .bits64 1) history channel → channel.AtRest →
      (channel.core.isEmpty = true ↔ waiting history = []) := by
  intro always
  obtain ⟨history, channel, run, seen⟩ :=
    exists_run_of_exec (step .bits64) anyStep (Channel.new .bits64 1 : Channel Nat Nat)
      [.dropTx 0, .run 0, .run 0, .run 0, .run 0]
      (fun reached => (decide reached.1.AtRest, reached.1.core.isEmpty,
        (waiting reached.2).length))
      (show _ = some (true, false, 0) by decide +kernel)
  simp only [Prod.mk.injEq, decide_eq_true_eq, List.length_eq_zero_iff] at seen
  obtain ⟨rests, notEmpty, none⟩ := seen
  cases notEmpty.symm.trans ((always history channel run rests).mpr none)

end IsEmpty

end ChannelCore

end Mgnp
