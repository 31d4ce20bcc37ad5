import Mgnp.ChannelOccupancy

/-!
# Whether the channel tells how full it is

While nothing is in progress and nothing is reserved, every index of the capacity is free,
waits in the queue with its message, or was lost by a `commit_send` that did not succeed.
So `try_reserve` answers `Full` exactly when the messages and the lost indices fill the
capacity.  `len`, `remaining` and `is_full` compute something else from the positions.
-/

namespace Mgnp

namespace ChannelCore

open LabelledRuns PositionWord

variable {T E : Type*} {width : PointerWidth} {capacity : Nat} {channel next : Channel T E}
  {history : List (Event T E)}

/-- The difference of two `usize`, `none` when it underflows. -/
def subUsize (first second : Nat) : Option Nat :=
  if second ≤ first then some (first - second) else none

/-- `Core::is_full`, whose two loads find the words of one state. -/
def Core.isFull (width : PointerWidth) (core : Core E) : Bool :=
  core.dequeuePos + posOne width == core.enqueuePos

/-- `Core::len`, whose three loads find the words of one state, so that the first round of
its loop returns. -/
def Core.len (width : PointerWidth) (core : Core E) : Option Nat :=
  -- Both positions are taken from `dequeue_pos`.
  let head := (core.dequeuePos >>> posShift width) &&& mask width
  let tail := (core.dequeuePos >>> posShift width) &&& mask width
  match compare head tail with
  | .lt => some (tail - head).toNat
  | .eq => some 0
  | .gt => subUsize core.capacity (head + tail).toNat

/-- `Receiver::remaining`. -/
def Core.remaining (width : PointerWidth) (core : Core E) : Option Nat := do
  subUsize (← core.len width) core.capacity

/-- The task holds a reservation to send or one that was received. -/
def Pc.reserved : Pc E → Bool
  | .permit _ | .received _ => true
  | _ => false

/-- No reservation is outstanding. -/
def Channel.Unreserved (channel : Channel T E) : Prop :=
  ∀ task ∈ channel.tasks, task.pc.reserved = false

instance (channel : Channel T E) : Decidable channel.Unreserved :=
  inferInstanceAs (Decidable (∀ task ∈ channel.tasks, task.pc.reserved = false))

def Pc.lost : Pc E → Option Nat
  | .retired idx => some idx
  | _ => none

/-- The indices of the `commit_send` calls that did not succeed. -/
def Channel.lost (channel : Channel T E) : List Nat :=
  channel.tasks.filterMap fun task => task.pc.lost

/-- A call of `try_reserve` that runs alone answers `Full`. -/
def Channel.AnswersFull (width : PointerWidth) (channel : Channel T E) (handle : Nat) : Prop :=
  (exec (step width) anyStep channel [.reserve handle false, .run channel.tasks.length,
    .run channel.tasks.length]).map Prod.snd = some [.full channel.tasks.length]

section Stock

theorem Pc.holding_of_settled {pc : Pc E} (settled : pc.settled = true)
    (unreserved : pc.reserved = false) {role : Role} {idx : Nat}
    (holds : pc.holding = some (role, idx)) : role = .retired := by
  cases pc with
  | retired other =>
      cases holds
      rfl
  | permit | received => cases unreserved
  | _ => cases settled <;> cases holds

theorem Pc.holding_of_lost {pc : Pc E} {idx : Nat} (lost : pc.lost = some idx) :
    pc.holding = some (.retired, idx) := by
  cases pc with
  | retired other =>
      cases lost
      rfl
  | _ => cases lost

theorem mem_lost_iff {idx : Nat} :
    idx ∈ channel.lost ↔ ∃ i, TaskHolds channel.tasks i .retired idx := by
  rw [Channel.lost, List.mem_filterMap]
  constructor
  · rintro ⟨task, member, lost⟩
    obtain ⟨i, at_i⟩ := List.mem_iff_getElem?.mp member
    exact ⟨i, task, at_i, Pc.holding_of_lost lost⟩
  · rintro ⟨i, task, at_i, holds⟩
    refine ⟨task, List.mem_of_getElem? at_i, ?_⟩
    revert holds
    cases task.pc with
    | retired other => simp [Pc.holding, Pc.lost]
    | freeing fromReceiver other => cases fromReceiver <;> simp [Pc.holding]
    | _ => simp [Pc.holding]

/-- Two calls lost different indices. -/
theorem Owned.lost_nodup (owned : Owned width capacity channel) : channel.lost.Nodup := by
  rw [Channel.lost, List.Nodup, List.pairwise_filterMap, List.pairwise_iff_getElem]
  rintro i j iLt jLt before idx atFirst other atSecond rfl
  have first : TaskHolds channel.tasks i .retired idx :=
    ⟨_, List.getElem?_eq_getElem iLt, Pc.holding_of_lost atFirst⟩
  have second : TaskHolds channel.tasks j .retired idx :=
    ⟨_, List.getElem?_eq_getElem jLt, Pc.holding_of_lost atSecond⟩
  have found : Holds width channel idx (.held .retired j) := second
  cases owned.held_unique first found
  exact Nat.lt_irrefl _ before

variable {ledger : Ledger T}

theorem mem_waiting_iff (replays : TicketQueue.Replays (ledgerOps history) ledger)
    {entry : Nat × Nat × Option T} :
    entry ∈ waiting history ↔
      ∃ ticket, ledger.taken ≤ ticket ∧ ledger.issued[ticket]? = some entry := by
  rw [waiting_eq replays, List.mem_iff_getElem?]
  constructor
  · rintro ⟨offset, at_offset⟩
    rw [List.getElem?_drop] at at_offset
    exact ⟨_, Nat.le_add_right _ _, at_offset⟩
  · rintro ⟨ticket, outstanding, at_ticket⟩
    refine ⟨ticket - ledger.taken, ?_⟩
    rw [List.getElem?_drop, Nat.add_sub_cancel' outstanding]
    exact at_ticket

/-- At rest, no slot store is outstanding. -/
theorem RingInv.published_of_rest (inv : RingInv width ledger channel)
    (replays : TicketQueue.Replays (ledgerOps history) ledger) (rests : channel.AtRest)
    {ticket i idx : Nat} {message : Option T}
    (issued : ledger.issued[ticket]? = some (i, idx, message)) : i ∈ ledger.published := by
  by_contra unpublished
  obtain ⟨task, at_i, pos, storing⟩ := inv.storing replays issued unpublished
  have settled := rests.tasks task (List.mem_of_getElem? at_i)
  rw [storing] at settled
  cases settled

/-- At rest, the index of an outstanding ticket waits in its slot. -/
theorem RingInv.queued_of_rest (inv : RingInv width ledger channel)
    (replays : TicketQueue.Replays (ledgerOps history) ledger) (rests : channel.AtRest)
    {ticket i idx : Nat} {message : Option T} (outstanding : ledger.taken ≤ ticket)
    (issued : ledger.issued[ticket]? = some (i, idx, message)) :
    Holds width channel idx (.queued (ticket % maxCapacity width)) := by
  have found := inv.holds_ticketPlace replays outstanding issued
  rw [ticketPlace, if_pos (inv.published_of_rest replays rests issued), rests.claimed,
    Nat.add_zero, if_neg (Nat.not_lt.mpr outstanding)] at found
  exact found

/-- One position of every lap has a given slot. -/
theorem exists_position {lap slot : Nat} (slotLt : slot < lap) (start : Nat) :
    ∃ pos, start ≤ pos ∧ pos < start + lap ∧ pos % lap = slot := by
  have split := Nat.div_add_mod start lap
  have small := Nat.mod_lt start (Nat.zero_lt_of_lt slotLt)
  by_cases behind : start % lap ≤ slot
  · refine ⟨lap * (start / lap) + slot, by omega, by omega, ?_⟩
    rw [Nat.mul_add_mod, Nat.mod_eq_of_lt slotLt]
  · refine ⟨lap * (start / lap + 1) + slot, ?_, ?_, ?_⟩
    · rw [Nat.mul_add]
      omega
    · rw [Nat.mul_add]
      omega
    · rw [Nat.mul_add_mod, Nat.mod_eq_of_lt slotLt]

/-- At rest, a filled slot is that of an outstanding ticket. -/
theorem RingInv.ticket_of_queued (inv : RingInv width ledger channel)
    (replays : TicketQueue.Replays (ledgerOps history) ledger) (rests : channel.AtRest)
    {slot idx : Nat} (found : Holds width channel idx (.queued slot)) :
    ∃ ticket i message, ledger.taken ≤ ticket ∧
      ledger.issued[ticket]? = some (i, idx, message) := by
  obtain ⟨⟨slotLt, filled, -⟩, indexEq⟩ := found
  obtain ⟨ticket, outstanding, inLap, rfl⟩ := exists_position slotLt ledger.taken
  cases at_ticket : ledger.issued[ticket]? with
  | none =>
      have outside := List.getElem?_eq_none_iff.mp at_ticket
      obtain ⟨low, lowLt, at_slot⟩ := inv.vacant outside inLap
      exact absurd filled (not_filled_of_word lowLt at_slot)
  | some entry =>
      obtain ⟨i, other, message⟩ := entry
      have held := inv.tickets outstanding at_ticket
      have stored := held.stored (inv.published_of_rest replays rests at_ticket)
      obtain rfl : other = idx := by
        rw [← indexEq, stored, word_and_mask_toNat held.index_lt]
      exact ⟨ticket, i, message, outstanding, at_ticket⟩

theorem waiting_nodup (replays : TicketQueue.Replays (ledgerOps history) ledger) :
    (waiting history).Nodup := by
  rw [waiting_eq replays]
  exact (List.Nodup.of_map _ replays.keys_nodup).sublist (List.drop_sublist _ _)

/-- At rest, an index that waits is in its slot. -/
theorem RingInv.queued_of_waiting (inv : RingInv width ledger channel)
    (replays : TicketQueue.Replays (ledgerOps history) ledger) (rests : channel.AtRest) {idx : Nat}
    (waits : idx ∈ (waiting history).map fun entry => entry.2.1) :
    ∃ slot, Holds width channel idx (.queued slot) := by
  obtain ⟨⟨i, idx, message⟩, member, rfl⟩ := List.mem_map.mp waits
  obtain ⟨ticket, outstanding, issued⟩ := (mem_waiting_iff replays).mp member
  exact ⟨_, inv.queued_of_rest replays rests outstanding issued⟩

/-- No index waits twice. -/
theorem RingInv.waiting_indices_nodup (inv : RingInv width ledger channel)
    (replays : TicketQueue.Replays (ledgerOps history) ledger)
    (owned : Owned width capacity channel) :
    ((waiting history).map fun entry => entry.2.1).Nodup := by
  refine List.Nodup.map_on ?_ (waiting_nodup replays)
  rintro ⟨i, idx, message⟩ first ⟨j, other, found⟩ second (rfl : idx = other)
  obtain ⟨ticket, outstanding, issued⟩ := (mem_waiting_iff replays).mp first
  obtain ⟨later, laterOutstanding, laterIssued⟩ := (mem_waiting_iff replays).mp second
  have samePlace := owned.places.place_unique
    (inv.holds_ticketPlace replays outstanding issued)
    (inv.holds_ticketPlace replays laterOutstanding laterIssued)
  obtain rfl := inv.ticketPlace_inj replays outstanding laterOutstanding issued laterIssued
    samePlace
  exact Option.some.inj (issued.symm.trans laterIssued)

/-- At rest and without reservations, every index of the capacity is free, waits with its
message or was lost. -/
theorem Represents.stock (represents : Represents width capacity history channel)
    (rests : channel.AtRest) (unreserved : channel.Unreserved) :
    (channel.core.indices ++ (waiting history).map (fun entry => entry.2.1) ++
      channel.lost).Perm (List.range capacity) := by
  obtain ⟨ledger, replays, inv, owned⟩ := represents
  have free {idx : Nat} (member : idx ∈ channel.core.indices) :
      Holds width channel idx .free := member
  have lost {idx : Nat} (member : idx ∈ channel.lost) :
      ∃ i, Holds width channel idx (.held .retired i) :=
    mem_lost_iff.mp member
  apply (List.perm_ext_iff_of_nodup ?_ List.nodup_range).mpr
  · intro idx
    rw [List.mem_append, List.mem_append, List.mem_range]
    constructor
    · rintro ((isFree | waits) | isLost)
      · exact owned.places.isValid (free isFree)
      · obtain ⟨slot, found⟩ := inv.queued_of_waiting replays rests waits
        exact owned.places.isValid found
      · obtain ⟨i, found⟩ := lost isLost
        exact owned.places.isValid found
    · intro idxLt
      obtain ⟨place, found, -⟩ := owned.places.placed idxLt
      cases place with
      | free => exact .inl (.inl found)
      | held role i =>
          obtain ⟨task, at_i, holds⟩ := found
          have member := List.mem_of_getElem? at_i
          obtain rfl := Pc.holding_of_settled (rests.tasks task member)
            (unreserved task member) holds
          exact .inr (mem_lost_iff.mpr ⟨i, task, at_i, holds⟩)
      | queued slot =>
          obtain ⟨ticket, i, message, outstanding, issued⟩ :=
            inv.ticket_of_queued replays rests found
          have waits := (mem_waiting_iff replays).mpr ⟨ticket, outstanding, issued⟩
          exact .inl (.inr (List.mem_map.mpr ⟨_, waits, rfl⟩))
      | dequeued =>
          obtain ⟨head, val, holding, -⟩ := found
          rcases rests.rx with at_rx | at_rx <;> rw [at_rx] at holding <;> cases holding
  · -- The three lists share no index, since an index has one place.
    refine (owned.nodup.append (inv.waiting_indices_nodup replays owned) ?_).append
      owned.lost_nodup ?_
    · intro idx isFree waits
      obtain ⟨slot, found⟩ := inv.queued_of_waiting replays rests waits
      cases owned.places.place_unique (free isFree) found
    · intro idx before isLost
      obtain ⟨i, found⟩ := lost isLost
      rcases List.mem_append.mp before with isFree | waits
      · cases owned.places.place_unique (free isFree) found
      · obtain ⟨slot, waiting⟩ := inv.queued_of_waiting replays rests waits
        cases owned.places.place_unique waiting found

/-- The free indices, the messages that wait and the lost indices make up the capacity. -/
theorem Represents.stock_length (represents : Represents width capacity history channel)
    (rests : channel.AtRest) (unreserved : channel.Unreserved) :
    channel.core.indices.length + (waiting history).length + channel.lost.length =
      capacity := by
  have counted := (represents.stock rests unreserved).length_eq
  simpa [Nat.add_assoc] using counted

end Stock

section Answers

theorem Core.len_eq (core : Core E) : core.len width = some 0 := by
  simp [Core.len]

theorem Core.remaining_eq_some_iff {core : Core E} {left : Nat} :
    core.remaining width = some left ↔ core.capacity = 0 ∧ left = 0 := by
  simp only [Core.remaining, Core.len_eq, Option.bind_eq_bind, Option.bind_some, subUsize]
  split
  · simp only [Option.some.injEq]
    omega
  · simp only [reduceCtorEq, false_iff]
    omega

variable {count position : Nat} {core : Core E}

/-- The positions of an open channel are one apart exactly when one message waits. -/
theorem Apart.isFull_iff (apart : Apart width count core position false false) :
    core.isFull width = true ↔ count = 1 := by
  have within := apart.within
  have positionsLt := maxCapacity_lt_positions width
  have one := one_lt_maxCapacity width
  rw [Core.isFull, beq_iff_eq, apart.enqueuePos, apart.dequeuePos,
    word_add_posOne (flag_lt width _), word_inj (flag_lt width _) (flag_lt width _)]
  constructor
  · rintro ⟨same, -⟩
    by_contra ne
    exact slot_ne (by omega) (by omega) (by omega) same
  · rintro rfl
    exact ⟨rfl, rfl⟩

theorem Transition.capacity_eq {events : List (Event T E)}
    (transition : Transition width channel events next) :
    next.core.capacity = channel.core.capacity := by
  cases transition with
  | taskState _ move => cases move <;> rfl
  | _ => rfl

theorem capacity_run {admits : Channel T E → Action T E → Prop}
    (run : Run (step width) admits (Channel.new width capacity) history channel) :
    channel.core.capacity = capacity :=
  run.stateInvariant (fun channel : Channel T E => channel.core.capacity = capacity) rfl
    fun same _ stepTo => (step_transition stepTo).capacity_eq.trans same

/-- A lone `try_reserve` on an open channel answers `Full` exactly when no index is free. -/
theorem answersFull_iff {handle : Nat} (live : handle ∈ channel.handles)
    (isOpen : ¬ HasClosed channel.core.enqueuePos) :
    channel.AnswersFull width handle ↔ channel.core.indices = [] := by
  rw [HasClosed] at isOpen
  by_cases none : channel.core.indices = []
  · simp [Channel.AnswersFull, exec, anyStep, step, Channel.spawn, Channel.goto, runTask, live,
      isOpen, none]
  · simp [Channel.AnswersFull, exec, anyStep, step, Channel.spawn, Channel.goto, runTask, live,
      isOpen, none]

/-- What the accessors are documented to tell when `count` messages are in the channel. -/
structure TellsOccupancy (width : PointerWidth) (channel : Channel T E) (count : Nat) :
    Prop where
  len : channel.core.len width = some count
  remaining : channel.core.remaining width = some (channel.core.capacity - count)
  isFull : channel.core.isFull width = true ↔ count = channel.core.capacity
  answersFull : ∀ handle ∈ channel.handles,
    channel.AnswersFull width handle ↔ count = channel.core.capacity

theorem Core.len_tells_iff {core : Core E} {count : Nat} :
    core.len width = some count ↔ count = 0 := by
  rw [Core.len_eq, Option.some.injEq, eq_comm]

theorem Core.remaining_tells_iff {core : Core E} {count : Nat} :
    core.remaining width = some (core.capacity - count) ↔ core.capacity = 0 := by
  rw [Core.remaining_eq_some_iff]
  omega

/-- `len` is right about an empty channel only, whose `remaining` underflows unless its
capacity is zero, and then `is_full` is wrong. -/
theorem not_tellsOccupancy {count : Nat}
    (isFull : channel.core.isFull width = true ↔ count = 1) :
    ¬ TellsOccupancy width channel count := by
  intro tells
  have none := Core.len_tells_iff.mp tells.len
  have noCapacity := Core.remaining_tells_iff.mp tells.remaining
  have one := isFull.mp (tells.isFull.mpr (none.trans noCapacity.symm))
  omega

/-- While nothing is in progress and nothing is reserved, an open channel never tells its
occupancy.  `len` is right exactly when no message waits, `remaining` exactly when the
capacity is zero, and `is_full` exactly when one waiting message is a full channel.
`try_reserve` answers `Full` exactly when messages and lost indices fill the capacity. -/
theorem occupancy_never_told (capacityLe : capacity ≤ maxCapacity width)
    (run : Run (step width) anyStep (Channel.new width capacity) history channel)
    (rests : channel.AtRest) (unreserved : channel.Unreserved)
    (enqueueOpen : ¬ HasClosed channel.core.enqueuePos)
    (dequeueOpen : ¬ HasClosed channel.core.dequeuePos) :
    let count := (waiting history).length
    (channel.core.len width = some count ↔ count = 0) ∧
    (channel.core.remaining width = some (capacity - count) ↔ capacity = 0) ∧
    ((channel.core.isFull width = true ↔ count = capacity) ↔ (count = capacity ↔ count = 1)) ∧
    (∀ handle ∈ channel.handles,
      channel.AnswersFull width handle ↔ count + channel.lost.length = capacity) ∧
    ¬ TellsOccupancy width channel count := by
  have represents := represents_run capacityLe run
  have capacityEq := capacity_run run
  have isFull : channel.core.isFull width = true ↔ (waiting history).length = 1 := by
    obtain ⟨position, enqueueClosed, dequeueClosed, apart⟩ := represents.apart rests.claimed
    rw [apart.enqueuePos, hasClosed_word, Bool.not_eq_true] at enqueueOpen
    rw [apart.dequeuePos, hasClosed_word, Bool.not_eq_true] at dequeueOpen
    subst enqueueOpen dequeueOpen
    exact apart.isFull_iff
  refine ⟨Core.len_tells_iff, ?_, ?_, ?_, not_tellsOccupancy isFull⟩
  · rw [← capacityEq]
    exact Core.remaining_tells_iff
  · rw [isFull]
    exact Iff.intro Iff.symm Iff.symm
  · intro handle live
    have stock := represents.stock_length rests unreserved
    rw [answersFull_iff live enqueueOpen, ← List.length_eq_zero_iff]
    omega

/-- One message waits in a channel for two. -/
theorem occupancy_never_told_oneOfTwo :
    ∃ (history : List (Event Nat Nat)) (channel : Channel Nat Nat),
      Run (step .bits64) anyStep (Channel.new .bits64 2) history channel ∧
      ¬ TellsOccupancy .bits64 channel (waiting history).length := by
  obtain ⟨history, channel, run, seen⟩ :=
    exists_run_of_exec (step .bits64) anyStep (Channel.new .bits64 2 : Channel Nat Nat)
      (sendActions 0) (fun reached => (decide reached.1.AtRest, decide reached.1.Unreserved,
        decide (HasClosed reached.1.core.enqueuePos),
        decide (HasClosed reached.1.core.dequeuePos)))
      (show _ = some (true, true, false, false) by decide +kernel)
  simp only [Prod.mk.injEq, decide_eq_true_eq, decide_eq_false_iff_not] at seen
  obtain ⟨rests, unreserved, enqueueOpen, dequeueOpen⟩ := seen
  exact ⟨history, channel, run,
    (occupancy_never_told (by decide) run rests unreserved enqueueOpen dequeueOpen).2.2.2.2⟩

/-- There `len` finds no message. -/
theorem not_tellsOccupancy_oneOfTwo :
    ¬ ∀ (history : List (Event Nat Nat)) (channel : Channel Nat Nat),
      Run (step .bits64) anyStep (Channel.new .bits64 2) history channel →
      channel.AtRest → channel.Unreserved → ¬ HasClosed channel.core.enqueuePos →
      ¬ HasClosed channel.core.dequeuePos →
      TellsOccupancy .bits64 channel (waiting history).length := by
  intro always
  obtain ⟨history, channel, run, seen⟩ :=
    exists_run_of_exec (step .bits64) anyStep (Channel.new .bits64 2 : Channel Nat Nat)
      (sendActions 0) (fun reached => (decide reached.1.AtRest, decide reached.1.Unreserved,
        decide (HasClosed reached.1.core.enqueuePos),
        decide (HasClosed reached.1.core.dequeuePos), (waiting reached.2).length))
      (show _ = some (true, true, false, false, 1) by decide +kernel)
  simp only [Prod.mk.injEq, decide_eq_true_eq, decide_eq_false_iff_not] at seen
  obtain ⟨rests, unreserved, enqueueOpen, dequeueOpen, one⟩ := seen
  have tells := always history channel run rests unreserved enqueueOpen dequeueOpen
  cases one.symm.trans (Core.len_tells_iff.mp tells.len)

end Answers

end ChannelCore

end Mgnp
