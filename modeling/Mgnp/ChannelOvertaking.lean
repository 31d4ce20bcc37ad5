import Mgnp.ChannelFifo

/-!
# Senders overtaken at the wrap of the sequence numbers

A sender may be delayed between loading `enqueue_pos` and loading the slot of
that position, while others commit and the receiver hands slots on to later
laps.  `commit_send` takes a slot sequence behind the loaded position to be
unreachable.  It is behind exactly when the sequence number of the slot has
wrapped in the meantime.
-/

namespace Mgnp

namespace ChannelCore

open LabelledRuns PositionWord

variable {T E : Type*} {width : PointerWidth} {capacity : Nat}
  {history : List (Event T E)} {channel next : Channel T E}

/-- The position number in a position word. -/
def posNumber (width : PointerWidth) (bits : UInt16) : Nat :=
  (bits >>> posShift width).toNat

/-- The last position that the slot of `tail` serves before sequence numbers
wrap. -/
def lastLap (width : PointerWidth) (tail : UInt16) : Nat :=
  positions width - maxCapacity width + slotOf width (tail >>> posShift width)

/-- The position word of the ticket that a task is about to store. -/
def Pc.storingPos : Pc E → Option Nat
  | .storing _ pos => some pos.toNat
  | _ => none

/-- The receiver has handed the slot of a position on to the next lap. -/
def Channel.HandedOn (width : PointerWidth) (channel : Channel T E) (pos : Nat) : Prop :=
  pos + channel.rx.claimed < posNumber width channel.core.dequeuePos

/-- The last position before the wrap has been committed and stored: the
position of `enqueue_pos` has wrapped, and nobody is about to store it. -/
def Channel.LastStored (width : PointerWidth) (channel : Channel T E) : Prop :=
  posNumber width channel.core.enqueuePos < posNumber width channel.core.dequeuePos ∧
    ∀ task ∈ channel.tasks, task.pc.storingPos ≠ some (positions width - 1)

/-- Since a sender loaded `tail`, the sequence number of its slot has wrapped. -/
def Overtaken (width : PointerWidth) (channel : Channel T E) (tail : UInt16) : Prop :=
  (maxCapacity width ≤ posNumber width tail ∧
      channel.HandedOn width (lastLap width tail)) ∨
    (lastLap width tail + 1 = positions width ∧ channel.LastStored width)

instance (width : PointerWidth) (channel : Channel T E) (pos : Nat) :
    Decidable (channel.HandedOn width pos) :=
  inferInstanceAs (Decidable (_ < _))

instance (width : PointerWidth) (channel : Channel T E) :
    Decidable (channel.LastStored width) :=
  inferInstanceAs (Decidable (_ ∧ _))

instance (width : PointerWidth) (channel : Channel T E) (tail : UInt16) :
    Decidable (Overtaken width channel tail) :=
  inferInstanceAs (Decidable (_ ∨ _))

/-- A sender that holds an open `tail` loads its slot before the slot's
sequence number has wrapped. -/
def Channel.inTime (width : PointerWidth) (channel : Channel T E) : Action T E → Bool
  | .run i =>
      match channel.tasks[i]? with
      | some ⟨_, .examining _ tail⟩ => HasClosed tail || !Overtaken width channel tail
      | _ => true
  | _ => true

/-- No sender is overtaken. -/
def InTime (width : PointerWidth) (channel : Channel T E) (action : Action T E) : Prop :=
  channel.inTime width action = true

instance (width : PointerWidth) (channel : Channel T E) (action : Action T E) :
    Decidable (InTime width channel action) :=
  inferInstanceAs (Decidable (_ = _))

/-- The `tail` that a sender holds was the enqueue position when at most
`count` messages had been committed. -/
def Pc.TailFacts (width : PointerWidth) (count : Nat) : Pc E → Prop
  | .examining _ tail => ∃ pos flag, pos ≤ count ∧ tail = word width pos (Bool.toNat flag)
  | _ => True

section Tails

theorem Pc.TailFacts.mono {pc : Pc E} {first second : Nat} (le : first ≤ second)
    (facts : pc.TailFacts width first) : pc.TailFacts width second := by
  cases pc with
  | examining =>
      obtain ⟨pos, flag, posLe, tailEq⟩ := facts
      exact ⟨pos, flag, Nat.le_trans posLe le, tailEq⟩
  | _ => trivial

theorem LocalMove.tailFacts {core : Core E} {i count : Nat} {pc pc' : Pc E}
    {events : List (Event T E)} {flag : Bool}
    (enqueuePos : core.enqueuePos = word width count flag.toNat)
    (move : LocalMove width core i pc pc' events) : pc'.TailFacts width count := by
  cases move with
  | loadTail | claimFailed => exact ⟨count, flag, Nat.le_refl _, enqueuePos⟩
  | sawClosed | sawOpen | reserveError | park | full | waitClosed | woken | commitCall
  | commitSawClosed | panic | claim | reloadTail | commitError | wakeReceiver
  | dropPermit | dropReceived | wakeSender | closeConsWait | acquireLast => trivial

theorem StateMove.tailFacts {core core' : Core E} {i count : Nat} {pc pc' : Pc E}
    {events : List (Event T E)} (move : StateMove core i pc pc' core' events) :
    pc'.TailFacts width count := by
  cases move with
  | closeProdWait | dropTx => split <;> trivial
  | loseError | winError | writeError | setErrored => trivial

theorem tails_transition {events : List (Event T E)} {count : Nat} {flag : Bool}
    (enqueuePos : channel.core.enqueuePos = word width count flag.toNat)
    (tails : ∀ task ∈ channel.tasks, task.pc.TailFacts width count)
    (transition : Transition width channel events next) :
    ∀ task ∈ next.tasks, task.pc.TailFacts width count := by
  cases transition with
  | call called =>
      refine forall_mem_append_singleton tails ?_
      cases called <;> trivial
  | dropTx | dropRx | release => exact forall_mem_append_singleton tails trivial
  | taskLocal _ move => exact forall_mem_set tails (move.tailFacts enqueuePos)
  | taskState _ move => exact forall_mem_set tails move.tailFacts
  | allocate | free | commitWon | store | closeRx | closeTx =>
      exact forall_mem_set tails trivial
  | cloneTx | write | rxLocal | dequeueWon => exact tails

theorem Represents.enqueue_count (represents : Represents width capacity history channel) :
    ∃ flag : Bool, channel.core.enqueuePos =
      word width (committed history).length flag.toNat := by
  obtain ⟨ledger, replays, inv, _⟩ := represents
  rw [← issues_ledgerOps, ← replays.issued_eq]
  exact inv.enqueuePos

/-- Every `tail` in use comes from an earlier point of the run. -/
theorem tails_run {admits : Channel T E → Action T E → Prop}
    (capacityLe : capacity ≤ maxCapacity width)
    (run : Run (step width) admits (Channel.new width capacity) history channel) :
    ∀ task ∈ channel.tasks, task.pc.TailFacts width (committed history).length := by
  have both : Represents width capacity history channel ∧
      ∀ task ∈ channel.tasks, task.pc.TailFacts width (committed history).length := by
    refine run.invariant (fun history state => Represents width capacity history state ∧
      ∀ task ∈ state.tasks, task.pc.TailFacts width (committed history).length)
      ⟨represents_new, by simp [Channel.new]⟩ ?_
    intro past events state next action holds _ stepTo
    obtain ⟨represents, tails⟩ := holds
    have transition := step_transition stepTo
    obtain ⟨flag, enqueuePos⟩ := represents.enqueue_count
    refine ⟨represents.transition capacityLe transition, fun task member => ?_⟩
    refine (tails_transition enqueuePos tails transition task member).mono ?_
    simp only [committed, List.filterMap_append, List.length_append]
    exact Nat.le_add_right _ _
  exact both.2

end Tails

section Comparison

variable {core : Core E} {pos seq low : Nat} {flag : Bool}

/-- The comparison of `commit_send` is one of wrapped sequence numbers. -/
theorem commitOrder_word {tail : UInt16} (tailEq : tail = word width pos flag.toNat)
    (lowLt : low < maxCapacity width)
    (at_slot : core.queue (pos % maxCapacity width) = word width seq low) :
    core.commitOrder width tail = .lt ↔ seq % positions width < pos % positions width := by
  have slotEq : slotOf width (tail >>> posShift width) = pos % maxCapacity width := by
    rw [tailEq, slotOf_word (flag_lt width flag)]
  have posNat : (tail >>> posShift width).toNat = pos % positions width := by
    rw [tailEq, word_shift_toNat (flag_lt width flag)]
  have seqNat : (core.queue (slotOf width (tail >>> posShift width)) >>>
      posShift width).toNat = seq % positions width := by
    rw [slotEq, at_slot, word_shift_toNat lowLt]
  have posLt : pos % positions width < positions width :=
    Nat.mod_lt _ (positions_pos width)
  have seqLt : seq % positions width < positions width :=
    Nat.mod_lt _ (positions_pos width)
  rw [Core.commitOrder, signedDif_eq width (by omega) (by omega), seqNat, posNat,
    compare_lt_iff_lt]
  omega

theorem posNumber_word : posNumber width (word width pos flag.toNat) =
    pos % positions width :=
  word_shift_toNat (flag_lt width flag)

theorem lastLap_word : lastLap width (word width pos flag.toNat) =
    positions width - maxCapacity width + pos % maxCapacity width := by
  rw [lastLap, slotOf_word (flag_lt width flag)]

/-- A window of one lap contains exactly one position of every slot. -/
theorem exists_in_lap (start pos : Nat) {lap : Nat} (positive : 0 < lap) :
    ∃ other, start ≤ other ∧ other < start + lap ∧ other % lap = pos % lap := by
  refine ⟨start + (pos % lap + (lap - start % lap)) % lap, Nat.le_add_right _ _,
    Nat.add_lt_add_left (Nat.mod_lt _ positive) _, ?_⟩
  have startLt := Nat.mod_lt start positive
  rw [Nat.add_mod_mod, ← Nat.mod_add_mod]
  have whole : start % lap + (pos % lap + (lap - start % lap)) = pos % lap + lap := by
    omega
  rw [whole, Nat.add_mod_right, Nat.mod_mod]

end Comparison

section Ledger

variable {ledger : Ledger T} {ops : List (TicketQueue.Op Nat (Nat × Option T))}

/-- The ticket of a position has been published. -/
def PublishedAt (ledger : Ledger T) (pos : Nat) : Prop :=
  ∃ i item, ledger.issued[pos]? = some (i, item) ∧ i ∈ ledger.published

theorem RingInv.front_lt (inv : RingInv width ledger channel) :
    ledger.taken + channel.rx.claimed < positions width := by
  rcases Nat.eq_zero_or_pos channel.rx.claimed with none | claims
  · rw [none]
    exact inv.taken_lt
  · obtain ⟨head, val, at_rx⟩ := RxPc.claimed_pos claims
    have atFront : AtFront width ledger head val := inv.receiver at_rx
    rw [at_rx]
    exact atFront.inside

/-- What the slot of a position in the current lap holds. -/
theorem RingInv.slot (inv : RingInv width ledger channel) {pos : Nat}
    (takenLe : ledger.taken ≤ pos) (inLap : pos < ledger.taken + maxCapacity width) :
    ∃ low, low < maxCapacity width ∧
      (¬ PublishedAt ledger pos ∧
          channel.core.queue (pos % maxCapacity width) = word width pos low ∨
        PublishedAt ledger pos ∧
          channel.core.queue (pos % maxCapacity width) = word width (pos + 1) low) := by
  cases issued : ledger.issued[pos]? with
  | none =>
      obtain ⟨low, lowLt, at_slot⟩ :=
        inv.vacant (List.getElem?_eq_none_iff.mp issued) inLap
      refine ⟨low, lowLt, .inl ⟨?_, at_slot⟩⟩
      rintro ⟨i, item, found, _⟩
      cases issued.symm.trans found
  | some entry =>
      obtain ⟨i, idx, message⟩ := entry
      have held := inv.tickets takenLe issued
      by_cases published : i ∈ ledger.published
      · exact ⟨idx, held.index_lt, .inr ⟨⟨i, _, issued, published⟩, held.stored published⟩⟩
      · obtain ⟨low, lowLt, at_slot⟩ := held.pending published
        refine ⟨low, lowLt, .inl ⟨?_, at_slot⟩⟩
        rintro ⟨k, item, found, published'⟩
        cases issued.symm.trans found
        exact published published'

/-- Whether the last position has been stored can be read off the words. -/
theorem RingInv.lastStored (inv : RingInv width ledger channel)
    (replays : TicketQueue.Replays ops ledger) :
    channel.LastStored width ↔ PublishedAt ledger (positions width - 1) := by
  obtain ⟨enqueueFlag, enqueueEq⟩ := inv.enqueuePos
  obtain ⟨dequeueFlag, dequeueEq⟩ := inv.dequeuePos
  have frontLt := inv.front_lt
  have frontLe := inv.front_le replays
  have takenLt := inv.taken_lt
  have window := inv.window
  have short : maxCapacity width < positions width := by cases width <;> decide
  have wrapped : posNumber width channel.core.enqueuePos <
      posNumber width channel.core.dequeuePos ↔ positions width ≤ ledger.issued.length := by
    rw [enqueueEq, dequeueEq, posNumber_word, posNumber_word, Nat.mod_eq_of_lt frontLt]
    rcases Nat.lt_or_ge ledger.issued.length (positions width) with before | after
    · rw [Nat.mod_eq_of_lt before]
      omega
    · rw [Nat.mod_eq_sub_mod after, Nat.mod_eq_of_lt (by omega)]
      omega
  -- A task about to store the last position holds its ticket.
  have storing {i ticket : Nat} {item : Nat × Option T}
      (issued : ledger.issued[ticket]? = some (i, item)) :
      ticket % positions width = positions width - 1 ↔ ticket = positions width - 1 := by
    have inside := (List.getElem?_eq_some_iff.mp issued).1
    rcases Nat.lt_or_ge ticket (positions width) with before | after
    · rw [Nat.mod_eq_of_lt before]
    · rw [Nat.mod_eq_sub_mod after, Nat.mod_eq_of_lt (by omega)]
      omega
  constructor
  · rintro ⟨ahead, nobody⟩
    have inside : positions width - 1 < ledger.issued.length := by
      have := wrapped.mp ahead
      omega
    obtain ⟨⟨i, idx, message⟩, issued⟩ :
        ∃ entry, ledger.issued[positions width - 1]? = some entry :=
      ⟨_, List.getElem?_eq_getElem inside⟩
    refine ⟨i, _, issued, ?_⟩
    by_contra unpublished
    obtain ⟨⟨handle, pc⟩, at_i, pos, rfl⟩ := inv.storing replays issued unpublished
    obtain ⟨ticket, message', low, _, issued', _, lowLt, posEq⟩ := inv.tasks i _ at_i
    obtain rfl := replays.ticket_unique issued issued'
    refine nobody _ (List.mem_of_getElem? at_i) ?_
    simp only [Pc.storingPos, posEq, word_shift_toNat lowLt, (storing issued).mpr rfl]
  · rintro ⟨i, item, issued, published⟩
    have inside := (List.getElem?_eq_some_iff.mp issued).1
    refine ⟨wrapped.mpr (by omega), fun task member found => ?_⟩
    obtain ⟨k, at_k⟩ := List.mem_iff_getElem?.mp member
    have facts := inv.tasks k task at_k
    cases pc : task.pc with
    | storing idx pos =>
        rw [pc] at facts found
        obtain ⟨ticket, message, low, _, issued', unpublished, lowLt, posEq⟩ := facts
        have posNat : pos.toNat = positions width - 1 := Option.some.inj found
        rw [posEq, word_shift_toNat lowLt, storing issued'] at posNat
        subst posNat
        cases issued.symm.trans issued'
        exact unpublished published
    | _ =>
        rw [pc] at found
        cases found

/-- A sender that still holds its index finds the slot it loads in the current
lap or in an earlier one. -/
theorem RingInv.behind_iff_overtaken (inv : RingInv width ledger channel)
    (replays : TicketQueue.Replays ops ledger) (owned : Owned width capacity channel)
    (capacityLe : capacity ≤ maxCapacity width) {i idx pos : Nat} {flag : Bool}
    {handle : Option Nat} {tail : UInt16}
    (at_pc : channel.tasks[i]? = some ⟨handle, .examining idx tail⟩)
    (tailEq : tail = word width pos flag.toNat) (posLe : pos ≤ ledger.issued.length) :
    channel.core.commitOrder width tail = .lt ↔ Overtaken width channel tail := by
  have held : TaskHolds channel.tasks i .sending idx := ⟨_, at_pc, rfl⟩
  have room := inv.room replays owned capacityLe held (inv.tasks i _ at_pc)
  obtain ⟨current, takenLe, inLap, sameSlot⟩ :=
    exists_in_lap ledger.taken pos (maxCapacity_pos width)
  obtain ⟨low, lowLt, slot⟩ := inv.slot takenLe inLap
  have takenLt := inv.taken_lt
  have lastStored := inv.lastStored replays
  have inside (published : PublishedAt ledger current) :
      current < ledger.issued.length := by
    obtain ⟨key, item, issued, _⟩ := published
    exact (List.getElem?_eq_some_iff.mp issued).1
  have lastInside (published : PublishedAt ledger (positions width - 1)) :
      positions width - 1 < ledger.issued.length := by
    obtain ⟨key, item, issued, _⟩ := published
    exact (List.getElem?_eq_some_iff.mp issued).1
  have handedOn : channel.HandedOn width (lastLap width tail) ↔
      lastLap width tail < ledger.taken := by
    obtain ⟨dequeueFlag, dequeueEq⟩ := inv.dequeuePos
    rw [Channel.HandedOn, dequeueEq, posNumber_word, Nat.mod_eq_of_lt inv.front_lt]
    omega
  rw [Overtaken, handedOn, lastStored, tailEq, posNumber_word, lastLap_word, ← tailEq]
  rcases slot with ⟨unpublished, at_slot⟩ | ⟨published, at_slot⟩
  · -- The slot waits for the message of `current`.
    rw [sameSlot] at at_slot
    rw [commitOrder_word tailEq lowLt at_slot]
    by_cases last : PublishedAt ledger (positions width - 1)
    · have room' := lastInside last
      have ne : current ≠ positions width - 1 := fun same => unpublished (same ▸ last)
      simp only [last, and_true]
      cases width <;> simp only [positions, maxCapacity] at * <;> omega
    · simp only [last, and_false, or_false]
      cases width <;> simp only [positions, maxCapacity] at * <;> omega
  · -- The slot holds the message of `current`, under the next sequence number.
    rw [sameSlot] at at_slot
    rw [commitOrder_word tailEq lowLt at_slot]
    have before := inside published
    by_cases last : PublishedAt ledger (positions width - 1)
    · have room' := lastInside last
      simp only [last, and_true]
      cases width <;> simp only [positions, maxCapacity] at * <;> omega
    · have ne : current ≠ positions width - 1 := fun same => last (same ▸ published)
      simp only [last, and_false, or_false]
      cases width <;> simp only [positions, maxCapacity] at * <;> omega

end Ledger

section Runs

variable {events : List (Event T E)}

/-- `unreachable!` is reached by a sender that compares its slot and finds it
behind. -/
theorem Transition.panicked (transition : Transition width channel events next) {i : Nat}
    (answered : .panicked i ∈ events) :
    ∃ handle idx tail, channel.tasks[i]? = some ⟨handle, .examining idx tail⟩ ∧
      ¬ HasClosed tail ∧ channel.core.commitOrder width tail = .lt := by
  cases transition with
  | taskLocal at_pc move =>
      cases move with
      | panic isOpen behind =>
          obtain rfl := Event.panicked.inj (List.mem_singleton.mp answered)
          exact ⟨_, _, _, at_pc, isOpen, behind⟩
      | @closeConsWait byError => cases byError <;> simp at answered
      | sawClosed | sawOpen | reserveError | park | full | waitClosed | woken
      | commitCall | loadTail | commitSawClosed | claim | reloadTail | claimFailed
      | commitError | wakeReceiver | dropPermit | dropReceived | wakeSender
      | acquireLast => simp at answered
  | taskState _ move => cases move <;> simp at answered
  | rxLocal _ move => cases move <;> simp at answered
  | call | cloneTx | dropTx | dropRx | allocate | free | write | commitWon | store
  | closeRx | closeTx | dequeueWon | release => simp at answered

theorem overtaken_of_behind {admits : Channel T E → Action T E → Prop}
    (capacityLe : capacity ≤ maxCapacity width)
    (run : Run (step width) admits (Channel.new width capacity) history channel)
    {i idx : Nat} {handle : Option Nat} {tail : UInt16}
    (at_pc : channel.tasks[i]? = some ⟨handle, .examining idx tail⟩) :
    channel.core.commitOrder width tail = .lt ↔ Overtaken width channel tail := by
  obtain ⟨ledger, replays, inv, owned⟩ := represents_run capacityLe run
  obtain ⟨pos, flag, posLe, tailEq⟩ :=
    tails_run capacityLe run _ (List.mem_of_getElem? at_pc)
  rw [← issues_ledgerOps, ← replays.issued_eq] at posLe
  exact inv.behind_iff_overtaken replays owned capacityLe at_pc tailEq posLe

/-- A step reaches `unreachable!` exactly when its sender has been overtaken. -/
theorem inTime_iff {admits : Channel T E → Action T E → Prop} {action : Action T E}
    (capacityLe : capacity ≤ maxCapacity width)
    (run : Run (step width) admits (Channel.new width capacity) history channel)
    (stepTo : step width channel action = some (next, events)) :
    InTime width channel action ↔ ∀ i, .panicked i ∉ events := by
  constructor
  · intro inTime i answered
    obtain rfl := run_of_ranBy stepTo answered rfl
    obtain ⟨handle, idx, tail, at_pc, isOpen, behind⟩ :=
      (step_transition stepTo).panicked answered
    have overtaken := (overtaken_of_behind capacityLe run at_pc).mp behind
    simp [InTime, Channel.inTime, at_pc, isOpen, overtaken] at inTime
  · intro silent
    by_contra late
    cases action with
    | run i =>
        simp only [InTime, Channel.inTime] at late
        split at late
        · rename_i handle idx tail at_pc
          obtain ⟨isOpen, overtaken⟩ : ¬ HasClosed tail ∧ Overtaken width channel tail := by
            simpa using late
          have behind := (overtaken_of_behind capacityLe run at_pc).mpr overtaken
          have open' : ¬ tail &&& closed = closed := isOpen
          simp only [step, at_pc, runTask, if_neg open', behind] at stepTo
          cases stepTo
          exact silent i (List.mem_singleton_self _)
        · exact late rfl
    | _ => exact late rfl

/-- `commit_send` reaches its `unreachable!` arm in exactly those runs in which
some sender, with an open `tail` in hand, loads its slot after the slot's
sequence number has wrapped. -/
theorem commit_send_in_time (capacityLe : capacity ≤ maxCapacity width) :
    Run (step width) (InTime width) (Channel.new width capacity) history channel ↔
      Run (step width) anyStep (Channel.new width capacity) history channel ∧
        ∀ i, .panicked i ∉ history := by
  constructor
  · intro run
    have silent : Run (step width) (InTime width) (Channel.new width capacity) history
        channel ∧ ∀ i, .panicked i ∉ history := by
      refine run.invariant (fun history state => Run (step width) (InTime width)
        (Channel.new width capacity) history state ∧ ∀ i, .panicked i ∉ history)
        ⟨.refl, by simp⟩ ?_
      intro past events state next action ⟨before, silent⟩ inTime stepTo
      refine ⟨.tail before inTime stepTo, fun i member => ?_⟩
      rcases List.mem_append.mp member with earlier | now
      · exact silent i earlier
      · exact (inTime_iff capacityLe before stepTo).mp inTime i now
    exact ⟨run.any, silent.2⟩
  · rintro ⟨run, silent⟩
    induction run with
    | refl => exact .refl
    | @tail past events state next action before _ stepTo ih =>
        have earlier := ih fun i member => silent i (List.mem_append_left _ member)
        refine .tail earlier ((inTime_iff capacityLe earlier stepTo).mpr ?_) stepTo
        exact fun i member => silent i (List.mem_append_right _ member)

end Runs

/-- Two senders that race for a position, one of which loads its slot twice, reach no
panic, and neither does a third that uses the index of the first again. -/
theorem commit_send_in_time_racing :
    ∃ (history : List (Event Nat Nat)) (final : Channel Nat Nat),
      (∀ i ∈ [0, 1, 4], .sendOk i ∈ history) ∧
      (Run (step .bits64) anyStep (Channel.new .bits64 2) history final ∧
        ∀ i, .panicked i ∉ history) := by
  obtain ⟨history, final, run, seen⟩ :=
    exists_run_of_exec (step .bits64) (InTime .bits64) (Channel.new .bits64 2 : Channel Nat Nat)
      (racing ++ racingReceived)
      (fun reached => [0, 1, 4].all fun i => decide ((.sendOk i : Event Nat Nat) ∈ reached.2))
      (show _ = some true by decide +kernel)
  simp only [List.all_eq_true, decide_eq_true_eq] at seen
  exact ⟨history, final, seen,
    (commit_send_in_time (by decide)).mp run⟩

section Rounds

variable {n : Nat}

/-- Rounds of a quiet channel leave the calls in progress alone. -/
theorem Quiet.rounds (quiet : Quiet width n channel) (more : Nat)
    (inside : n + more < positions width) :
    ∃ later final, Run (step width) anyStep channel later final ∧
      Quiet width (n + more) final ∧ channel.tasks <+: final.tasks := by
  induction more with
  | zero => exact ⟨[], channel, .refl, quiet, List.prefix_refl _⟩
  | succ more ih =>
      obtain ⟨later, final, run, quiet', kept⟩ := ih (by omega)
      have sends := run_of_exec (exec_send quiet')
      have receives := run_of_exec (exec_receive quiet' (by omega))
      refine ⟨_, _, (run.trans sends).trans receives, quiet'.round, ?_⟩
      exact kept.trans ⟨[⟨some 0, .finished⟩, ⟨none, .finished⟩],
        by simp [Channel.sent, Channel.receivedAt]⟩

/-- A new channel of capacity two, of which a send reservation holds index 1. -/
def Channel.oneReserved (width : PointerWidth) : Channel T E :=
  { (Channel.new width 2 : Channel T E) with
    core := { (Core.new width 2 : Core E) with indices := [0] }
    tasks := [⟨some 0, .permit 1⟩] }

theorem quiet_oneReserved : Quiet width 0 (Channel.oneReserved width : Channel T E) where
  rx := rfl
  handles := rfl
  indices := rfl
  enqueuePos := (quiet_new (T := T) (E := E)).enqueuePos
  dequeuePos := (quiet_new (T := T) (E := E)).dequeuePos
  vacant := (quiet_new (T := T) (E := E)).vacant

theorem Quiet.goto (quiet : Quiet width n channel) (i : Nat) (handle : Option Nat)
    (pc : Pc E) : Quiet width n (channel.goto i handle pc) where
  rx := quiet.rx
  handles := quiet.handles
  indices := quiet.indices
  enqueuePos := quiet.enqueuePos
  dequeuePos := quiet.dequeuePos
  vacant := quiet.vacant

/-- A sender starts its `commit_send` and loads `enqueue_pos`. -/
theorem exec_load (quiet : Quiet width n channel) {i idx : Nat}
    (at_pc : channel.tasks[i]? = some ⟨some 0, .permit idx⟩) :
    exec (step width) anyStep channel [.commit i, .run i] =
      some (channel.goto i (some 0) (.examining idx (word width n 0)), []) := by
  obtain ⟨inside, _⟩ := List.getElem?_eq_some_iff.mp at_pc
  simp [exec, anyStep, step, at_pc, Channel.goto, runTask, quiet.enqueuePos,
    List.getElem?_set_self inside]

/-- A sender that loaded the last position finds its slot behind once another
has stored it. -/
theorem exec_delayed (last : n + 1 = positions width) {i idx : Nat}
    (at_pc : channel.tasks[i]? = some ⟨some 0, .examining idx (word width n 0)⟩) :
    ∃ final, exec (step width) anyStep (channel.sent width n) [.run i] =
      some (final, [.panicked i]) := by
  obtain ⟨inside, _⟩ := List.getElem?_eq_some_iff.mp at_pc
  have still : (channel.sent width n).tasks[i]? =
      some ⟨some 0, .examining idx (word width n 0)⟩ := by
    rw [Channel.sent, List.getElem?_append_left inside]
    exact at_pc
  have stored : (channel.sent width n).core.queue (n % maxCapacity width) =
      word width (n + 1) 0 := Function.update_self ..
  have behind : (channel.sent width n).core.commitOrder width (word width n 0) = .lt := by
    have tailEq : word width n 0 = word width n false.toNat := rfl
    have many : 1 < positions width := by cases width <;> decide
    rw [commitOrder_word tailEq (maxCapacity_pos width) stored, last, Nat.mod_self,
      Nat.mod_eq_of_lt (by omega)]
    omega
  simp [exec, anyStep, step, still, runTask, not_closed_word, behind]

/-- A sender loads `enqueue_pos` at the last position before the wrap.  Another
one commits and stores that position, and the first reaches `unreachable!`. -/
theorem delayed_sender_panics :
    ¬ ∀ (width : PointerWidth) (capacity : Nat) (history : List (Event Nat Nat))
      (final : Channel Nat Nat), capacity ≤ maxCapacity width →
      Run (step width) anyStep (Channel.new width capacity) history final →
      ∀ i, .panicked i ∉ history := by
  intro claimed
  have reserves : exec (step .bits64) anyStep (Channel.new .bits64 2 : Channel Nat Nat)
      [.reserve 0 false, .run 0, .allocate 0 1] =
        some (Channel.oneReserved .bits64, [.reserved 0 1]) := rfl
  obtain ⟨later, middle, rounds, quiet, others, tasksEq⟩ :=
    (quiet_oneReserved (T := Nat) (E := Nat)).rounds 1023
      (show 0 + 1023 < positions .bits64 by decide)
  have at_permit : middle.tasks[0]? = some ⟨some 0, .permit 1⟩ := by
    rw [← tasksEq]
    rfl
  have loads := exec_load quiet at_permit
  have delayed := quiet.goto 0 (some 0)
    (.examining 1 (word .bits64 (0 + 1023) 0))
  obtain ⟨inside, _⟩ := List.getElem?_eq_some_iff.mp at_permit
  have at_pc : (middle.goto 0 (some 0) (.examining 1 (word .bits64 (0 + 1023) 0))).tasks[0]? =
      some ⟨some 0, .examining 1 (word .bits64 (0 + 1023) 0)⟩ :=
    List.getElem?_set_self inside
  obtain ⟨final, panics⟩ := exec_delayed (by decide) at_pc
  have whole := ((((run_of_exec reserves).trans rounds).trans (run_of_exec loads)).trans
    (run_of_exec (exec_send delayed))).trans (run_of_exec panics)
  exact claimed .bits64 2 _ final (by decide) whole 0 (by simp)

end Rounds

end ChannelCore

end Mgnp
