import Mgnp.ChannelLedger

/-!
# Every element index has one owner

Each step of the channel moves at most one index from one place to another.
Together with the ring invariant, which says what the slot of a ticket holds
when it is stored, dequeued and handed on, this keeps every index in exactly
one place along every run.
-/

namespace Mgnp

namespace ChannelCore

open LabelledRuns PositionWord

variable {T E : Type*} {width : PointerWidth} {capacity : Nat}
  {ledger : Ledger T} {channel next : Channel T E}
  {ops : List (TicketQueue.Op Nat (Nat × Option T))}

/-- A local move keeps its index, except that a failing `commit_send` leaves it
behind. -/
theorem LocalMove.holding {core : Core E} {i : Nat} {pc pc' : Pc E}
    {events : List (Event T E)} (move : LocalMove width core i pc pc' events) :
    pc'.holding = pc.holding ∨ ∃ idx, pc.holding = some (.sending, idx) ∧
      pc'.holding = some (.retired, idx) := by
  cases move with
  | panic | commitError => exact .inr ⟨_, rfl, rfl⟩
  | sawClosed | sawOpen | reserveError | park | full | waitClosed | woken
  | commitCall | loadTail | commitSawClosed | claim | reloadTail | claimFailed
  | wakeReceiver | dropPermit | dropReceived | wakeSender | closeConsWait
  | acquireLast => exact .inl rfl

theorem StateMove.holding {core core' : Core E} {i : Nat} {pc pc' : Pc E}
    {events : List (Event T E)} (move : StateMove core i pc pc' core' events) :
    pc'.holding = pc.holding := by
  cases move with
  | closeProdWait | dropTx => split <;> rfl
  | loseError | winError | writeError | setErrored => rfl

theorem RxMove.holding {core : Core E} {rx rx' : RxPc} {events : List (Event T E)}
    (move : RxMove width core rx rx' events) : rx'.holding = rx.holding := by
  cases move <;> rfl

section Moves

variable {tasks : List (Task E)} {i k idx : Nat} {role : Role} {old new : Task E}

/-- A moving task affects only the places that it leaves and enters. -/
theorem taskHolds_set_elsewhere (at_k : tasks[k]? = some old)
    (left : ∀ {idx}, old.pc.holding = some (role, idx) → i ≠ k)
    (entered : ∀ {idx}, new.pc.holding = some (role, idx) → i ≠ k) :
    TaskHolds (tasks.set k new) i role idx ↔ TaskHolds tasks i role idx := by
  by_cases moves : k = i
  · subst moves
    rw [taskHolds_set_self at_k, taskHolds_iff at_k]
    exact ⟨fun holds => absurd rfl (entered holds), fun holds => absurd rfl (left holds)⟩
  · exact taskHolds_set_ne moves

theorem holds_queued_congr {slot : Nat}
    (queue : next.core.queue slot = channel.core.queue slot)
    (rx : next.rx.releasingSlot width = some slot ↔
      channel.rx.releasingSlot width = some slot) :
    Holds width next idx (.queued slot) ↔ Holds width channel idx (.queued slot) := by
  simp only [Holds, Queued, Core.Filled, queue, ne_eq, rx]

theorem Owned.retire (owned : Owned width capacity channel) {handle : Option Nat}
    {pc pc' : Pc E} (at_pc : channel.tasks[i]? = some ⟨handle, pc⟩)
    (before : pc.holding = some (.sending, idx))
    (after : pc'.holding = some (.retired, idx)) :
    Owned width capacity (channel.goto i handle pc') := by
  refine ⟨owned.nodup, owned.places.move (.held .sending i)
    (.held .retired i) ((taskHolds_iff at_pc).mpr before)
    (by simp) ?_ ?_ ?_⟩
  · intro other
    simp only [Holds, Channel.goto, taskHolds_set_self at_pc, taskHolds_iff at_pc,
      before, after]
    simp only [Option.some.injEq, Prod.mk.injEq, reduceCtorEq, false_and, true_and,
      false_iff, not_and, not_not]
    exact Eq.symm
  · intro other
    simp only [Holds, Channel.goto, taskHolds_set_self at_pc, taskHolds_iff at_pc,
      before, after]
    simp [eq_comm]
  · rintro other (_ | ⟨role, k⟩ | slot | _) notSource notTarget
    · rfl
    · refine taskHolds_set_elsewhere at_pc ?_ ?_
      · intro index holds
        cases before.symm.trans holds
        rintro rfl
        exact notSource rfl
      · intro index holds
        cases after.symm.trans holds
        rintro rfl
        exact notTarget rfl
    · rfl
    · rfl

theorem Owned.allocate (owned : Owned width capacity channel) {handle : Option Nat}
    {blocking : Bool}
    (at_pc : channel.tasks[i]? = some ⟨handle, .allocating blocking⟩)
    (free : idx ∈ channel.core.indices) :
    Owned width capacity
      { channel.goto i handle (.permit idx) with
        core := { channel.core with indices := channel.core.indices.erase idx } } := by
  refine ⟨owned.nodup.erase idx, owned.places.move .free
    (.held .sending i) free (by simp) ?_ ?_ ?_⟩
  · intro other
    change other ∈ channel.core.indices.erase idx ↔ _
    rw [owned.nodup.mem_erase_iff, and_comm]
    rfl
  · intro other
    simp only [Holds, Channel.goto, taskHolds_set_self at_pc, taskHolds_iff at_pc]
    simp [Pc.holding, eq_comm]
  · rintro other (_ | ⟨role, k⟩ | slot | _) notSource notTarget
    · exact absurd rfl notSource
    · refine taskHolds_set_elsewhere at_pc (fun holds => by cases holds) ?_
      intro index holds
      cases holds
      rintro rfl
      exact notTarget rfl
    · rfl
    · rfl

theorem Owned.free (owned : Owned width capacity channel) {handle : Option Nat}
    {fromReceiver : Bool}
    (at_pc : channel.tasks[i]? = some ⟨handle, .freeing fromReceiver idx⟩) :
    Owned width capacity
      { channel.goto i handle .freed with
        core := { channel.core with indices := idx :: channel.core.indices } } := by
  obtain ⟨role, before⟩ : ∃ role,
      (Pc.freeing fromReceiver idx : Pc E).holding = some (role, idx) := by
    cases fromReceiver <;> exact ⟨_, rfl⟩
  have held : TaskHolds channel.tasks i role idx := (taskHolds_iff at_pc).mpr before
  have absent : idx ∉ channel.core.indices := by
    intro free
    have found : Holds width channel idx .free := free
    cases owned.held_unique held found
  refine ⟨List.nodup_cons.mpr ⟨absent, owned.nodup⟩,
    owned.places.move (.held role i) .free held (by simp)
      ?_ ?_ ?_⟩
  · intro other
    simp only [Holds, Channel.goto, taskHolds_set_self at_pc, taskHolds_iff at_pc,
      before]
    simp [Pc.holding, eq_comm]
  · intro other
    change other ∈ idx :: channel.core.indices ↔ _
    rw [List.mem_cons, or_comm]
    rfl
  · rintro other (_ | ⟨role', k⟩ | slot | _) notSource notTarget
    · exact absurd rfl notTarget
    · refine taskHolds_set_elsewhere at_pc ?_ (fun holds => by cases holds)
      intro index holds
      cases before.symm.trans holds
      rintro rfl
      exact notSource rfl
    · rfl
    · rfl

end Moves

/-- The slot store of `commit_send` moves the index from the task into the
slot of its ticket. -/
theorem Owned.store (owned : Owned width capacity channel)
    (inv : RingInv width ledger channel) {i idx : Nat} {handle : Option Nat}
    {pos : UInt16} (at_pc : channel.tasks[i]? = some ⟨handle, .storing idx pos⟩) :
    Owned width capacity
      { channel.goto i handle .waking with
        core := { channel.core with
          queue := Function.update channel.core.queue (slotOf width pos)
            (UInt16.ofNat idx ||| (pos + 1) <<< posShift width) } } := by
  obtain ⟨ticket, message, low, frontLe, issued, unpublished, lowLt, posEq⟩ :=
    inv.tasks i _ at_pc
  have held := inv.tickets (Nat.le_trans (Nat.le_add_right _ _) frontLe) issued
  obtain ⟨vacantLow, vacantLt, at_slot⟩ := held.pending unpublished
  have slotEq : slotOf width pos = ticket % maxCapacity width := by
    rw [posEq, slotOf_word lowLt]
  have valueEq : UInt16.ofNat idx ||| (pos + 1) <<< posShift width =
      word width (ticket + 1) idx := by
    rw [posEq, or_shift_add_one lowLt held.index_lt]
  have notReleasing : channel.rx.releasingSlot width ≠
      some (ticket % maxCapacity width) := by
    intro releasing
    obtain ⟨head, val, at_rx, slot⟩ := inv.releasingSlot_eq releasing
    have inside := (List.getElem?_eq_some_iff.mp issued).1
    have window := inv.window
    have claimed : channel.rx.claimed = 1 := by rw [at_rx]; rfl
    exact slot_ne (by omega) (by omega) (by omega) slot
  refine ⟨owned.nodup, owned.places.move (.held .sending i)
    (.queued (ticket % maxCapacity width)) ⟨_, at_pc, rfl⟩ (by simp)
    ?_ ?_ ?_⟩
  · intro other
    simp only [Holds, Channel.goto, taskHolds_set_self at_pc, taskHolds_iff at_pc]
    simp [Pc.holding, eq_comm]
  · intro other
    have emptyBefore : ¬ Queued width channel (ticket % maxCapacity width) :=
      fun queued => not_filled_of_word vacantLt at_slot queued.2.1
    have stored : Function.update channel.core.queue (slotOf width pos)
        (UInt16.ofNat idx ||| (pos + 1) <<< posShift width)
        (ticket % maxCapacity width) = word width (ticket + 1) idx := by
      rw [slotEq, valueEq, Function.update_self]
    simp only [Holds, emptyBefore, false_and, false_or]
    constructor
    · rintro ⟨_, indexEq⟩
      exact indexEq.symm.trans (index_of_word held.index_lt stored)
    · rintro rfl
      exact ⟨⟨Nat.mod_lt _ (maxCapacity_pos width),
        filled_of_word held.index_lt stored, notReleasing⟩,
        index_of_word held.index_lt stored⟩
  · rintro other (_ | ⟨role, k⟩ | slot | _) notSource notTarget
    · rfl
    · refine taskHolds_set_elsewhere at_pc ?_ (fun holds => by cases holds)
      intro index holds
      cases holds
      rintro rfl
      exact notSource rfl
    · have ne : slot ≠ slotOf width pos := by
        rw [slotEq]
        rintro rfl
        exact notTarget rfl
      exact holds_queued_congr (Function.update_of_ne ne _ _) Iff.rfl
    · rfl

/-- A successful compare-exchange on `dequeue_pos` moves the index of the front
ticket from its slot to the receiver. -/
theorem Owned.dequeueWon (owned : Owned width capacity channel)
    (inv : RingInv width ledger channel) {head val : UInt16}
    (at_rx : channel.rx = .claiming head val) :
    Owned width capacity
      { channel with
        core := { channel.core with dequeuePos := head + posOne width }
        rx := .releasing head val } := by
  have atFront : AtFront width ledger head val := inv.receiver at_rx
  obtain ⟨key, idx, message, issued, published, valEq⟩ := atFront.ready
  have held := inv.tickets (Nat.le_refl _) issued
  have at_slot : channel.core.queue (ledger.taken % maxCapacity width) =
      word width (ledger.taken + 1) idx := held.stored published
  have indexEq := index_of_word held.index_lt valEq
  have slotIndex := index_of_word held.index_lt at_slot
  have releasing : (RxPc.releasing head val).releasingSlot width =
      some (ledger.taken % maxCapacity width) := by
    simp only [RxPc.releasingSlot, RxPc.holding, Option.map_some]
    rw [atFront.slot_eq]
  have idle : channel.rx.releasingSlot width = none := by rw [at_rx]; rfl
  refine ⟨owned.nodup, owned.places.move
    (.queued (ledger.taken % maxCapacity width)) .dequeued
    ⟨⟨Nat.mod_lt _ (maxCapacity_pos width), filled_of_word held.index_lt at_slot, ?_⟩,
      slotIndex⟩ (by simp) ?_ ?_ ?_⟩
  · simp [idle]
  · intro other
    constructor
    · rintro ⟨⟨_, _, notReleasing⟩, _⟩
      exact absurd releasing notReleasing
    · rintro ⟨⟨_, found⟩, ne⟩
      exact absurd (found.symm.trans slotIndex) ne
  · intro other
    constructor
    · rintro ⟨head', val', holding, found⟩
      cases holding
      exact .inr (found.symm.trans indexEq)
    · rintro (⟨head', val', holding, _⟩ | rfl)
      · rw [at_rx] at holding
        cases holding
      · exact ⟨head, val, rfl, indexEq⟩
  · rintro other (_ | ⟨role, k⟩ | slot | _) notSource notTarget
    · rfl
    · rfl
    · refine holds_queued_congr rfl ?_
      rw [releasing, idle]
      simp only [Option.some.injEq, reduceCtorEq, iff_false]
      rintro rfl
      exact notSource rfl
    · exact absurd rfl notTarget

/-- The slot store of `try_dequeue` moves the index from the receiver to the
reservation that it returns. -/
theorem Owned.release (owned : Owned width capacity channel)
    (inv : RingInv width ledger channel) {head val : UInt16}
    (at_rx : channel.rx = .releasing head val) :
    Owned width capacity
      { channel.spawn ⟨none, .received (val &&& mask width).toNat⟩ with
        core := { channel.core with
          queue := Function.update channel.core.queue
            (slotOf width (head >>> posShift width)) (val + lapOne width) }
        rx := .idle } := by
  have atFront : AtFront width ledger head val := inv.receiver at_rx
  obtain ⟨key, idx, message, issued, published, valEq⟩ := atFront.ready
  have held := inv.tickets (Nat.le_refl _) issued
  have slotEq := atFront.slot_eq
  have releasing : channel.rx.releasingSlot width =
      some (ledger.taken % maxCapacity width) := by
    simp only [at_rx, RxPc.releasingSlot, RxPc.holding, Option.map_some, slotEq]
  have dequeued (other : Nat) : Holds width channel other .dequeued ↔
      other = (val &&& mask width).toNat := by
    simp [Holds, at_rx, RxPc.holding, eq_comm]
  have absent (role : Role) (other : Nat) :
      ¬ TaskHolds channel.tasks channel.tasks.length role other :=
    fun found => Nat.lt_irrefl _ (TaskAt.lt_length found)
  refine ⟨owned.nodup, owned.places.move .dequeued
    (.held .received channel.tasks.length) ((dequeued _).mpr rfl) (by simp)
    ?_ ?_ ?_⟩
  · intro other
    rw [dequeued]
    simp [Holds, RxPc.holding]
  · intro other
    simp only [Holds, Channel.spawn, taskHolds_append, absent, Pc.holding]
    simp [eq_comm]
  · rintro other (_ | ⟨role, k⟩ | slot | _) notSource notTarget
    · rfl
    · simp only [Holds, Channel.spawn, taskHolds_append, or_iff_left_iff_imp]
      rintro ⟨rfl, holds⟩
      cases holds
      exact absurd rfl notTarget
    · by_cases same : slot = ledger.taken % maxCapacity width
      · subst same
        have stored : Function.update channel.core.queue
            (slotOf width (head >>> posShift width)) (val + lapOne width)
            ((ledger.taken + maxCapacity width) % maxCapacity width) =
              word width (ledger.taken + maxCapacity width) idx := by
          rw [Nat.add_mod_right, slotEq, Function.update_self, valEq,
            word_add_lapOne held.index_lt]
        constructor
        · rintro ⟨⟨_, filled, _⟩, _⟩
          rw [← Nat.add_mod_right] at filled
          exact absurd filled (not_filled_of_word held.index_lt stored)
        · rintro ⟨⟨_, _, notReleasing⟩, _⟩
          exact absurd releasing notReleasing
      · refine holds_queued_congr (Function.update_of_ne (slotEq ▸ same) _ _) ?_
        rw [releasing]
        simp [RxPc.releasingSlot, RxPc.holding, Ne.symm same]
    · exact absurd rfl notSource

theorem Owned.transition {events : List (Event T E)}
    (owned : Owned width capacity channel) (inv : RingInv width ledger channel)
    (transition : Transition width channel events next) :
    Owned width capacity next := by
  cases transition with
  | call called =>
      refine owned.frame rfl rfl rfl fun _ _ _ => taskHolds_append_none ?_
      cases called <;> rfl
  | cloneTx | write => exact owned.frame rfl rfl rfl fun _ _ _ => Iff.rfl
  | dropTx => exact owned.frame rfl rfl rfl fun _ _ _ => taskHolds_append_none rfl
  | dropRx idle =>
      exact owned.frame rfl rfl (by rw [idle]; rfl) fun _ _ _ =>
        taskHolds_append_none rfl
  | taskLocal at_pc move =>
      rcases move.holding with same | ⟨idx, before, after⟩
      · exact owned.frame rfl rfl rfl fun _ _ _ => taskHolds_set_same at_pc same
      · exact owned.retire at_pc before after
  | taskState at_pc move =>
      obtain ⟨_, _, indices, queue⟩ := move.queue_unchanged
      exact owned.frame indices queue rfl fun _ _ _ =>
        taskHolds_set_same at_pc move.holding
  | allocate at_pc free => exact owned.allocate at_pc free
  | free at_pc => exact owned.free at_pc
  | commitWon at_pc | closeRx at_pc | closeTx at_pc =>
      exact owned.frame rfl rfl rfl fun _ _ _ => taskHolds_set_same at_pc rfl
  | store at_pc => exact owned.store inv at_pc
  | rxLocal at_rx move =>
      exact owned.frame rfl rfl (at_rx ▸ move.holding) fun _ _ _ => Iff.rfl
  | dequeueWon at_rx => exact owned.dequeueWon inv at_rx
  | release at_rx => exact owned.release inv at_rx

/-- The history has been replayed as a ledger that the words of the channel
represent, and every index has its place. -/
def Represents (width : PointerWidth) (capacity : Nat) (history : List (Event T E))
    (channel : Channel T E) : Prop :=
  ∃ ledger, TicketQueue.Replays (ledgerOps history) ledger ∧
    RingInv width ledger channel ∧ Owned width capacity channel

theorem represents_new :
    Represents width capacity [] (Channel.new width capacity : Channel T E) :=
  ⟨_, .empty, ringInv_new, owned_new⟩

theorem Represents.transition {history events : List (Event T E)}
    (represents : Represents width capacity history channel)
    (capacityLe : capacity ≤ maxCapacity width)
    (transition : Transition width channel events next) :
    Represents width capacity (history ++ events) next := by
  obtain ⟨ledger, replays, inv, owned⟩ := represents
  obtain ⟨after, advance, afterInv⟩ :=
    inv.transition replays owned capacityLe transition
  refine ⟨after, ?_, afterInv, owned.transition inv transition⟩
  rw [ledgerOps, List.filterMap_append]
  exact replays.advance advance

theorem represents_run {admits : Channel T E → Action T E → Prop}
    {history : List (Event T E)} (capacityLe : capacity ≤ maxCapacity width)
    (run : Run (step width) admits (Channel.new width capacity) history channel) :
    Represents width capacity history channel :=
  run.invariant (Represents width capacity) represents_new fun holds _ stepTo =>
    holds.transition capacityLe (step_transition stepTo)

section Counting

instance (width : PointerWidth) (channel : Channel T E) (slot : Nat) :
    Decidable (Queued width channel slot) :=
  inferInstanceAs (Decidable (_ ∧ slotOf width (_ >>> posShift width) = _ ∧ _ ≠ _))

def roleAt (tasks : List (Task E)) (i : Nat) : Option Role :=
  (tasks[i]?.bind fun task => task.pc.holding).map Prod.fst

theorem roleAt_eq_some {tasks : List (Task E)} {i : Nat} {role : Role} :
    roleAt tasks i = some role ↔ ∃ idx, TaskHolds tasks i role idx := by
  cases at_i : tasks[i]? <;> simp [roleAt, TaskHolds, TaskAt, at_i]

/-- The tasks that hold an index in a role. -/
def Channel.holders (channel : Channel T E) (role : Role) : List Nat :=
  (List.range channel.tasks.length).filter fun i => roleAt channel.tasks i = some role

/-- The slots whose index waits to be dequeued. -/
def Channel.queuedSlots (width : PointerWidth) (channel : Channel T E) : List Nat :=
  (List.range (maxCapacity width)).filter fun slot => Queued width channel slot

/-- The places of the indices that are reserved, queued or held by the
receiver. -/
def Channel.occupied (width : PointerWidth) (channel : Channel T E) : List Place :=
  (channel.holders .sending).map (.held .sending) ++
    (channel.queuedSlots width).map .queued ++
    (channel.holders .received).map (.held .received) ++
    List.replicate channel.rx.claimed .dequeued

theorem Channel.occupied_nodup (channel : Channel T E) :
    (channel.occupied width).Nodup := by
  have held (role : Role) : ((channel.holders role).map (Place.held role)).Nodup :=
    (List.nodup_range.filter _).map fun _ _ equal => by cases equal; rfl
  have queued : ((channel.queuedSlots width).map Place.queued).Nodup :=
    (List.nodup_range.filter _).map fun _ _ equal => by cases equal; rfl
  have one : (List.replicate channel.rx.claimed Place.dequeued).Nodup :=
    List.nodup_replicate.mpr channel.rx.claimed_le_one
  refine ((((held .sending).append queued ?_).append (held .received) ?_).append one ?_)
  all_goals
    intro place first second
    simp only [List.mem_append, List.mem_map, List.mem_replicate] at first second
    grind

theorem Channel.occupied_holds {channel : Channel T E} {place : Place}
    (member : place ∈ channel.occupied width) : ∃ idx, Holds width channel idx place := by
  have held {role : Role} {i : Nat} (member : i ∈ channel.holders role) :
      ∃ idx, TaskHolds channel.tasks i role idx :=
    roleAt_eq_some.mp (by simpa using (List.mem_filter.mp member).2)
  simp only [Channel.occupied, List.mem_append, List.mem_map, List.mem_replicate]
    at member
  rcases member with ((⟨i, member, rfl⟩ | ⟨slot, member, rfl⟩) | ⟨i, member, rfl⟩) |
    ⟨claimed, rfl⟩
  · exact held member
  · exact ⟨_, by simpa using (List.mem_filter.mp member).2, rfl⟩
  · exact held member
  · obtain ⟨head, val, at_rx⟩ := RxPc.claimed_pos (Nat.pos_of_ne_zero claimed)
    exact ⟨_, head, val, by rw [at_rx]; rfl, rfl⟩

theorem Owned.occupied_le (owned : Owned width capacity channel) :
    (channel.occupied width).length ≤ capacity := by
  rw [← List.toFinset_card_of_nodup channel.occupied_nodup]
  refine owned.places.card_le _ id (Set.injOn_id _) fun place member => ?_
  exact Channel.occupied_holds (List.mem_toFinset.mp member)

end Counting

/-- An index left behind by a failed `commit_send` is never used again. -/
theorem Transition.retired_stays {events : List (Event T E)} {i idx : Nat}
    (transition : Transition width channel events next)
    (retired : TaskHolds channel.tasks i .retired idx) :
    TaskHolds next.tasks i .retired idx := by
  have stays {k : Nat} {old new : Task E} (at_k : channel.tasks[k]? = some old)
      (moves : old.pc.holding ≠ some (.retired, idx)) :
      TaskHolds (channel.tasks.set k new) i .retired idx := by
    have ne : k ≠ i := by
      rintro rfl
      exact moves ((taskHolds_iff at_k).mp retired)
    exact (taskHolds_set_ne ne).mpr retired
  cases transition with
  | call | dropTx | dropRx | release => exact taskHolds_append.mpr (.inl retired)
  | cloneTx | write | rxLocal | dequeueWon => exact retired
  | taskLocal at_pc move => exact stays at_pc (by cases move <;> simp [Pc.holding])
  | taskState at_pc move => exact stays at_pc (by cases move <;> simp [Pc.holding])
  | allocate at_pc | commitWon at_pc | store at_pc | closeRx at_pc | closeTx at_pc =>
      exact stays at_pc (by simp [Pc.holding])
  | @free _ _ fromReceiver _ at_pc =>
      exact stays at_pc (by cases fromReceiver <;> simp [Pc.holding])

/-- In every state that a channel reaches, each element index is in exactly one
place.  So no two reservations share a cell, what is reserved, queued and held
never exceeds the capacity, and a retired index stays retired. -/
theorem index_in_one_place {history : List (Event T E)} {final : Channel T E}
    (capacityLe : capacity ≤ maxCapacity width)
    (run : Run (step width) anyStep (Channel.new width capacity) history final) :
    (∀ idx, idx < capacity → ∃! place, Holds width final idx place) ∧
    (∀ idx place, Holds width final idx place → idx < capacity) ∧
    (∀ i j idx role, TaskHolds final.tasks i .sending idx →
      TaskHolds final.tasks j role idx → j = i ∧ role = .sending) ∧
    (final.holders .sending).length + (final.queuedSlots width).length +
      (final.holders .received).length + final.rx.claimed ≤ capacity ∧
    ∀ later last i idx, Run (step width) anyStep final later last →
      TaskHolds final.tasks i .retired idx → TaskHolds last.tasks i .retired idx := by
  obtain ⟨ledger, _, _, owned⟩ := represents_run capacityLe run
  refine ⟨fun idx => owned.places.placed, fun idx place => owned.places.isValid, ?_,
    ?_, ?_⟩
  · intro i j idx role sending held
    have found : Holds width final idx (.held role j) := held
    cases owned.held_unique sending found
    exact ⟨rfl, rfl⟩
  · have bound := owned.occupied_le
    simpa [Channel.occupied, Nat.add_assoc] using bound
  · intro later last i idx after retired
    exact after.stateInvariant
      (fun channel : Channel T E => TaskHolds channel.tasks i .retired idx)
      retired fun holds _ stepTo => (step_transition stepTo).retired_stays holds

/-- One index queued in the first slot while another is reserved. -/
theorem index_in_one_place_queued :
    ∃ final : Channel Nat Nat, final.queuedSlots .bits32 = [0] ∧
      final.holders .sending = [1] ∧
      ∀ idx, idx < 2 → ∃! place, Holds .bits32 final idx place := by
  obtain ⟨history, final, run, seen⟩ :=
    exists_run_of_exec (step .bits32) anyStep (Channel.new .bits32 2 : Channel Nat Nat)
      [.reserve 0 false, .run 0, .allocate 0 1, .write 0 7, .commit 0, .run 0, .run 0,
        .run 0, .run 0, .reserve 0 false, .run 1, .allocate 1 0]
      (fun reached => (reached.1.queuedSlots .bits32, reached.1.holders .sending))
      (show _ = some ([0], [1]) by decide +kernel)
  obtain ⟨queued, sending⟩ := Prod.mk.injEq .. ▸ seen
  exact ⟨final, queued, sending, (index_in_one_place (by decide) run).1⟩

end ChannelCore

end Mgnp
