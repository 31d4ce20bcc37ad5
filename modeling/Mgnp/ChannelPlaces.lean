import Mgnp.ChannelTasks
import Mgnp.UniquePlacement

/-!
# Where the element indices of a channel are

An index passes from the allocator to a send reservation, from there into a
slot of the queue, and from the slot over the receiver into a received
reservation, whose destructor frees it.  A `commit_send` that fails never runs
that destructor.  This file says which of these places holds an index, as far
as the words of the channel and the calls in progress tell.
-/

namespace Mgnp

namespace ChannelCore

open PositionWord

variable {T E : Type*} {width : PointerWidth} {capacity : Nat}

/-- On whose behalf a task holds an index. -/
inductive Role
  | sending
  | received
  /-- Left behind by a `commit_send` that did not succeed. -/
  | retired
  deriving DecidableEq

inductive Place
  | free
  | held (role : Role) (task : Nat)
  | queued (slot : Nat)
  /-- Dequeued by the receiver, which has not handed the slot on yet. -/
  | dequeued
  deriving DecidableEq

/-- The index that a call or reservation holds. -/
def Pc.holding : Pc E → Option (Role × Nat)
  | .permit idx | .committing idx | .examining idx _ | .claiming idx _
  | .commitClosed idx | .storing idx _ | .freeing false idx =>
      some (.sending, idx)
  | .received idx | .freeing true idx => some (.received, idx)
  | .retired idx => some (.retired, idx)
  | _ => none

/-- The position and slot words of a dequeue that has won its
compare-exchange. -/
def RxPc.holding : RxPc → Option (UInt16 × UInt16)
  | .releasing head val => some (head, val)
  | _ => none

def TaskHolds (tasks : List (Task E)) (i : Nat) (role : Role) (idx : Nat) : Prop :=
  TaskAt tasks i fun pc => pc.holding = some (role, idx)

/-- A slot holds a committed index when its sequence number is that of the
next position. -/
def Core.Filled (width : PointerWidth) (core : Core E) (slot : Nat) : Prop :=
  slotOf width (core.queue slot >>> posShift width) = (slot + 1) % maxCapacity width

/-- The slot that the receiver is about to hand on to the next lap. -/
def RxPc.releasingSlot (width : PointerWidth) (rx : RxPc) : Option Nat :=
  rx.holding.map fun words => slotOf width (words.1 >>> posShift width)

/-- A slot of the queue whose index has been committed and not dequeued. -/
def Queued (width : PointerWidth) (channel : Channel T E) (slot : Nat) : Prop :=
  slot < maxCapacity width ∧ channel.core.Filled width slot ∧
    channel.rx.releasingSlot width ≠ some slot

/-- The index `idx` is found at a place. -/
def Holds (width : PointerWidth) (channel : Channel T E) (idx : Nat) : Place → Prop
  | .free => idx ∈ channel.core.indices
  | .held role i => TaskHolds channel.tasks i role idx
  | .queued slot => Queued width channel slot ∧
      (channel.core.queue slot &&& mask width).toNat = idx
  | .dequeued => ∃ head val, channel.rx.holding = some (head, val) ∧
      (val &&& mask width).toNat = idx

/-- Every index below the capacity is in exactly one place. -/
structure Owned (width : PointerWidth) (capacity : Nat)
    (channel : Channel T E) : Prop where
  nodup : channel.core.indices.Nodup
  places : UniquelyPlaced (Holds width channel) (· < capacity)

section Tasks

variable {tasks : List (Task E)} {i k idx : Nat} {role : Role} {old new : Task E}

theorem taskHolds_iff (at_k : tasks[k]? = some old) :
    TaskHolds tasks k role idx ↔ old.pc.holding = some (role, idx) :=
  taskAt_iff_of_pc at_k

theorem taskHolds_set_self (at_k : tasks[k]? = some old) :
    TaskHolds (tasks.set k new) k role idx ↔ new.pc.holding = some (role, idx) :=
  taskAt_set_self at_k

theorem taskHolds_set_ne (ne : k ≠ i) :
    TaskHolds (tasks.set k new) i role idx ↔ TaskHolds tasks i role idx :=
  taskAt_set_ne ne

/-- A move that keeps what the task holds changes nothing for anyone. -/
theorem taskHolds_set_same (at_k : tasks[k]? = some old)
    (same : new.pc.holding = old.pc.holding) :
    TaskHolds (tasks.set k new) i role idx ↔ TaskHolds tasks i role idx := by
  by_cases moves : k = i
  · subst moves
    rw [taskHolds_set_self at_k, taskHolds_iff at_k, same]
  · exact taskHolds_set_ne moves

theorem taskHolds_append :
    TaskHolds (tasks ++ [new]) i role idx ↔
      TaskHolds tasks i role idx ∨
        (i = tasks.length ∧ new.pc.holding = some (role, idx)) :=
  taskAt_append

theorem taskHolds_append_none (none : new.pc.holding = none) :
    TaskHolds (tasks ++ [new]) i role idx ↔ TaskHolds tasks i role idx := by
  simp [taskHolds_append, none]

theorem not_taskHolds_nil : ¬ TaskHolds ([] : List (Task E)) i role idx := by
  rintro ⟨task, at_i, _⟩
  cases at_i

/-- A task holds at most one index, in one role. -/
theorem TaskHolds.unique {role' : Role} {idx' : Nat}
    (first : TaskHolds tasks i role idx) (second : TaskHolds tasks i role' idx') :
    role = role' ∧ idx = idx' := by
  obtain ⟨task, at_i, holds⟩ := first
  have other := (taskHolds_iff at_i).mp second
  simpa using holds.symm.trans other

end Tasks

section Slots

variable {core : Core E} {slot seq low : Nat}

theorem slotOf_word (lowLt : low < maxCapacity width) :
    slotOf width (word width seq low >>> posShift width) = seq % maxCapacity width :=
  word_slot_toNat lowLt

/-- The initial slots have their own numbers as sequence numbers. -/
theorem initial_slot (slotLt : slot < maxCapacity width) :
    (Core.new width capacity : Core E).queue slot = word width slot 0 := by
  change UInt16.ofNat slot <<< posShift width = word width slot 0
  rw [← UInt16.toNat_inj, word_toNat (maxCapacity_pos width), UInt16.toNat_shiftLeft,
    UInt16.toNat_ofNat', Nat.shiftLeft_eq]
  cases width
  · rw [show (posShift .bits32).toNat % 16 = 5 from by decide]
    simp only [positions, maxCapacity] at *
    omega
  · rw [show (posShift .bits64).toNat % 16 = 6 from by decide]
    simp only [positions, maxCapacity] at *
    omega

theorem succ_mod_ne (slot : Nat) {capacity : Nat} (big : 1 < capacity) :
    slot % capacity ≠ (slot + 1) % capacity := by
  intro equal
  have dvd : capacity ∣ 1 := by
    have := (Nat.modEq_iff_dvd' (Nat.le_succ slot)).mp equal
    simpa using this
  exact absurd (Nat.le_of_dvd Nat.one_pos dvd) (Nat.not_le.mpr big)

/-- A slot that serves position `seq` and has not been stored is not filled. -/
theorem not_filled_of_word (lowLt : low < maxCapacity width)
    (at_slot : core.queue (seq % maxCapacity width) = word width seq low) :
    ¬ core.Filled width (seq % maxCapacity width) := by
  rw [Core.Filled, at_slot, slotOf_word lowLt, Nat.mod_add_mod]
  exact succ_mod_ne seq (one_lt_maxCapacity width)

theorem filled_of_word (lowLt : low < maxCapacity width)
    (at_slot : core.queue (seq % maxCapacity width) = word width (seq + 1) low) :
    core.Filled width (seq % maxCapacity width) := by
  rw [Core.Filled, at_slot, slotOf_word lowLt, Nat.mod_add_mod]

theorem index_of_word {bits : UInt16} {idx : Nat} (indexLt : idx < maxCapacity width)
    (bitsEq : bits = word width seq idx) : (bits &&& mask width).toNat = idx := by
  rw [bitsEq, word_and_mask_toNat indexLt]

end Slots

section Owned

variable {channel next : Channel T E}

/-- Places are told apart by the allocator, the queue, the receiver and what
the tasks hold. -/
theorem Owned.frame (owned : Owned width capacity channel)
    (indices : next.core.indices = channel.core.indices)
    (queue : next.core.queue = channel.core.queue)
    (rx : next.rx.holding = channel.rx.holding)
    (tasks : ∀ i role idx, TaskHolds next.tasks i role idx ↔
      TaskHolds channel.tasks i role idx) : Owned width capacity next := by
  refine ⟨indices ▸ owned.nodup, owned.places.congr ?_⟩
  rintro idx (_ | ⟨role, i⟩ | slot | _)
  · simp only [Holds, indices]
  · exact tasks i role idx
  · simp only [Holds, Queued, Core.Filled, RxPc.releasingSlot, queue, rx]
  · simp only [Holds, rx]

theorem owned_new :
    Owned width capacity (Channel.new width capacity : Channel T E) := by
  have unfilled {slot : Nat} (slotLt : slot < maxCapacity width) :
      ¬ (Core.new width capacity : Core E).Filled width slot := by
    have at_slot : (Core.new width capacity : Core E).queue
        (slot % maxCapacity width) = word width slot 0 := by
      rw [Nat.mod_eq_of_lt slotLt]
      exact initial_slot slotLt
    have unfilled := not_filled_of_word (maxCapacity_pos width) at_slot
    rwa [Nat.mod_eq_of_lt slotLt] at unfilled
  refine ⟨List.nodup_range, ?_, ?_⟩
  · rintro idx (_ | ⟨role, i⟩ | slot | _) found
    · exact List.mem_range.mp found
    · exact absurd found not_taskHolds_nil
    · exact absurd found.1.2.1 (unfilled found.1.1)
    · obtain ⟨head, val, holding, _⟩ := found
      cases holding
  · intro idx idxLt
    refine ⟨.free, List.mem_range.mpr idxLt, ?_⟩
    rintro (_ | ⟨role, i⟩ | slot | _) found
    · rfl
    · exact absurd found not_taskHolds_nil
    · exact absurd found.1.2.1 (unfilled found.1.1)
    · obtain ⟨head, val, holding, _⟩ := found
      cases holding

theorem Owned.held_lt (owned : Owned width capacity channel) {i idx : Nat}
    {role : Role} (held : TaskHolds channel.tasks i role idx) : idx < capacity := by
  have found : Holds width channel idx (.held role i) := held
  exact owned.places.isValid found

/-- An index found with a task is found nowhere else. -/
theorem Owned.held_unique (owned : Owned width capacity channel) {i idx : Nat}
    {role : Role} {place : Place} (held : TaskHolds channel.tasks i role idx)
    (found : Holds width channel idx place) : place = .held role i :=
  owned.places.place_unique found held

end Owned

end ChannelCore

end Mgnp
