import Mgnp.ConnTable
import Mgnp.ExceptRules
import Mgnp.LabelledRuns
import Mgnp.ThreadedFreeList

/-!
# The free list of the connection table

The closed entries of a table form a threaded free list whose head is `next_id`
and whose boundary is the first unused entry, and `len` counts the occupied
entries.  While the capacity leaves one id unused, every operation keeps this
and none of them panics.
-/

namespace Mgnp

namespace Calliope

open ThreadedFreeList ExceptRules LabelledRuns

def Entry.slot : Entry → Slot
  | .unused => .fresh
  | .closed next => .free next.toIndex
  | .occupied _ => .taken

namespace ConnTable

variable {capacity : Nat} {table : ConnTable capacity}

/-- The table as an array of slots.  Indices past the end count as fresh. -/
def slot (table : ConnTable capacity) (index : Nat) : Slot :=
  match table.conns[index]? with
  | none => .fresh
  | some entry => entry.slot

def occupiedCount (table : ConnTable capacity) : Nat :=
  table.conns.countP fun entry => entry.socket.isSome

/-- The representation invariant. -/
structure Represented (table : ConnTable capacity) : Prop where
  len_eq : table.len = table.occupiedCount
  freeList : ∃ chain bound, bound ≤ capacity ∧
    WellFormed table.slot table.nextId.toIndex chain bound

theorem slot_of_entry {id : Id} {entry : Entry} (found : table.entry id = some entry) :
    table.slot id.toIndex = entry.slot := by
  unfold ConnTable.entry at found
  simp [slot, found]

theorem slot_beyond {index : Nat} (beyond : capacity ≤ index) :
    table.slot index = .fresh := by
  simp [slot, beyond]

theorem entry_eq_some_lt {id : Id} {entry : Entry} (found : table.entry id = some entry) :
    id.toIndex < capacity := by
  unfold ConnTable.entry at found
  by_contra outside
  simp [outside] at found

theorem exists_entry (table : ConnTable capacity) {id : Id} (inRange : id.toIndex < capacity) :
    ∃ entry, table.entry id = some entry :=
  ⟨_, Vector.getElem?_eq_getElem inRange⟩

theorem slot_setEntry {id : Id} (inRange : id.toIndex < capacity) (new : Entry) :
    (table.setEntry id new).slot = Function.update table.slot id.toIndex new.slot := by
  ext1 index
  unfold slot setEntry
  by_cases same : index = id.toIndex
  · subst same
    simp [inRange]
  · rw [Function.update_of_ne same]
    simp [Ne.symm same]

/-- Overwriting an entry changes the number of occupied ones by that entry. -/
theorem occupiedCount_setEntry {id : Id} {old : Entry} (found : table.entry id = some old)
    (new : Entry) :
    (table.setEntry id new).occupiedCount + (if old.socket.isSome then 1 else 0) =
      table.occupiedCount + (if new.socket.isSome then 1 else 0) := by
  have inRange := entry_eq_some_lt found
  have entryAt : table.conns[id.toIndex] = old := by
    simpa [ConnTable.entry, inRange] using found
  have counted : old.socket.isSome = true → 0 < table.occupiedCount := by
    intro isOccupied
    apply Vector.countP_pos_iff.mpr
    exact ⟨old, entryAt ▸ Vector.getElem_mem inRange, isOccupied⟩
  have updated : (table.setEntry id new).occupiedCount =
      table.occupiedCount - (if old.socket.isSome then 1 else 0) +
        (if new.socket.isSome then 1 else 0) := by
    have inBounds : table.conns.setIfInBounds id.toIndex new =
        table.conns.set id.toIndex new := by
      simp [Vector.setIfInBounds, Vector.set, Array.setIfInBounds, inRange]
    unfold occupiedCount setEntry
    rw [inBounds, Vector.countP_set inRange, entryAt]
  split at updated <;> split <;> grind

theorem Represented.new (capacity : Nat) : Represented (ConnTable.new capacity) where
  len_eq := by
    simp [occupiedCount, ConnTable.new, Vector.countP_replicate]
  freeList := by
    refine ⟨[], 0, Nat.zero_le _, WellFormed.initial.congr ?_⟩
    intro index
    by_cases inRange : index < capacity
    · simp [slot, ConnTable.new, inRange, Entry.slot]
    · exact slot_beyond (Nat.le_of_not_lt inRange)

theorem Represented.setDeadIndex (represented : Represented table) (dead : Option Id) :
    Represented { table with deadIndex := dead } :=
  ⟨represented.len_eq, represented.freeList⟩

/-- Exchanging a socket keeps the free list. -/
theorem Represented.setSocket {id : Id} {old : Socket} (represented : Represented table)
    (found : table.entry id = some (.occupied old)) (new : Socket) :
    Represented (table.setEntry id (.occupied new)) where
  len_eq := by
    have counted := occupiedCount_setEntry found (.occupied new)
    simp only [Entry.socket_occupied, Option.isSome_some, if_true] at counted
    have := represented.len_eq
    simp only [setEntry] at counted ⊢
    omega
  freeList := by
    obtain ⟨chain, bound, inBound, wellFormed⟩ := represented.freeList
    refine ⟨chain, bound, inBound, wellFormed.congr ?_⟩
    intro index
    rw [slot_setEntry (entry_eq_some_lt found)]
    by_cases same : index = id.toIndex
    · subst same
      rw [Function.update_self, slot_of_entry found]
      rfl
    · rw [Function.update_of_ne same]

/-- `remove` puts the entry in front of the free list. -/
theorem Represented.remove (represented : Represented table) (id : Id) :
    Returns (table.remove id) fun result => Represented result.1 := by
  unfold ConnTable.remove
  cases found : table.entry id with
  | none => exact returns_ok.mpr represented
  | some entry =>
      cases entry with
      | unused => exact returns_ok.mpr represented
      | closed next => exact returns_ok.mpr represented
      | occupied socket =>
          have counted := occupiedCount_setEntry found (.closed table.nextId)
          simp only [Entry.socket_occupied, Entry.socket_closed, Option.isSome_some,
            Option.isSome_none, if_true, Bool.false_eq_true, if_false] at counted
          have lenEq := represented.len_eq
          obtain ⟨chain, bound, inBound, wellFormed⟩ := represented.freeList
          dsimp only
          rw [if_neg (by omega), returns_ok]
          constructor
          · change table.len - 1 = (table.setEntry id (.closed table.nextId)).occupiedCount
            omega
          · refine ⟨id.toIndex :: chain, bound, inBound, ?_⟩
            change WellFormed (table.setEntry id (.closed table.nextId)).slot _ _ _
            rw [slot_setEntry (entry_eq_some_lt found)]
            exact wellFormed.release (slot_of_entry found)

/-- An id is handed out as long as some entry is not occupied. -/
theorem Represented.reserveId_eq_none_iff (represented : Represented table) :
    table.reserveId = none ↔
      ∀ entry ∈ table.conns, ∃ socket, entry = .occupied socket := by
  have full : table.reserveId = none ↔ table.occupiedCount = capacity := by
    unfold reserveId
    rw [represented.len_eq]
    split <;> simp [*]
  rw [full]
  unfold occupiedCount
  rw [Vector.countP_eq_size]
  apply forall₂_congr
  intro entry _
  cases entry <;> simp

/-- The id handed out names an entry of the table that is not occupied. -/
theorem Represented.reserveId_eq_some {id : Id} (represented : Represented table)
    (reserved : table.reserveId = some id) :
    id.toIndex < capacity ∧ table.slot id.toIndex ≠ .taken := by
  obtain ⟨chain, bound, -, wellFormed⟩ := represented.freeList
  have available : ¬ ∀ entry ∈ table.conns, ∃ socket, entry = .occupied socket := by
    rw [← represented.reserveId_eq_none_iff, reserved]
    simp
  push Not at available
  obtain ⟨entry, member, notOccupied⟩ := available
  obtain ⟨index, inRange, rfl⟩ := Vector.getElem_of_mem member
  have notTaken : table.slot index ≠ .taken := by
    cases entryEq : table.conns[index] <;> simp_all [slot, Entry.slot]
  have isHead : id = table.nextId := by
    unfold reserveId at reserved
    split at reserved <;> simp_all
  subst isHead
  exact ⟨wellFormed.head_lt (fun _ => slot_beyond) inRange notTaken,
    wellFormed.head_ne_taken⟩

/-- `insert_at` finds a free entry and a next id for every id handed out. -/
theorem Represented.insertAt {id : Id} (represented : Represented table)
    (small : capacity < 2 ^ 16 - 1) (reserved : table.reserveId = some id)
    (socket : Socket) :
    Returns (table.insertAt id socket) Represented := by
  obtain ⟨inRange, notTaken⟩ := represented.reserveId_eq_some reserved
  obtain ⟨entry, found⟩ := exists_entry table inRange
  obtain ⟨chain, bound, inBound, wellFormed⟩ := represented.freeList
  obtain rfl : id = table.nextId := by
    unfold reserveId at reserved
    split at reserved <;> simp_all
  have lenEq := represented.len_eq
  have counted := occupiedCount_setEntry found (.occupied socket)
  have slotEq := slot_of_entry found
  -- The new free list differs between the two kinds of free entries.
  have inserted : ∀ (next : Id) (chain : List Nat) (bound : Nat),
      entry.socket = none → bound ≤ capacity →
      WellFormed (Function.update table.slot table.nextId.toIndex .taken)
        next.toIndex chain bound →
      Represented { table.setEntry table.nextId (.occupied socket) with
        nextId := next
        len := table.len + 1 } := by
    intro next chain bound wasFree inBound wellFormed
    simp only [wasFree, Entry.socket_occupied, Option.isSome_some, Option.isSome_none,
      if_true, Bool.false_eq_true, if_false] at counted
    constructor
    · change table.len + 1 = (table.setEntry table.nextId (.occupied socket)).occupiedCount
      omega
    · refine ⟨chain, bound, inBound, ?_⟩
      change WellFormed (table.setEntry table.nextId (.occupied socket)).slot _ _ _
      rw [slot_setEntry inRange]
      exact wellFormed
  unfold ConnTable.insertAt
  rw [found]
  cases entry with
  | unused =>
      obtain ⟨next, added, nextIndex⟩ := Id.checkedAdd_one table.nextId (by omega)
      have atBound := (wellFormed.fresh_iff _).mp slotEq
      have taken := wellFormed.takeFresh slotEq
      simp only [added, returns_ok]
      apply inserted next [] (bound + 1) rfl (by omega)
      rw [nextIndex]
      exact taken
  | closed next =>
      simp only [returns_ok]
      exact inserted next chain.tail bound rfl inBound (wellFormed.takeFree slotEq)
  | occupied old => exact absurd slotEq notTaken

section Operations

variable {locals : Locals} {build : Build}

theorem Represented.insert (represented : Represented table)
    (small : capacity < 2 ^ 16 - 1) (socket : Socket) :
    Returns (table.insert socket) fun result =>
      Represented result.1 ∧ result.2 = table.reserveId := by
  unfold ConnTable.insert
  cases reserved : table.reserveId with
  | none => exact returns_ok.mpr ⟨represented, rfl⟩
  | some id =>
      apply (represented.insertAt small reserved socket).bind
      intro inserted holds
      exact returns_pure.mpr ⟨holds, rfl⟩

theorem Represented.cleanupDead (represented : Represented table) :
    Returns table.cleanupDead fun result => Represented result.1 := by
  unfold ConnTable.cleanupDead
  cases table.deadIndex with
  | none => exact returns_ok.mpr represented
  | some id =>
      apply ((represented.setDeadIndex none).remove id).bind
      intro result holds
      exact returns_pure.mpr holds

/-- Every index the loop converts is an id in both builds. -/
theorem pollConns_returns (entries : List Entry) (idx : Nat)
    (small : idx + entries.length ≤ 2 ^ 16 - 1) :
    Returns (pollConns build locals entries idx) fun _ => True := by
  induction entries generalizing idx with
  | nil => exact returns_ok.mpr trivial
  | cons entry entries ih =>
      rw [List.length_cons] at small
      obtain ⟨localId, converted, -⟩ := Id.fromIndex_eq_ok build
        (show idx < 2 ^ 16 - 1 by omega)
      have rest := ih (idx + 1) (by omega)
      unfold pollConns
      split
      · split
        · rw [converted]
          exact returns_ok.mpr trivial
        · rw [converted]
          exact returns_ok.mpr trivial
        · exact rest
      · exact rest
      · exact rest

theorem Represented.nextOutbound (represented : Represented table)
    (small : capacity < 2 ^ 16 - 1) :
    Returns (table.nextOutbound build locals) fun outcome => Represented outcome.table := by
  unfold ConnTable.nextOutbound
  apply represented.cleanupDead.bind
  rintro ⟨cleaned, events⟩ holds
  apply (pollConns_returns cleaned.conns.toList 0 (by simp; omega)).bind
  rintro ready -
  split
  · exact returns_pure.mpr holds
  · exact returns_pure.mpr holds
  · exact returns_pure.mpr (holds.setDeadIndex _)

theorem Represented.startConnecting (represented : Represented table)
    (small : capacity < 2 ^ 16 - 1) (connect : OutboundConnect) :
    Returns (table.startConnecting locals connect)
      fun outcome => Represented outcome.table := by
  unfold ConnTable.startConnecting
  cases reserved : table.reserveId with
  | none => exact returns_ok.mpr represented
  | some id =>
      apply (represented.insertAt small reserved _).bind
      intro inserted holds
      exact returns_pure.mpr holds

theorem Represented.processData (represented : Represented table) (localId id : Id)
    (body : List UInt8) :
    Returns (table.processData locals localId id body)
      fun outcome => Represented outcome.table := by
  unfold ConnTable.processData
  split
  · exact returns_ok.mpr represented
  · split
    · exact returns_ok.mpr represented
    · split
      · exact returns_ok.mpr represented
      · apply (represented.remove id).bind
        intro result holds
        exact returns_pure.mpr holds
  · exact returns_ok.mpr represented

theorem Represented.processAck (represented : Represented table) (localId remoteId : Id) :
    Represented (table.processAck locals localId remoteId).table := by
  unfold ConnTable.processAck
  split
  · exact represented
  · rename_i rsp channel found
    dsimp only
    split
    · exact represented.setSocket found _
    · exact represented.setSocket found _
  · exact represented
  · exact represented
  · exact represented

theorem Represented.accept (represented : Represented table)
    (small : capacity < 2 ^ 16 - 1) (remoteId : Id) (channel : Nat) :
    Returns (table.accept remoteId channel) fun outcome => Represented outcome.table := by
  unfold ConnTable.accept
  apply (represented.insert small _).bind
  rintro ⟨inserted, id⟩ ⟨holds, -⟩
  cases id with
  | none => exact returns_pure.mpr holds
  | some localId => exact returns_pure.mpr holds

theorem Represented.processInbound (represented : Represented table)
    (small : capacity < 2 ^ 16 - 1) (channel : Nat) (frame : InboundFrame) :
    Returns (table.processInbound locals channel frame)
      fun outcome => Represented outcome.table := by
  unfold ConnTable.processInbound
  split
  · exact represented.processData _ _ _
  · exact returns_ok.mpr (represented.processAck _ _)
  · apply (represented.remove _).bind
    intro result holds
    exact returns_pure.mpr holds
  · apply (represented.remove _).bind
    intro result holds
    exact returns_pure.mpr holds
  · split
    · exact represented.accept small _ _
    · exact returns_ok.mpr represented

end Operations

end ConnTable

section Runs

variable {capacity : Nat} {build : Build}

/-- No operation on a well-formed table panics, and each keeps it well formed. -/
theorem Session.operation_returns (build : Build) {session : Session capacity}
    (represented : session.table.Represented) (small : capacity < 2 ^ 16 - 1)
    (action : Action) :
    Returns (session.operation build action) fun outcome => outcome.table.Represented := by
  cases action with
  | startConnecting locals identity hello => exact represented.startConnecting small _
  | processInbound locals frame => exact represented.processInbound small _ frame
  | nextOutbound locals => exact represented.nextOutbound small

/-- In every run of a table whose capacity leaves one id unused, the closed
entries form the free list, no operation panics, and an id is handed out unless
all entries are occupied, and then names an entry that is not. -/
theorem table_represented (small : capacity < 2 ^ 16 - 1)
    {history : List Event} {final : Session capacity}
    (run : Run (Session.step build) anyStep (Session.new capacity) history final) :
    final.panic = none ∧ final.table.Represented ∧
    (∀ id, final.table.reserveId = some id →
      1 ≤ id.value.toNat ∧ id.value.toNat ≤ capacity ∧
        ∀ socket, final.table.entry id ≠ some (.occupied socket)) ∧
    (final.table.reserveId = none ↔
      ∀ entry ∈ final.table.conns, ∃ socket, entry = .occupied socket) ∧
    ∀ socket, Returns (final.table.insert socket) fun result =>
      result.2 = final.table.reserveId := by
  have kept : final.panic = none ∧ final.table.Represented := by
    apply run.stateInvariant fun session => session.panic = none ∧ session.table.Represented
    · exact ⟨rfl, .new capacity⟩
    · intro events session next action invariant _ stepTo
      obtain ⟨outcome, operated, holds⟩ :=
        Session.operation_returns build invariant.2 small action
      rcases session.step_cases stepTo with ⟨message, failed, -⟩ | ⟨_, returned, rfl, -⟩
      · rw [operated] at failed
        contradiction
      · obtain rfl : outcome = _ := by
          simpa [operated] using returned
        exact ⟨rfl, holds⟩
  obtain ⟨noPanic, represented⟩ := kept
  refine ⟨noPanic, represented, ?_, represented.reserveId_eq_none_iff, ?_⟩
  · intro id reserved
    obtain ⟨inRange, notTaken⟩ := represented.reserveId_eq_some reserved
    have succ := id.toIndex_succ
    refine ⟨id.value_pos, by omega, ?_⟩
    intro socket found
    exact notTaken (ConnTable.slot_of_entry found)
  · intro socket
    exact (represented.insert small socket).mono fun _ holds => holds.2

/-- Two connections, one of which is reset before its id is used again. -/
theorem table_represented_reused :
    ∃ history final, Run (Session.step .debug) anyStep (Session.new 2) history final ∧
      final.table.Represented ∧ final.table.reserveId = none ∧
      .reset .first (some ⟨.connecting 0, 0⟩) ∈ history := by
  obtain ⟨history, final, run, observed⟩ :=
    exists_run_of_exec (Session.step .debug) anyStep (Session.new 2)
      [.startConnecting .quiet .sample [], .processInbound .quiet ⟨.connect .first .sample, []⟩,
        .processInbound .quiet ⟨.reset .first .goAway, []⟩,
        .startConnecting .quiet .sample []]
      (fun reached => (reached.1.table.reserveId,
        decide (.reset .first (some ⟨.connecting 0, 0⟩) ∈ reached.2)))
      (show _ = some (none, true) by decide +kernel)
  simp only [Prod.mk.injEq, decide_eq_true_eq] at observed
  exact ⟨history, final, run, (table_represented (by decide) run).2.1, observed.1, observed.2⟩

end Runs

end Calliope

end Mgnp
