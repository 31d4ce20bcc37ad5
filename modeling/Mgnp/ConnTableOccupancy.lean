import Mgnp.ConnTableFreeList

/-!
# How many sockets a table counts

`reserve_id` compares `len` with the capacity.  On a table of any size `len` is the number
of the entries that hold a socket, so an id is refused exactly when every entry holds one.
-/

namespace Mgnp

namespace Calliope

open ExceptRules

namespace ConnTable

variable {capacity : Nat} {table : ConnTable capacity} {build : Build} {locals : Locals}

/-- Every entry holds a socket. -/
def isFull (table : ConnTable capacity) : Bool :=
  table.conns.all fun entry => entry.socket.isSome

def Counted (table : ConnTable capacity) : Prop := table.len = table.occupiedCount

theorem Counted.new (capacity : Nat) : Counted (ConnTable.new capacity) := by
  simp [Counted, occupiedCount, ConnTable.new, Vector.countP_replicate]

theorem Counted.reserveId_eq_none_iff (counted : Counted table) :
    table.reserveId = none ↔ table.isFull = true := by
  have full : table.reserveId = none ↔ table.occupiedCount = capacity := by
    unfold reserveId
    rw [counted]
    split <;> simp [*]
  rw [full]
  unfold occupiedCount isFull
  rw [Vector.countP_eq_size, Vector.all_eq_true_iff_forall_mem]

theorem Counted.setSocket {id : Id} {old : Socket} (counted : Counted table)
    (found : table.entry id = some (.occupied old)) (new : Socket) :
    Counted (table.setEntry id (.occupied new)) := by
  have count := occupiedCount_setEntry found (.occupied new)
  simp only [Entry.socket_occupied, Option.isSome_some, if_true] at count
  unfold Counted at counted ⊢
  change table.len = _
  omega

theorem Counted.remove (counted : Counted table) (id : Id) :
    Ensures (table.remove id) fun result => Counted result.1 := by
  unfold ConnTable.remove
  cases found : table.entry id with
  | none => exact ensures_ok.mpr counted
  | some entry =>
      cases entry with
      | unused => exact ensures_ok.mpr counted
      | closed next => exact ensures_ok.mpr counted
      | occupied socket =>
          have count := occupiedCount_setEntry found (.closed table.nextId)
          simp only [Entry.socket_occupied, Entry.socket_closed, Option.isSome_some,
            Option.isSome_none, if_true, Bool.false_eq_true, if_false] at count
          unfold Counted at counted
          dsimp only
          split
          · exact ensures_error
          · rw [ensures_ok]
            change table.len - 1 = (table.setEntry id (.closed table.nextId)).occupiedCount
            omega

/-- An entry that takes a socket had none, or `insert_at` panics. -/
theorem Counted.insertAt (counted : Counted table) (id : Id) (socket : Socket) :
    Ensures (table.insertAt id socket) Counted := by
  have grown {entry : Entry} (next : Id) (found : table.entry id = some entry)
      (wasFree : entry.socket = none) :
      Counted { table.setEntry id (.occupied socket) with
        nextId := next
        len := table.len + 1 } := by
    have count := occupiedCount_setEntry found (.occupied socket)
    simp only [wasFree, Entry.socket_occupied, Option.isSome_some, Option.isSome_none,
      if_true, Bool.false_eq_true, if_false] at count
    unfold Counted at counted
    change table.len + 1 = (table.setEntry id (.occupied socket)).occupiedCount
    omega
  unfold ConnTable.insertAt
  cases found : table.entry id with
  | none => exact ensures_error
  | some entry =>
      cases entry with
      | unused =>
          dsimp only
          split
          · exact ensures_error
          · exact ensures_ok.mpr (grown _ found rfl)
      | closed next => exact ensures_ok.mpr (grown next found rfl)
      | occupied old => exact ensures_error

theorem Counted.insert (counted : Counted table) (socket : Socket) :
    Ensures (table.insert socket) fun result => Counted result.1 := by
  unfold ConnTable.insert
  cases table.reserveId with
  | none => exact ensures_ok.mpr counted
  | some id =>
      refine (counted.insertAt id socket).bind ?_
      intro inserted holds
      exact ensures_pure.mpr holds

theorem Counted.cleanupDead (counted : Counted table) :
    Ensures table.cleanupDead fun result => Counted result.1 := by
  unfold ConnTable.cleanupDead
  cases table.deadIndex with
  | none => exact ensures_ok.mpr counted
  | some id =>
      have undead : Counted { table with deadIndex := none } := counted
      refine (undead.remove id).bind ?_
      intro result holds
      exact ensures_pure.mpr holds

theorem Counted.nextOutbound (counted : Counted table) :
    Ensures (table.nextOutbound build locals) fun outcome => Counted outcome.table := by
  unfold ConnTable.nextOutbound
  refine counted.cleanupDead.bind ?_
  rintro ⟨cleaned, events⟩ holds
  have polls : Ensures (pollConns build locals cleaned.conns.toList 0) fun _ => True :=
    fun _ _ => trivial
  refine polls.bind ?_
  rintro ready -
  split
  · exact ensures_pure.mpr holds
  · exact ensures_pure.mpr holds
  · exact ensures_pure.mpr holds

theorem Counted.startConnecting (counted : Counted table) (connect : OutboundConnect) :
    Ensures (table.startConnecting locals connect) fun outcome => Counted outcome.table := by
  unfold ConnTable.startConnecting
  cases table.reserveId with
  | none => exact ensures_ok.mpr counted
  | some id =>
      refine (counted.insertAt id _).bind ?_
      intro inserted holds
      exact ensures_pure.mpr holds

theorem Counted.processData (counted : Counted table) (localId id : Id)
    (body : List UInt8) :
    Ensures (table.processData locals localId id body) fun outcome =>
      Counted outcome.table := by
  unfold ConnTable.processData
  split
  · exact ensures_ok.mpr counted
  · split
    · exact ensures_ok.mpr counted
    · split
      · exact ensures_ok.mpr counted
      · refine (counted.remove id).bind ?_
        intro result holds
        exact ensures_pure.mpr holds
  · exact ensures_ok.mpr counted

theorem Counted.processAck (counted : Counted table) (localId remoteId : Id) :
    Counted (table.processAck locals localId remoteId).table := by
  unfold ConnTable.processAck
  split
  · exact counted
  · rename_i rsp channel found
    dsimp only
    split
    · exact counted.setSocket found _
    · exact counted.setSocket found _
  · exact counted
  · exact counted
  · exact counted

theorem Counted.processInbound (counted : Counted table) (channel : Nat)
    (frame : InboundFrame) :
    Ensures (table.processInbound locals channel frame) fun outcome =>
      Counted outcome.table := by
  unfold ConnTable.processInbound
  split
  · exact counted.processData _ _ _
  · exact ensures_ok.mpr (counted.processAck _ _)
  · refine (counted.remove _).bind ?_
    intro result holds
    exact ensures_pure.mpr holds
  · refine (counted.remove _).bind ?_
    intro result holds
    exact ensures_pure.mpr holds
  · split
    · refine (counted.insert _).bind ?_
      rintro ⟨inserted, id⟩ holds
      cases id with
      | none => exact ensures_pure.mpr holds
      | some localId => exact ensures_pure.mpr holds
    · exact ensures_ok.mpr counted

end ConnTable

end Calliope

end Mgnp
