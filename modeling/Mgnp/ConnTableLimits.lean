import Mgnp.ConnTableFreeList

/-!
# The largest connection tables

Ids are non-zero 16-bit values, so a table may have up to 65535 entries.  An insert
into an unused entry also computes the id after it, which the last id does not have:
a table with 65535 entries panics when its last entry is used for the first time.
-/

namespace Mgnp

namespace Calliope

open ExceptRules LabelledRuns

variable {capacity : Nat} {build : Build}

/-- The ids of a table of this capacity neither panic nor alias, and all its entries
can be in use at once. -/
structure IdsSuffice (build : Build) (capacity : Nat) : Prop where
  noPanic : ∀ {history : List Event} {final : Session capacity},
    Run (Session.step build) anyStep (Session.new capacity) history final → final.panic = none
  inverse : ∀ {history : List Event} {final : Session capacity} {index : Nat} {entry : Entry},
    Run (Session.step build) anyStep (Session.new capacity) history final →
    final.table.conns[index]? = some entry → entry ≠ .unused →
    ∃ id, Id.fromIndex build index = .ok id ∧ id.toIndex = index
  accepts : ∀ {history : List Event} {final : Session capacity} {socket : Socket},
    Run (Session.step build) anyStep (Session.new capacity) history final →
    final.table.occupiedCount < capacity →
    Returns (final.table.insert socket) fun result => result.2.isSome = true
  full : ∃ history, ∃ final : Session capacity,
    Run (Session.step build) anyStep (Session.new capacity) history final ∧
      final.table.occupiedCount = capacity

/-- The first `used` entries were used one after the other, and no other. -/
structure ConnTable.Filling (table : ConnTable capacity) (used : Nat) : Prop where
  len_eq : table.len = used
  next_eq : table.nextId.toIndex = used
  unused : ∀ index, used ≤ index → index < capacity → table.conns[index]? = some .unused

theorem Id.checkedAdd_last (id : Id) (last : id.toIndex + 1 = 2 ^ 16 - 1) :
    id.checkedAdd 1 = none := by
  have succ := id.toIndex_succ
  have overflows : ¬ id.value.toNat + (1 : UInt16).toNat < 2 ^ 16 := by
    rw [UInt16.toNat_one]
    omega
  unfold checkedAdd
  rw [dif_neg overflows]

section Filling

variable {table : ConnTable capacity} {used : Nat}

theorem ConnTable.filling_new : (ConnTable.new capacity).Filling 0 where
  len_eq := rfl
  next_eq := Id.toIndex_first
  unused index _ inRange := by simp [ConnTable.new, inRange]

theorem ConnTable.Filling.entry (filling : table.Filling used) (room : used < capacity) :
    table.entry table.nextId = some .unused := by
  unfold ConnTable.entry
  rw [filling.next_eq]
  exact filling.unused used (Nat.le_refl used) room

theorem ConnTable.Filling.reserveId (filling : table.Filling used) (room : used < capacity) :
    table.reserveId = some table.nextId := by
  unfold ConnTable.reserveId
  rw [filling.len_eq, if_neg (by omega)]

/-- The next entry is used, and the id after it exists. -/
theorem ConnTable.Filling.insertAt (filling : table.Filling used) (room : used < capacity)
    (small : used + 1 < 2 ^ 16 - 1) (socket : Socket) :
    Returns (table.insertAt table.nextId socket) fun inserted =>
      inserted.Filling (used + 1) := by
  obtain ⟨next, added, nextIndex⟩ := Id.checkedAdd_one table.nextId
    (by rw [filling.next_eq]; exact small)
  unfold ConnTable.insertAt
  rw [filling.entry room]
  simp only [added, returns_ok]
  constructor
  · exact congrArg (· + 1) filling.len_eq
  · rw [nextIndex, filling.next_eq]
  · intro index beyond inRange
    have different : table.nextId.toIndex ≠ index := by
      rw [filling.next_eq]
      omega
    simp only [ConnTable.setEntry, Vector.getElem?_setIfInBounds, different, if_false]
    exact filling.unused index (by omega) inRange

/-- The last id has none after it. -/
theorem ConnTable.Filling.insertAt_last (filling : table.Filling used) (room : used < capacity)
    (last : used + 1 = 2 ^ 16 - 1) (socket : Socket) :
    table.insertAt table.nextId socket = .error "connection ID overflow" := by
  have overflows := Id.checkedAdd_last table.nextId (by rw [filling.next_eq]; exact last)
  unfold ConnTable.insertAt
  rw [filling.entry room]
  simp only [overflows]

/-- One connect request after the other uses the entries in order. -/
theorem Session.exists_run_filling (build : Build) (capacity used : Nat)
    (inRange : used ≤ capacity) (small : used < 2 ^ 16 - 1) :
    ∃ history, ∃ final : Session capacity,
      Run (Session.step build) anyStep (Session.new capacity) history final ∧
        final.panic = none ∧ final.table.Filling used := by
  induction used with
  | zero => exact ⟨[], .new capacity, .refl, rfl, ConnTable.filling_new⟩
  | succ used ih =>
      obtain ⟨history, session, run, noPanic, filling⟩ := ih (by omega) (by omega)
      obtain ⟨inserted, returned, filled⟩ := filling.insertAt (by omega) small
        ⟨.connecting session.freshChannel, session.freshChannel⟩
      have reserved := filling.reserveId (by omega)
      have stepTo : session.step build (.startConnecting .quiet .sample []) =
          some (⟨inserted, session.freshChannel + 1, none⟩,
            [.started session.table.nextId session.freshChannel,
              .emitted (.connect session.table.nextId .sample [])
                (some session.freshChannel)]) := by
        simp [Session.step, Session.operation, ConnTable.startConnecting, noPanic, reserved,
          returned]
      exact ⟨_, _, run.tail trivial stepTo, rfl, filled⟩

/-- A table that has an entry for the last id panics when that entry is used. -/
theorem Session.exists_run_overflow (build : Build) (capacity : Nat)
    (beyond : 2 ^ 16 - 1 ≤ capacity) :
    ∃ history, ∃ final : Session capacity,
      Run (Session.step build) anyStep (Session.new capacity) history final ∧
        final.panic = some "connection ID overflow" := by
  obtain ⟨history, session, run, noPanic, filling⟩ :=
    Session.exists_run_filling build capacity (2 ^ 16 - 2) (by omega) (by omega)
  have reserved := filling.reserveId (by omega)
  have failed := filling.insertAt_last (by omega) (by omega)
    ⟨.connecting session.freshChannel, session.freshChannel⟩
  have stepTo : session.step build (.startConnecting .quiet .sample []) =
      some ({ session with panic := some "connection ID overflow" }, []) := by
    simp [Session.step, Session.operation, ConnTable.startConnecting, noPanic, reserved, failed]
  exact ⟨_, _, run.tail trivial stepTo, rfl⟩

end Filling

theorem idsSuffice_of_lt (small : capacity < 2 ^ 16 - 1) : IdsSuffice build capacity where
  noPanic run := (table_represented small run).1
  inverse {history final index entry} run found _ := by
    have inRange : index < capacity := by
      by_contra outside
      simp [outside] at found
    exact Id.fromIndex_eq_ok build (by omega)
  accepts {history final socket} run room := by
    obtain ⟨-, represented, -, -, inserts⟩ := table_represented small run
    refine (inserts socket).mono fun result granted => ?_
    rw [granted, ConnTable.reserveId, represented.len_eq, if_neg (by omega)]
    rfl
  full := by
    obtain ⟨history, final, run, -, filling⟩ :=
      Session.exists_run_filling build capacity capacity (Nat.le_refl capacity) small
    refine ⟨history, final, run, ?_⟩
    rw [← (table_represented small run).2.1.len_eq, filling.len_eq]

theorem idsSuffice_iff (build : Build) (capacity : Nat) :
    IdsSuffice build capacity ↔ capacity < 2 ^ 16 - 1 := by
  constructor
  · intro sufficient
    by_contra notSmall
    obtain ⟨history, final, run, panics⟩ :=
      Session.exists_run_overflow build capacity (by omega)
    cases (sufficient.noPanic run).symm.trans panics
  · exact idsSuffice_of_lt

theorem not_idsSuffice_max :
    ¬ ∀ (build : Build) (capacity : Nat), 1 ≤ capacity → capacity ≤ 65535 →
      IdsSuffice build capacity := by
  intro always
  have sufficient := always .debug 65535 (by omega) (by omega)
  obtain ⟨history, final, run, panics⟩ :=
    Session.exists_run_overflow .debug 65535 (by omega)
  cases (sufficient.noPanic run).symm.trans panics

end Calliope

end Mgnp
