import Mgnp.ConnTableFreeList

/-!
# An inbound frame concerns one connection

`process_inbound` writes at most one entry of the table: the one that the header
names, or a free one for a connection that is accepted.  A frame that matches no
connection leaves the table as it was and is answered with a RESET to its sender.
-/

namespace Mgnp

namespace Calliope

open ExceptRules LabelledRuns

/-- The local id that the frame names, which a CONNECT does not have. -/
def Header.named : Header → Option Id
  | .data _ remoteId | .ack _ remoteId | .reject remoteId _ | .reset remoteId _ => some remoteId
  | .connect _ _ => none

namespace ConnTable

variable {capacity : Nat} {table next : ConnTable capacity} {locals : Locals}

/-- The entries of two tables agree except under `id`. -/
def ChangesOnly (table next : ConnTable capacity) (id : Id) : Prop :=
  ∀ index ≠ id.toIndex, next.conns[index]? = table.conns[index]?

/-- A DATA frame whose ids match no open socket, or an ACK that names no connecting
one, from `localId`. -/
def Stray (table : ConnTable capacity) (localId : Id) (header : Header) : Prop :=
  match header with
  | .data sender remoteId => sender = localId ∧
      ∀ channel, table.entry remoteId ≠ some (.occupied ⟨.opened sender, channel⟩)
  | .ack sender remoteId => sender = localId ∧
      ∀ rsp channel, table.entry remoteId ≠ some (.occupied ⟨.connecting rsp, channel⟩)
  | .reject _ _ | .reset _ _ | .connect _ _ => False

/-- What an inbound frame may do to the table. -/
structure Isolated (table : ConnTable capacity) (header : Header) (outcome : Outcome capacity) :
    Prop where
  named : ∀ id, header.named = some id → ChangesOnly table outcome.table id
  connect : header.named = none → outcome.table = table ∨
    ∃ id, (∀ socket, table.entry id ≠ some (.occupied socket)) ∧
      ChangesOnly table outcome.table id
  others : ∀ id socket, header.named ≠ some id → table.entry id = some (.occupied socket) →
    outcome.table.entry id = some (.occupied socket)
  stray : ∀ localId, table.Stray localId header →
    outcome.table = table ∧ ∃ reason, outcome.frame = some (.reset localId reason)

section Entries

theorem ChangesOnly.refl (table : ConnTable capacity) (id : Id) : ChangesOnly table table id :=
  fun _ _ => rfl

theorem changesOnly_setEntry {id : Id} {new : Entry}
    (written : next.conns = (table.setEntry id new).conns) : ChangesOnly table next id := by
  intro index different
  rw [written]
  simp [setEntry, Ne.symm different]

theorem ChangesOnly.entry {id other : Id} (changes : ChangesOnly table next id)
    (different : other ≠ id) : next.entry other = table.entry other := by
  apply changes
  simpa using different

theorem remove_changesOnly (id : Id) :
    Ensures (table.remove id) fun result => ChangesOnly table result.1 id := by
  unfold remove
  split
  · exact ensures_ok.mpr (.refl table id)
  · split
    · exact ensures_error
    · exact ensures_ok.mpr (changesOnly_setEntry rfl)
  · exact ensures_ok.mpr (.refl table id)

theorem insertAt_changesOnly (id : Id) (socket : Socket) :
    Ensures (table.insertAt id socket) fun inserted =>
      (∀ old, table.entry id ≠ some (.occupied old)) ∧ ChangesOnly table inserted id := by
  unfold insertAt
  dsimp only
  split
  · exact ensures_error
  · rename_i found
    split
    · exact ensures_error
    · refine ensures_ok.mpr ⟨?_, changesOnly_setEntry rfl⟩
      simp [found]
  · rename_i found
    refine ensures_ok.mpr ⟨?_, changesOnly_setEntry rfl⟩
    simp [found]
  · exact ensures_error

end Entries

section Frames

variable {header : Header} {outcome : Outcome capacity}

/-- A frame that names an id and is not stray changes that entry alone. -/
theorem Isolated.of_named {id : Id} (isNamed : header.named = some id)
    (changes : ChangesOnly table outcome.table id)
    (stray : ∀ localId, table.Stray localId header →
      outcome.table = table ∧ ∃ reason, outcome.frame = some (.reset localId reason)) :
    Isolated table header outcome where
  named other otherNamed := by
    rw [isNamed] at otherNamed
    cases otherNamed
    exact changes
  connect unnamed := by
    rw [isNamed] at unnamed
    cases unnamed
  others other socket notNamed found := by
    have different : other ≠ id := by
      rintro rfl
      exact notNamed isNamed
    rw [changes.entry different]
    exact found
  stray := stray

/-- A frame that leaves the table alone is answered with a RESET to its sender. -/
theorem Isolated.of_reset {id localId : Id} {reason : Reset} {account : Option Nat}
    {events : List Event} (isNamed : header.named = some id)
    (sender : ∀ other, table.Stray other header → other = localId) :
    Isolated table header ⟨table, some (.reset localId reason), account, events⟩ := by
  refine .of_named isNamed (.refl table id) ?_
  intro other isStray
  cases sender other isStray
  exact ⟨rfl, reason, rfl⟩

theorem processData_isolated (localId id : Id) (body : List UInt8) :
    Ensures (table.processData locals localId id body)
      (Isolated table (.data localId id)) := by
  have sender : ∀ other, table.Stray other (.data localId id) → other = localId :=
    fun other isStray => isStray.1.symm
  unfold processData
  split
  · exact ensures_ok.mpr (.of_reset rfl sender)
  · rename_i remoteId channel isOpen
    have found : table.entry id = some (.occupied ⟨.opened remoteId, channel⟩) := by
      cases atId : table.entry id with
      | none => simp [atId] at isOpen
      | some entry => cases entry <;> simp_all
    dsimp only
    split
    · exact ensures_ok.mpr (.of_reset rfl sender)
    · rename_i sameRemote
      obtain rfl : localId = remoteId := not_not.mp sameRemote
      have notStray : ∀ other, ¬ table.Stray other (.data localId id) :=
        fun other isStray => isStray.2 channel found
      split
      · refine ensures_ok.mpr (.of_named rfl (.refl table id) ?_)
        exact fun other isStray => absurd isStray (notStray other)
      · refine Ensures.bind (remove_changesOnly id) ?_
        rintro ⟨removed, socket⟩ changes
        refine ensures_pure.mpr (.of_named rfl changes ?_)
        exact fun other isStray => absurd isStray (notStray other)
  · exact ensures_ok.mpr (.of_reset rfl sender)

theorem processAck_isolated (localId remoteId : Id) :
    Isolated table (.ack localId remoteId) (table.processAck locals remoteId localId) := by
  have sender : ∀ other, table.Stray other (.ack localId remoteId) → other = localId :=
    fun other isStray => isStray.1.symm
  unfold processAck
  split
  · exact .of_reset rfl sender
  · rename_i rsp channel found
    have notStray : ∀ other, ¬ table.Stray other (.ack localId remoteId) :=
      fun other isStray => isStray.2 rsp channel found
    dsimp only
    split
    · refine .of_named rfl (changesOnly_setEntry rfl) ?_
      exact fun other isStray => absurd isStray (notStray other)
    · refine .of_named rfl (changesOnly_setEntry rfl) ?_
      exact fun other isStray => absurd isStray (notStray other)
  · exact .of_reset rfl sender
  · exact .of_reset rfl sender
  · exact .of_reset rfl sender

/-- A CONNECT that writes nothing. -/
theorem Isolated.of_refused {localId : Id} {identity : Identity} {reason : Rejection} :
    Isolated table (.connect localId identity)
      ⟨table, some (.reject localId reason), none, []⟩ where
  named id isNamed := by cases isNamed
  connect _ := .inl rfl
  others _ _ _ found := found
  stray _ isStray := isStray.elim

theorem accept_isolated (localId : Id) (identity : Identity) (channel : Nat) :
    Ensures (table.accept localId channel) (Isolated table (.connect localId identity)) := by
  unfold accept insert
  cases table.reserveId with
  | none => exact ensures_ok.mpr .of_refused
  | some id =>
      simp only [bind_assoc, pure_bind]
      refine Ensures.bind (insertAt_changesOnly id ⟨.opened localId, channel⟩) ?_
      rintro inserted ⟨free, changes⟩
      refine ensures_pure.mpr ⟨fun id isNamed => (by cases isNamed), ?_, ?_, fun _ => False.elim⟩
      · exact fun _ => .inr ⟨id, free, changes⟩
      · intro other socket _ found
        have different : other ≠ id := by
          rintro rfl
          exact free socket found
        rw [changes.entry different]
        exact found

theorem processInbound_isolated (channel : Nat) (frame : InboundFrame) :
    Ensures (table.processInbound locals channel frame) (Isolated table frame.header) := by
  unfold processInbound
  cases frame.header with
  | data localId remoteId => exact processData_isolated localId remoteId frame.body
  | ack localId remoteId => exact ensures_ok.mpr (processAck_isolated localId remoteId)
  | reject remoteId reason =>
      refine Ensures.bind (remove_changesOnly remoteId) ?_
      rintro ⟨removed, socket⟩ changes
      exact ensures_pure.mpr (.of_named rfl changes fun _ => False.elim)
  | reset remoteId reason =>
      refine Ensures.bind (remove_changesOnly remoteId) ?_
      rintro ⟨removed, socket⟩ changes
      exact ensures_pure.mpr (.of_named rfl changes fun _ => False.elim)
  | connect localId identity =>
      dsimp only
      cases locals.connect identity frame.body with
      | ok => exact accept_isolated localId identity channel
      | error reason => exact ensures_ok.mpr .of_refused

end Frames

end ConnTable

section Runs

variable {capacity : Nat} {build : Build}

theorem processInbound_returns_isolated (small : capacity < 2 ^ 16 - 1)
    {history : List Event} {final : Session capacity}
    (run : Run (Session.step build) anyStep (Session.new capacity) history final)
    (locals : Locals) (channel : Nat) (frame : InboundFrame) :
    Returns (final.table.processInbound locals channel frame)
      (ConnTable.Isolated final.table frame.header) := by
  have represented := (table_represented small run).2.1
  have returns : Returns (final.table.processInbound locals channel frame) fun outcome =>
      outcome.table.Represented := represented.processInbound small channel frame
  exact (returns.and (ConnTable.processInbound_isolated channel frame)).mono
    fun _ holds => holds.2

/-- An established connection, and a DATA frame from a peer that is not its own. -/
theorem processInbound_returns_isolated_stray :
    ∃ history final, Run (Session.step .debug) anyStep (Session.new 2) history final ∧
      .accepted .first .first 0 ∈ history ∧
      Returns (final.table.processInbound .quiet 1 ⟨.data ⟨2, by decide⟩ .first, [7]⟩)
        (ConnTable.Isolated final.table (.data ⟨2, by decide⟩ .first)) := by
  obtain ⟨history, final, run, observed⟩ :=
    exists_run_of_exec (Session.step .debug) anyStep (Session.new 2)
      [.processInbound .quiet ⟨.connect .first .sample, []⟩]
      (fun reached => decide (.accepted .first .first 0 ∈ reached.2))
      (show _ = some true by decide +kernel)
  exact ⟨history, final, run, of_decide_eq_true observed,
    processInbound_returns_isolated (by decide) run .quiet 1 _⟩

end Runs

end Calliope

end Mgnp
