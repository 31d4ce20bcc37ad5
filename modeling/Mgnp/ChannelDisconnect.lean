import Mgnp.ChannelClosing
import Mgnp.ChannelFifo

/-!
# What a closed answer of `try_dequeue` promises

`CLOSED` is set in `dequeue_pos` after `enqueue_pos` was closed, or after the
last sender is gone, so nothing is committed after the receiver has read it.
A commit is finished by a separate slot store, though.  If `try_dequeue` reads
the flag while that store is outstanding, it reports the channel closed and a
later call still returns the message.
-/

namespace Mgnp

namespace ChannelCore

open LabelledRuns PositionWord

variable {T E : Type*} {width : PointerWidth} {capacity : Nat}

/-- A call on a sender handle that may still commit a message. -/
def Pc.Sends : Pc E → Prop
  | .reserving _ | .reserveClosed | .allocating _ | .waiting | .permit _
  | .committing _ | .examining _ _ | .claiming _ _ => True
  | _ => False

/-- Nothing will be committed any more. -/
def Sealed (channel : Channel T E) : Prop :=
  HasClosed channel.core.enqueuePos ∨ channel.handles = []

/-- What entitles a task to close the channel from the sender side. -/
def Pc.SealingFacts (enqueueClosed noSenders : Prop) : Pc E → Prop
  | .closingTx true => enqueueClosed
  | .closingTx false | .lastTxDropped => noSenders
  | _ => True

theorem Pc.SealingFacts.mono {closed gone closed' gone' : Prop} {pc : Pc E}
    (facts : pc.SealingFacts closed gone) (closes : closed → closed') (leaves : gone → gone') :
    pc.SealingFacts closed' gone' := by
  cases pc
  case closingTx byError =>
    cases byError
    · exact leaves facts
    · exact closes facts
  case lastTxDropped => exact leaves facts
  all_goals trivial

/-- What the receiver may conclude from the `CLOSED` flag of `dequeue_pos`. -/
def RxPc.SealedFacts (isSealed : Prop) : RxPc → Prop
  | .examining head | .claiming head _ => HasClosed head → isSealed
  | .closing => isSealed
  | _ => True

theorem RxPc.SealedFacts.mono {first second : Prop} {rx : RxPc}
    (facts : rx.SealedFacts first) (implies : first → second) :
    rx.SealedFacts second := by
  cases rx
  case examining | claiming => exact fun isClosed => implies (facts isClosed)
  case closing => exact implies facts
  all_goals trivial

def Pc.dropsTx : Pc E → Bool
  | .droppingTx => true
  | _ => false

/-- The sender count covers every live handle, calls borrow live handles, and
`CLOSED` is set in `dequeue_pos` only when the channel is sealed. -/
structure SenderInv (channel : Channel T E) : Prop where
  count : channel.core.state.txCnt =
    channel.handles.length + channel.tasks.countP (·.pc.dropsTx)
  borrows : ∀ task ∈ channel.tasks, ∀ handle, task.borrows = some handle →
    handle ∈ channel.handles
  handled : ∀ task ∈ channel.tasks, task.pc.Sends → task.handle.isSome
  sealing : ∀ task ∈ channel.tasks, task.pc.SealingFacts
    (HasClosed channel.core.enqueuePos) (channel.handles = [])
  dequeue : HasClosed channel.core.dequeuePos → Sealed channel
  rx : channel.rx.SealedFacts (Sealed channel)

theorem senderInv_new : SenderInv (Channel.new width capacity : Channel T E) where
  count := rfl
  borrows := by simp [Channel.new]
  handled := by simp [Channel.new]
  sealing := by simp [Channel.new]
  dequeue isClosed := absurd (show HasClosed 0 from isClosed) (by decide)
  rx := trivial

section Senders

variable {channel next : Channel T E} {events : List (Event T E)}

/-- Sealed is for good: the flag stays, and without a handle none is cloned. -/
theorem Transition.sealed (transition : Transition width channel events next)
    (isSealed : Sealed channel) : Sealed next := by
  rcases isSealed with isClosed | gone
  · exact .inl (transition.enqueue_closed isClosed)
  refine .inr ?_
  cases transition with
  | cloneTx live => simp [gone] at live
  | dropTx => simp [gone]
  | call | dropRx | taskLocal | taskState | allocate | free | write | commitWon
  | store | closeRx | closeTx | rxLocal | dequeueWon | release => exact gone

/-- A sealed channel has no task that could win a compare-exchange. -/
theorem Transition.uncommitted (transition : Transition width channel events next)
    (closing : ClosingInv channel) (inv : SenderInv channel)
    (isSealed : Sealed channel) : committed events = [] := by
  cases transition with
  | @commitWon i handle idx tail at_pc current =>
      have member := List.mem_of_getElem? at_pc
      rcases isSealed with isClosed | gone
      · exact absurd (current ▸ isClosed) (closing.tasks _ member)
      · obtain ⟨sender, rfl⟩ := Option.isSome_iff_exists.mp
          (inv.handled _ member trivial)
        have live := inv.borrows _ member sender rfl
        simp [gone] at live
  | taskLocal _ move =>
      cases move with
      | @closeConsWait byError => cases byError <;> rfl
      | _ => rfl
  | taskState _ move => cases move <;> rfl
  | rxLocal _ move => cases move <;> rfl
  | call | cloneTx | dropTx | dropRx | allocate | free | write | store | closeRx
  | closeTx | dequeueWon | release => rfl

/-- What a moving task may borrow and do, compared with before. -/
structure MovesWithin (old new : Task E) : Prop where
  handle : new.handle = old.handle
  borrows : ∀ handle, new.borrows = some handle → old.borrows = some handle
  sends : new.pc.Sends → old.pc.Sends

theorem movesWithin {handle : Option Nat} {pc pc' : Pc E} (undone : pc.done = false)
    (sends : pc'.Sends → pc.Sends) : MovesWithin ⟨handle, pc⟩ ⟨handle, pc'⟩ where
  handle := rfl
  borrows borrowed := by
    intro holds
    simp only [Task.borrows, undone] at holds ⊢
    split at holds
    · cases holds
    · exact holds
  sends := sends

/-- A task moves; the senders and the receiver stay. -/
theorem SenderInv.moved (inv : SenderInv channel) {k : Nat} {old new : Task E}
    (at_k : channel.tasks[k]? = some old)
    (tasks : next.tasks = channel.tasks.set k new) (within : MovesWithin old new)
    (handles : next.handles = channel.handles) (rx : next.rx = channel.rx)
    (count : next.core.state.txCnt + old.pc.dropsTx.toNat =
      channel.core.state.txCnt + new.pc.dropsTx.toNat)
    (enqueue : HasClosed channel.core.enqueuePos → HasClosed next.core.enqueuePos)
    (dequeue : HasClosed next.core.dequeuePos →
      HasClosed channel.core.dequeuePos ∨ Sealed next)
    (sealing : new.pc.SealingFacts (HasClosed next.core.enqueuePos)
      (next.handles = [])) : SenderInv next := by
  have seals : Sealed channel → Sealed next := Or.imp enqueue (handles ▸ id)
  have member := List.mem_of_getElem? at_k
  constructor
  · have moved := countP_set Pc.dropsTx at_k new
    have before := inv.count
    rw [tasks, handles]
    omega
  · rw [tasks, handles]
    refine forall_mem_set inv.borrows fun handle borrowed => ?_
    exact inv.borrows old member handle (within.borrows handle borrowed)
  · rw [tasks]
    refine forall_mem_set inv.handled fun sends => ?_
    rw [within.handle]
    exact inv.handled old member (within.sends sends)
  · rw [tasks]
    refine forall_mem_set (fun task taskMem => ?_) sealing
    rw [handles]
    exact (inv.sealing task taskMem).mono enqueue id
  · exact fun isClosed => (dequeue isClosed).elim (fun before => seals (inv.dequeue before)) id
  · rw [rx]
    exact inv.rx.mono seals

/-- A task starts that commits nothing without a live handle. -/
theorem SenderInv.started (inv : SenderInv channel) {new : Task E}
    (tasks : next.tasks = channel.tasks ++ [new])
    (count : next.core.state.txCnt + channel.handles.length =
      channel.core.state.txCnt + next.handles.length + new.pc.dropsTx.toNat)
    (handles : ∀ task ∈ channel.tasks, ∀ handle, task.borrows = some handle →
      handle ∈ channel.handles → handle ∈ next.handles)
    (gone : channel.handles = [] → next.handles = [])
    (enqueue : next.core.enqueuePos = channel.core.enqueuePos)
    (dequeue : next.core.dequeuePos = channel.core.dequeuePos)
    (borrows : ∀ handle, new.borrows = some handle → handle ∈ next.handles)
    (handled : new.pc.Sends → new.handle.isSome)
    (sealing : new.pc.SealingFacts (HasClosed next.core.enqueuePos)
      (next.handles = []))
    (rx : next.rx.SealedFacts (Sealed next)) : SenderInv next := by
  have seals : Sealed channel → Sealed next := Or.imp (enqueue ▸ id) gone
  constructor
  · have before := inv.count
    rw [tasks, List.countP_append, List.countP_singleton]
    cases drops : new.pc.dropsTx <;> simp [drops] at count ⊢ <;> omega
  · rw [tasks]
    exact forall_mem_append_singleton (fun task member handle borrowed =>
      handles task member handle borrowed (inv.borrows task member handle borrowed))
      borrows
  · rw [tasks]
    exact forall_mem_append_singleton inv.handled handled
  · rw [tasks]
    refine forall_mem_append_singleton (fun task member => ?_) sealing
    rw [enqueue]
    exact (inv.sealing task member).mono id gone
  · rw [dequeue]
    exact fun isClosed => seals (inv.dequeue isClosed)
  · exact rx

/-- A sender is cloned: it is counted, and somebody was there to clone it. -/
theorem SenderInv.cloneTx (inv : SenderInv channel) {handle copy : Nat}
    (live : handle ∈ channel.handles)
    (core : next.core = { channel.core with
      state := { channel.core.state with txCnt := channel.core.state.txCnt + 1 } })
    (handles : next.handles = channel.handles ++ [copy])
    (tasks : next.tasks = channel.tasks) (rx : next.rx = channel.rx) : SenderInv next := by
  have some : channel.handles ≠ [] := List.ne_nil_of_mem live
  have seals : Sealed channel → Sealed next := by
    rintro (isClosed | gone)
    · left
      rwa [core]
    · exact absurd gone some
  constructor
  · have before := inv.count
    rw [core, handles, tasks, List.length_append, List.length_singleton]
    dsimp only
    omega
  · rw [handles, tasks]
    intro task member sender borrowed
    exact List.mem_append_left _ (inv.borrows task member sender borrowed)
  · rw [tasks]
    exact inv.handled
  · rw [core, tasks]
    intro task member
    exact (inv.sealing task member).mono id fun gone => absurd gone some
  · rw [core]
    exact fun isClosed => seals (inv.dequeue isClosed)
  · rw [rx]
    exact inv.rx.mono seals

/-- The count of a dropped sender goes down.  At zero no handle is left. -/
theorem SenderInv.uncount (inv : SenderInv channel) {k : Nat} {handle : Option Nat}
    (at_k : channel.tasks[k]? = some ⟨handle, .droppingTx⟩)
    (core : next.core = { channel.core with
      state := { channel.core.state with txCnt := channel.core.state.txCnt - 1 } })
    (tasks : next.tasks = channel.tasks.set k
      ⟨handle, if channel.core.state.txCnt = 1 then .lastTxDropped else .finished⟩)
    (handles : next.handles = channel.handles) (rx : next.rx = channel.rx) :
    SenderInv next := by
  have counted := inv.count
  have some : 0 < channel.tasks.countP (·.pc.dropsTx) :=
    List.countP_pos_iff.mpr ⟨_, List.mem_of_getElem? at_k, rfl⟩
  have left : next.core.state.txCnt + 1 = channel.core.state.txCnt := by
    rw [core]
    dsimp only
    omega
  have enqueue : HasClosed channel.core.enqueuePos → HasClosed next.core.enqueuePos := by
    rw [core]
    exact id
  have dequeue : HasClosed next.core.dequeuePos →
      HasClosed channel.core.dequeuePos ∨ Sealed next := by
    rw [core]
    exact .inl
  by_cases last : channel.core.state.txCnt = 1
  · rw [if_pos last] at tasks
    refine inv.moved at_k tasks (movesWithin rfl id) handles rx left enqueue dequeue ?_
    have gone : channel.handles = [] := List.length_eq_zero_iff.mp (by omega)
    rw [handles]
    exact gone
  · rw [if_neg last] at tasks
    exact inv.moved at_k tasks (movesWithin rfl id) handles rx left enqueue dequeue trivial

theorem senderInv_transition (closing : ClosingInv channel) (inv : SenderInv channel)
    (transition : Transition width channel events next) : SenderInv next := by
  have seals := transition.sealed
  have enqueue := transition.enqueue_closed
  cases transition with
  | call called =>
      refine inv.started rfl ?_ (fun _ _ _ _ => id) id rfl rfl ?_ ?_ ?_ inv.rx
      · cases called <;> rfl
      · intro handle borrowed
        cases called with
        | reserve _ live | closeByTx _ live => cases borrowed; exact live
        | closeByRx => cases borrowed
      · cases called with
        | reserve => exact fun _ => rfl
        | closeByTx | closeByRx => exact False.elim
      · cases called <;> trivial
  | cloneTx live => exact inv.cloneTx live rfl rfl rfl rfl
  | @dropTx handle live unborrowed =>
      refine inv.started rfl ?_ ?_ ?_ rfl rfl (by simp [Task.borrows, Pc.done])
        False.elim trivial (inv.rx.mono seals)
      · have some := List.length_pos_of_mem live
        simp only [Channel.spawn, List.length_erase_of_mem live, Pc.dropsTx,
          Bool.toNat_true]
        omega
      · intro task member sender borrowed inHandles
        have ne : sender ≠ handle := by
          rintro rfl
          exact unborrowed task member borrowed
        exact (List.mem_erase_of_ne ne).mpr inHandles
      · intro gone
        simp [gone] at live
  | dropRx idle =>
      exact inv.started rfl rfl (fun _ _ _ _ => id) id rfl rfl
        (by simp [Task.borrows, Pc.done]) False.elim trivial trivial
  | taskLocal at_pc move =>
      have facts := inv.sealing _ (List.mem_of_getElem? at_pc)
      refine inv.moved at_pc rfl (movesWithin ?_ ?_) rfl rfl ?_ id .inl ?_ <;>
        cases move <;> first | rfl | exact id | exact False.elim | exact facts
  | taskState at_pc move =>
      have member := List.mem_of_getElem? at_pc
      cases move with
      | dropTx => exact inv.uncount at_pc rfl rfl rfl rfl
      | @closeProdWait thenTx =>
          have isClosed : HasClosed channel.core.enqueuePos := closing.tasks _ member
          cases thenTx
          · exact inv.moved at_pc rfl (movesWithin rfl id) rfl rfl rfl id .inl trivial
          · exact inv.moved at_pc rfl (movesWithin rfl id) rfl rfl rfl id .inl isClosed
      | loseError | winError | writeError | setErrored =>
          exact inv.moved at_pc rfl (movesWithin rfl id) rfl rfl rfl id .inl trivial
  | allocate at_pc =>
      exact inv.moved at_pc rfl (movesWithin rfl fun _ => trivial) rfl rfl rfl id .inl
        trivial
  | free at_pc | store at_pc =>
      exact inv.moved at_pc rfl (movesWithin rfl id) rfl rfl rfl id .inl trivial
  | commitWon at_pc =>
      exact inv.moved at_pc rfl (movesWithin rfl False.elim) rfl rfl rfl enqueue .inl
        trivial
  | closeRx at_pc =>
      exact inv.moved at_pc rfl (movesWithin rfl id) rfl rfl rfl enqueue .inl trivial
  | @closeTx i handle byError at_pc =>
      have facts := inv.sealing _ (List.mem_of_getElem? at_pc)
      have isSealed : Sealed channel := by
        cases byError
        · exact .inr facts
        · exact .inl facts
      exact inv.moved at_pc rfl (movesWithin rfl id) rfl rfl rfl id
        (fun _ => .inr isSealed) trivial
  | write =>
      exact ⟨inv.count, inv.borrows, inv.handled, inv.sealing, inv.dequeue, inv.rx⟩
  | rxLocal at_rx move =>
      refine ⟨inv.count, inv.borrows, inv.handled, inv.sealing, inv.dequeue, ?_⟩
      have facts := inv.rx
      rw [at_rx] at facts
      cases move with
      | loadHead | claimFailed => exact inv.dequeue
      | sawClosed _ isClosed => exact facts ((hasClosed_iff_ne_zero _).mpr isClosed)
      | claim => exact facts
      | call | sawEmpty | reloadHead | answerClosed => trivial
  | dequeueWon at_rx current =>
      refine ⟨inv.count, inv.borrows, inv.handled, inv.sealing, ?_, trivial⟩
      rw [hasClosed_add_posOne, ← current]
      exact inv.dequeue
  | release =>
      exact inv.started rfl rfl (fun _ _ _ _ => id) id rfl rfl
        (by simp [Task.borrows, Pc.done]) False.elim trivial trivial

end Senders

/-- A `commit_send` has won position `pos` and not stored its slot. -/
def Pc.storesAt (pos : UInt16) : Pc E → Bool
  | .storing _ won => won == pos
  | _ => false

/-- The receiver has read `CLOSED` and is about to load the slot of a message
that it will not find: its store is outstanding, or it sits at the last
position. -/
def ClosedBeforeDrained (width : PointerWidth) (channel : Channel T E) : Prop :=
  match channel.rx with
  | .examining head => head &&& closed ≠ 0 ∧
      ((∃ task ∈ channel.tasks, task.pc.storesAt (head >>> posShift width) = true) ∨
        StoredAtLastPosition width channel)
  | _ => False

instance (width : PointerWidth) (channel : Channel T E) :
    Decidable (ClosedBeforeDrained width channel) := by
  unfold ClosedBeforeDrained
  exact match channel.rx with
    | .examining _ => inferInstanceAs (Decidable (_ ∧ _))
    | .idle | .loading | .claiming _ _ | .releasing _ _ | .closing | .dropped => isFalse id

/-- The receiver does not examine such a slot. -/
def closesDrained (width : PointerWidth) (channel : Channel T E) : Action T E → Prop
  | .runRx => ¬ ClosedBeforeDrained width channel
  | _ => True

instance (width : PointerWidth) (channel : Channel T E) (action : Action T E) :
    Decidable (closesDrained width channel action) :=
  match action with
  | .runRx => inferInstanceAs (Decidable (¬ _))
  | .reserve _ _ | .closeWithError _ _ | .cloneTx _ _ | .dropTx _ | .dropRx | .tryRecv | .run _
  | .allocate _ _ | .spurious _ | .woken _ | .write _ _ | .commit _ | .release _
  | .spuriousRx => isTrue trivial

/-- Once `try_dequeue` has answered `Error` or `Disconnected`, every message that
was or will be committed has been received, and nothing is received later. -/
def ClosedAnswersFinal (history : List (Event T E)) : Prop :=
  ∀ past later reason, history = past ++ .recvClosed reason :: later →
    (committed history).map Prod.snd = received past ∧
      ∀ idx message, .received idx message ∉ later

section Draining

variable {channel next final : Channel T E} {history events later : List (Event T E)}

theorem committed_append (first second : List (Event T E)) :
    committed (first ++ second) = committed first ++ committed second :=
  List.filterMap_append

theorem received_append (first second : List (Event T E)) :
    received (first ++ second) = received first ++ received second :=
  List.filterMap_append

/-- Everything committed has been received. -/
def Drained (history : List (Event T E)) : Prop :=
  (committed history).length = (received history).length

/-- A drained history stays drained as long as nothing is committed: nothing is
left to receive. -/
theorem Represents.drained (represents : Represents width capacity (history ++ later)
      channel) (drained : Drained history) (uncommitted : committed later = []) :
    Drained (history ++ later) ∧ received later = [] := by
  have bound := represents.received_in_order.length_le
  rw [List.length_map, committed_append, received_append, uncommitted,
    List.append_nil, List.length_append, drained] at bound
  have none : received later = [] := List.length_eq_zero_iff.mp (by omega)
  refine ⟨?_, none⟩
  rw [Drained, committed_append, received_append, uncommitted, none, List.append_nil,
    List.append_nil]
  exact drained

/-- A slot load that finds nothing, with no store outstanding at that position,
means that everything has been received. -/
theorem Represents.drained_of_behind
    (represents : Represents width capacity history channel) {head : UInt16}
    (at_rx : channel.rx = .examining head)
    (behind : channel.core.dequeueOrder width head = .lt)
    (notStoring : ¬ ∃ task ∈ channel.tasks,
      task.pc.storesAt (head >>> posShift width) = true)
    (notLast : ¬ StoredAtLastPosition width channel) : Drained history := by
  have fewer := represents.received_in_order.length_le
  rw [List.length_map] at fewer
  refine Nat.le_antisymm ?_ fewer
  by_contra more
  obtain ⟨⟨i, idx, message⟩, front⟩ :
      ∃ entry, (committed history)[(received history).length]? = some entry :=
    ⟨_, List.getElem?_eq_getElem (Nat.lt_of_not_le more)⟩
  have unstored := represents.nothing_stored at_rx behind notLast front
  obtain ⟨ledger, replays, inv, _⟩ := represents
  rw [← issues_ledgerOps, ← replays.issued_eq, ← takes_ledgerOps,
    ← replays.taken_eq] at front
  rw [← mem_publish_ledgerOps, ← replays.mem_published] at unstored
  obtain ⟨⟨handle, pc⟩, at_i, pos, rfl⟩ := inv.storing replays front unstored
  obtain ⟨ticket, message', low, _, issued, _, lowLt, posEq⟩ := inv.tasks i _ at_i
  obtain rfl := replays.ticket_unique front issued
  obtain ⟨flag, headEq⟩ := inv.receiver at_rx
  refine notStoring ⟨_, List.mem_of_getElem? at_i, beq_iff_eq.mpr ?_⟩
  rw [posEq, headEq, ← UInt16.toNat_inj, word_shift_toNat lowLt,
    word_shift_toNat (flag_lt width flag)]

theorem Transition.startsClosing (transition : Transition width channel events next)
    (closing : next.rx = .closing) : channel.rx = .closing ∨
      ∃ head, channel.rx = .examining head ∧ head &&& closed ≠ 0 ∧
        channel.core.dequeueOrder width head = .lt ∧ events = [] := by
  cases transition with
  | rxLocal at_rx move =>
      cases move with
      | sawClosed behind isClosed => exact .inr ⟨_, at_rx, isClosed, behind, rfl⟩
      | call | loadHead | sawEmpty | claim | reloadHead | claimFailed
      | answerClosed => cases closing
  | dropRx | dequeueWon | release => cases closing
  | call | cloneTx | dropTx | taskLocal | taskState | allocate | free | write
  | commitWon | store | closeRx | closeTx => exact .inl closing

theorem Transition.recvClosed (transition : Transition width channel events next)
    {reason : Option E} (answered : .recvClosed reason ∈ events) :
    events = [.recvClosed reason] ∧ channel.rx = .closing := by
  cases transition with
  | rxLocal at_rx move =>
      cases move with
      | answerClosed =>
          simp only [List.mem_singleton] at answered
          exact ⟨by rw [answered], at_rx⟩
      | call | loadHead | sawClosed | sawEmpty | claim | reloadHead | claimFailed =>
          simp at answered
  | taskLocal _ move =>
      cases move with
      | @closeConsWait byError => cases byError <;> simp at answered
      | _ => simp at answered
  | taskState _ move => cases move <;> simp at answered
  | call | cloneTx | dropTx | dropRx | allocate | free | write | commitWon | store
  | closeRx | closeTx | dequeueWon | release => simp at answered

/-- A receiver that is about to answer closed has received everything. -/
structure DrainInv (width : PointerWidth) (capacity : Nat)
    (history : List (Event T E)) (channel : Channel T E) : Prop where
  represents : Represents width capacity history channel
  closing : ClosingInv channel
  senders : SenderInv channel
  drained : channel.rx = .closing → Drained history

theorem drainInv_step (capacityLe : capacity ≤ maxCapacity width)
    {action : Action T E} (inv : DrainInv width capacity history channel)
    (admitted : closesDrained width channel action)
    (stepTo : step width channel action = some (next, events)) :
    DrainInv width capacity (history ++ events) next := by
  have transition := step_transition stepTo
  have after := inv.represents.transition capacityLe transition
  refine ⟨after, closingInv_transition inv.closing transition,
    senderInv_transition inv.closing inv.senders transition, fun closing => ?_⟩
  rcases transition.startsClosing closing with before | ⟨head, at_rx, isClosed, behind, rfl⟩
  · have isSealed : Sealed channel := by
      have facts := inv.senders.rx
      rwa [before] at facts
    exact (after.drained (inv.drained before)
      (transition.uncommitted inv.closing inv.senders isSealed)).1
  · obtain rfl := runRx_of_examining at_rx stepTo (by rw [closing, at_rx]; simp)
    rw [List.append_nil]
    have fine : ¬ ClosedBeforeDrained width channel := admitted
    rw [ClosedBeforeDrained, at_rx] at fine
    exact inv.represents.drained_of_behind at_rx behind
      (fun storing => fine ⟨isClosed, .inl storing⟩)
      (fun last => fine ⟨isClosed, .inr last⟩)

theorem drainInv_run (capacityLe : capacity ≤ maxCapacity width)
    (run : Run (step width) (closesDrained width) (Channel.new width capacity)
      history final) : DrainInv width capacity history final :=
  run.invariant (DrainInv width capacity)
    ⟨represents_new, closingInv_new, senderInv_new, fun closing => by cases closing⟩
    fun holds admitted stepTo => drainInv_step capacityLe holds admitted stepTo

/-- From a sealed state on, nothing is committed. -/
theorem sealed_run {admits : Channel T E → Action T E → Prop}
    (closing : ClosingInv channel) (senders : SenderInv channel)
    (isSealed : Sealed channel)
    (run : Run (step width) admits channel later final) : committed later = [] := by
  have all : ClosingInv final ∧ SenderInv final ∧ Sealed final ∧ committed later = [] := by
    refine run.invariant (fun events state => ClosingInv state ∧
      SenderInv state ∧ Sealed state ∧ committed events = [])
      ⟨closing, senders, isSealed, rfl⟩ ?_
    intro past events state next action ⟨closing, senders, isSealed, silent⟩ _ stepTo
    have transition := step_transition stepTo
    refine ⟨closingInv_transition closing transition,
      senderInv_transition closing senders transition, transition.sealed isSealed, ?_⟩
    rw [committed_append, silent, transition.uncommitted closing senders isSealed]
    rfl
  exact all.2.2.2

/-- In every run in which the receiver, having read `CLOSED`, does not examine a
slot whose message it cannot see, a closed answer is final. -/
theorem closed_answer_is_final (capacityLe : capacity ≤ maxCapacity width)
    (run : Run (step width) (closesDrained width) (Channel.new width capacity)
      history final) : ClosedAnswersFinal history := by
  intro past later reason occurs
  obtain ⟨pre, first, rest, last, before, action, after, rfl, rfl, runBefore, admitted,
    stepTo, runAfter⟩ := run.split_event occurs
  have answered : .recvClosed reason ∈ first ++ .recvClosed reason :: rest := by simp
  obtain ⟨eventsEq, closing⟩ := (step_transition stepTo).recvClosed answered
  obtain ⟨rfl, rfl⟩ : first = [] ∧ rest = [] := by
    cases first with
    | nil => simpa using eventsEq
    | cons event first => simp at eventsEq
  simp only [List.append_nil, List.nil_append] at occurs stepTo ⊢
  have inv := drainInv_run capacityLe runBefore
  have isSealed : Sealed before := by
    have facts := inv.senders.rx
    rwa [closing] at facts
  have uncommitted := sealed_run inv.closing inv.senders isSealed
    ((Run.single admitted stepTo).trans runAfter)
  have represents := represents_run capacityLe run
  rw [occurs] at represents
  obtain ⟨drained, unreceived⟩ := represents.drained (inv.drained closing) uncommitted
  constructor
  · have whole := represents.received_in_order.eq_of_length
      (by rw [List.length_map, drained])
    rw [occurs, ← whole, received_append, unreceived, List.append_nil]
  · intro idx message member
    have counted : (idx, message) ∈ received (.recvClosed reason :: last) :=
      List.mem_filterMap.mpr ⟨_, List.mem_cons_of_mem _ member, rfl⟩
    rw [unreceived] at counted
    cases counted

end Draining

/-- A sender closes the channel with an error while another sender's commit has
not stored its slot.  The receiver is told of the error and then receives the
message. -/
theorem closed_answer_before_store :
    ¬ ∀ (history : List (Event Nat Nat)) (final : Channel Nat Nat),
      Run (step .bits64) anyStep (Channel.new .bits64 1) history final →
        ClosedAnswersFinal history := by
  intro isFinal
  obtain ⟨history, final, run, seen⟩ :=
    exists_run_of_exec (step .bits64) anyStep (Channel.new .bits64 1 : Channel Nat Nat)
      [.cloneTx 0 1, .reserve 0 false, .run 0, .allocate 0 0, .write 0 7, .commit 0,
        .run 0, .run 0, .run 0, .closeWithError (some 1) 5, .run 1, .run 1, .run 1,
        .run 1, .run 1, .run 1, .tryRecv, .runRx, .runRx, .runRx, .run 0, .tryRecv,
        .runRx, .runRx, .runRx, .runRx]
      Prod.snd
      (show _ = some [.reserved 0 0, .committed 0 0 (some 7), .closeProd,
        .recvClosed (some 5), .stored 0, .received 0 (some 7)] by decide +kernel)
  subst seen
  exact (isFinal _ _ run [.reserved 0 0, .committed 0 0 (some 7), .closeProd]
    [.stored 0, .received 0 (some 7)] (some 5) rfl).2 0 (some 7) (by simp)

/-- The last sender is dropped after its message has been received. -/
theorem closed_answer_is_final_disconnected :
    ∃ history : List (Event Nat Nat), .recvClosed none ∈ history ∧
      received history = [(0, some 7)] ∧ ClosedAnswersFinal history := by
  obtain ⟨history, final, run, seen⟩ :=
    exists_run_of_exec (step .bits64) (closesDrained .bits64)
      (Channel.new .bits64 1 : Channel Nat Nat)
      [.reserve 0 false, .run 0, .allocate 0 0, .write 0 7, .commit 0, .run 0, .run 0,
        .run 0, .run 0, .run 0, .dropTx 0, .run 1, .run 1, .run 1, .tryRecv, .runRx,
        .runRx, .runRx, .runRx, .tryRecv, .runRx, .runRx, .runRx]
      (fun reached => (decide (.recvClosed none ∈ reached.2), received reached.2))
      (show _ = some (true, [(0, some 7)]) by decide +kernel)
  obtain ⟨answered, messages⟩ := Prod.mk.injEq .. ▸ seen
  exact ⟨history, of_decide_eq_true answered, messages,
    closed_answer_is_final (by decide) run⟩

end ChannelCore

end Mgnp
