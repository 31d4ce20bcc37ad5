import Mathlib.Data.List.Nodup
import Mgnp.OneshotOwners

/-!
# What becomes of the values in the cell of a oneshot channel

A value is moved out by a receive, by a failed send or by the downcast of a
reference, and it is dropped by `close`, by a failed send of a `DeserSender` or with
its reference.  The cell keeps its bytes, so a use of a dead value shows as a
second use of the same value.  Such a use needs a `close` that finds a message
without a sender, or a second reference to the same message.
-/

namespace Mgnp

namespace Oneshot

open LabelledRuns

variable {T : Type*} {channel next : Channel T} {history events : List (Event T)}
  {byRx : Prop}

/-- The senders of the values that were moved out or dropped, with `none` for an
uninitialized cell. -/
def used (history : List (Event T)) : List (Option Nat) :=
  history.filterMap fun
    | .movedOut contents | .droppedIn contents => some (contents.map Prod.fst)
    | _ => none

theorem used_append : used (history ++ events) = used history ++ used events :=
  List.filterMap_append

@[simp] theorem used_useCell (channel : Channel T) (drops : Bool) :
    used [channel.useCell drops] = [channel.cell.map Prod.fst] := by
  cases drops <;> rfl

/-- Every use of the cell is the only use of a value that was written. -/
structure UsedOnce (history : List (Event T)) : Prop where
  written : none ∉ used history
  once : (used history).Nodup

/-- `close` does not find a message without a sender. -/
def Channel.ClosesOnce (channel : Channel T) : Prop :=
  match channel.rx with
  | .closing => ¬ (channel.state.sent = true ∧ channel.state.hasTx = false)
  | _ => True

/-- The step of the receiver finds no message without a sender and no message of
an outstanding reference. -/
def keepsValues (channel : Channel T) : Action T → Prop
  | .runRx => channel.ReceivesAlone ∧ channel.ClosesOnce
  | _ => True

instance (channel : Channel T) : Decidable channel.ReceivesAlone := by
  unfold Channel.ReceivesAlone
  exact match channel.rx with
    | .polling _ => inferInstanceAs (Decidable (_ = true → _))
    | .idle | .waiting _ | .taking _ | .dropping _ | .storing _ _ | .casting | .closing
    | .closingWait _ | .droppingCell => isTrue trivial

instance (channel : Channel T) : Decidable channel.ClosesOnce := by
  unfold Channel.ClosesOnce
  exact match channel.rx with
    | .closing => inferInstanceAs (Decidable (¬ (_ = true ∧ _ = false)))
    | .idle | .polling _ | .waiting _ | .taking _ | .dropping _ | .storing _ _ | .casting
    | .closingWait _ | .droppingCell => isTrue trivial

instance (channel : Channel T) (action : Action T) : Decidable (keepsValues channel action) :=
  match action with
  | .runRx => inferInstanceAs (Decidable (_ ∧ _))
  | .send _ _ _ | .dropSender _ | .runSender _ | .sender | .recv | .close | .intoErased | .woken
  | .waitClosed | .cancel | .downcast _ | .dropRef _ | .runRef _ => isTrue trivial

/-- The sender has not written the cell. -/
def SenderPc.fresh : SenderPc T → Bool
  | .unused | .writing _ _ => true
  | .gone | .finishing _ _ | .waking | .takingBack _ | .droppingTx => false

/-- The cell holds a value that has not been used. -/
def Live (history : List (Event T)) (cell : Contents T) : Prop :=
  ∃ sender value, cell = some (sender, value) ∧ some sender ∉ used history

/-- Nobody has used the waiting message and is about to reset the state. -/
structure Channel.Unread (channel : Channel T) : Prop where
  rx : ∀ purpose contents, channel.rx ≠ .storing purpose contents
  refs : ∀ ref, channel.refs ref ≠ .storing

theorem Channel.Unread.of_polling {purpose : Purpose} (at_rx : channel.rx = .polling purpose)
    (noRef : ∀ ref, channel.refs ref = .gone) : channel.Unread := by
  constructor
  · intro other contents at_storing
    cases at_rx.symm.trans at_storing
  · intro ref at_storing
    cases (noRef ref).symm.trans at_storing

/-- Whoever may use the cell finds a live value in it. -/
structure Values (history : List (Event T)) (channel : Channel T) : Prop where
  usedOnce : UsedOnce history
  bounded : ∀ {sender}, some sender ∈ used history → sender < channel.senderCount
  cellBounded : ∀ {sender value}, channel.cell = some (sender, value) →
    sender < channel.senderCount
  fresh : ∀ {sender}, (channel.senders sender).fresh = true → some sender ∉ used history
  pending : ∀ {sender}, (channel.senders sender).pending = true → Live history channel.cell
  waiting : channel.state.holds = true → channel.Unread → Live history channel.cell
  reference : ∀ {ref}, channel.refs ref ≠ .gone → channel.refs ref ≠ .storing →
    Live history channel.cell
  closeDrops : channel.rx.closeDrops = false

theorem values_new : Values [] (Channel.new T) where
  usedOnce := ⟨List.not_mem_nil, List.nodup_nil⟩
  bounded member := by cases member
  cellBounded cell := by cases cell
  fresh fresh := by cases fresh
  pending pending := by cases pending
  waiting holds := by cases holds
  reference outstanding := absurd rfl outstanding
  closeDrops := rfl

section Values

/-- A step that does not use the cell. -/
theorem Values.keep (values : Values history channel) (silent : used events = [])
    (cell : next.cell = channel.cell) (count : channel.senderCount ≤ next.senderCount)
    (fresh : ∀ {sender}, (next.senders sender).fresh = true → some sender ∉ used history)
    (pending : ∀ {sender}, (next.senders sender).pending = true → Live history channel.cell)
    (waiting : next.state.holds = true → next.Unread → Live history channel.cell)
    (reference : ∀ {ref}, next.refs ref ≠ .gone → next.refs ref ≠ .storing →
      Live history channel.cell)
    (closeDrops : next.rx.closeDrops = false) : Values (history ++ events) next := by
  have same : used (history ++ events) = used history := by
    rw [used_append, silent, List.append_nil]
  have live : Live history channel.cell → Live (history ++ events) next.cell := by
    rintro ⟨sender, value, found, unused⟩
    exact ⟨sender, value, cell.trans found, same ▸ unused⟩
  constructor
  · exact ⟨same ▸ values.usedOnce.written, same ▸ values.usedOnce.once⟩
  · intro sender member
    rw [same] at member
    exact Nat.lt_of_lt_of_le (values.bounded member) count
  · intro sender value found
    exact Nat.lt_of_lt_of_le (values.cellBounded (cell.symm.trans found)) count
  · intro sender isFresh
    rw [same]
    exact fresh isFresh
  · intro sender isPending
    exact live (pending isPending)
  · intro holds unread
    exact live (waiting holds unread)
  · intro ref outstanding notStoring
    exact live (reference outstanding notStoring)
  · exact closeDrops

/-- A step that uses the live value in the cell, after which nobody else may. -/
theorem Values.use (values : Values history channel) (live : Live history channel.cell)
    {drops : Bool} (cell : next.cell = channel.cell)
    (count : next.senderCount = channel.senderCount)
    (fresh : ∀ sender, (next.senders sender).fresh = false)
    (pending : ∀ sender, (next.senders sender).pending = false)
    (waiting : next.state.holds = true → next.Unread → False)
    (reference : ∀ ref, next.refs ref = .gone ∨ next.refs ref = .storing)
    (closeDrops : next.rx.closeDrops = false) :
    Values (history ++ [channel.useCell drops]) next := by
  obtain ⟨owner, value, found, unused⟩ := live
  have more : used (history ++ [channel.useCell drops]) = used history ++ [some owner] := by
    rw [used_append, used_useCell, found, Option.map_some]
  constructor
  · constructor
    · rw [more, List.mem_append, not_or]
      exact ⟨values.usedOnce.written, by simp⟩
    · rw [more, ← List.concat_eq_append]
      exact values.usedOnce.once.concat unused
  · intro sender member
    rw [count]
    rw [more, List.mem_append, List.mem_singleton] at member
    rcases member with before | now
    · exact values.bounded before
    · cases now
      exact values.cellBounded found
  · intro sender other inside
    rw [count]
    exact values.cellBounded (cell.symm.trans inside)
  · intro sender isFresh
    cases (fresh sender).symm.trans isFresh
  · intro sender isPending
    cases (pending sender).symm.trans isPending
  · intro holds unread
    exact (waiting holds unread).elim
  · intro ref outstanding notStoring
    rcases reference ref with gone | storing
    · exact absurd gone outstanding
    · exact absurd storing notStoring
  · exact closeDrops

/-- A step of a sender that does not touch the cell. -/
theorem Values.setSender (values : Values history channel) {sender : Nat} {pc : SenderPc T}
    {state : State}
    (fresh : pc.fresh = true → (channel.senders sender).fresh = true)
    (pending : pc.pending = true → (channel.senders sender).pending = true)
    (waiting : state.holds = true → channel.Unread → Live history channel.cell)
    (silent : used events = []) :
    Values (history ++ events) { channel.setSender sender pc with state := state } := by
  refine values.keep silent rfl (Nat.le_refl _) ?_ ?_
    (fun holds unread => waiting holds ⟨unread.rx, unread.refs⟩) values.reference
    values.closeDrops
  · intro other isFresh
    rcases Channel.setSender_cases isFresh with ⟨rfl, own⟩ | ⟨-, before⟩
    · exact values.fresh (fresh own)
    · exact values.fresh before
  · intro other isPending
    rcases Channel.setSender_cases isPending with ⟨rfl, own⟩ | ⟨-, before⟩
    · exact values.pending (pending own)
    · exact values.pending before

/-- `send` writes the cell, which nobody else may use. -/
theorem Values.write (values : Values history channel) (owners : Owners channel)
    {sender : Nat} {value : T} {deser : Bool}
    (at_sender : channel.senders sender = .writing value deser) :
    Values history
      { channel.setSender sender (.finishing value deser) with
        cell := some (sender, value) } := by
  have own : (channel.senders sender).active = true := by rw [at_sender]; rfl
  have unused : some sender ∉ used history := values.fresh (by rw [at_sender]; rfl)
  have live : Live history (some (sender, value)) := ⟨sender, value, rfl, unused⟩
  constructor
  · exact values.usedOnce
  · exact values.bounded
  · intro other otherValue inside
    cases inside
    exact owners.senderCount own
  · intro other isFresh
    rcases Channel.setSender_cases isFresh with ⟨rfl, -⟩ | ⟨-, before⟩
    · exact unused
    · exact values.fresh before
  · intro other isPending
    exact live
  · intro holds unread
    exact live
  · intro ref outstanding notStoring
    exact absurd ((owners.apart own).2 ref) outstanding
  · exact values.closeDrops

theorem SenderPc.fresh_eq_false {pc : SenderPc T} (ended : pc.active = false) :
    pc.fresh = false := by
  cases pc <;> first | rfl | cases ended

theorem SenderPc.pending_eq_false {pc : SenderPc T} (ended : pc.active = false) :
    pc.pending = false := by
  cases pc <;> first | rfl | cases ended

/-- A failed send takes its value back, which nobody else has used. -/
theorem Values.takeBack (values : Values history channel) (owners : Owners channel)
    {sender : Nat} {deser : Bool} (at_sender : channel.senders sender = .takingBack deser) :
    Values (history ++ [channel.useCell deser]) (channel.setSender sender .droppingTx) := by
  have own : (channel.senders sender).active = true := by rw [at_sender]; rfl
  have isPending : (channel.senders sender).pending = true := by rw [at_sender]; rfl
  have others : ∀ other,
      ((channel.setSender sender .droppingTx).senders other).fresh = false ∧
      ((channel.setSender sender .droppingTx).senders other).pending = false := by
    intro other
    by_cases same : other = sender
    · subst same
      rw [Channel.setSender_self]
      exact ⟨rfl, rfl⟩
    · rw [Channel.setSender_of_ne channel _ same]
      have inactive : (channel.senders other).active = false := by
        by_contra active
        exact same (owners.oneSender (Bool.of_not_eq_false active) own)
      exact ⟨SenderPc.fresh_eq_false inactive, SenderPc.pending_eq_false inactive⟩
  refine values.use (values.pending isPending) rfl rfl (fun other => (others other).1)
    (fun other => (others other).2) ?_ (fun ref => .inl ((owners.apart own).2 ref))
    values.closeDrops
  intro holds _
  cases (owners.not_holds own).symm.trans holds

/-- The receiver reads the message that it has found. -/
theorem Values.read (values : Values history channel) (owners : Owners channel)
    {purpose : Purpose} {drops : Bool} {contents : Contents T}
    (isReading : channel.rx.reads = true)
    (unread : ∀ purpose contents, channel.rx ≠ .storing purpose contents) :
    Values (history ++ [channel.useCell drops])
      { channel with rx := .storing purpose contents } := by
  obtain ⟨holds, noRef⟩ := owners.reads isReading
  have noSender := owners.inactive_of_holds holds
  have live : Live history channel.cell := by
    apply values.waiting holds
    refine ⟨unread, fun ref at_storing => ?_⟩
    cases (noRef ref).symm.trans at_storing
  refine values.use live rfl rfl ?_ ?_ ?_ (fun ref => .inl (noRef ref)) rfl
  · exact fun sender => SenderPc.fresh_eq_false (noSender sender)
  · exact fun sender => SenderPc.pending_eq_false (noSender sender)
  · intro _ unread
    exact unread.rx _ _ rfl

/-- A reference moves or drops its message. -/
theorem Values.refRead (values : Values history channel) (owners : Owners channel)
    {ref : Nat} {drops : Bool} (outstanding : channel.refs ref ≠ .gone)
    (unread : channel.refs ref ≠ .storing) :
    Values (history ++ [channel.useCell drops]) (channel.setRef ref .storing) := by
  have noSender := owners.inactive_of_reference outstanding
  refine values.use (values.reference outstanding unread) rfl rfl ?_ ?_ ?_ ?_ values.closeDrops
  · exact fun sender => SenderPc.fresh_eq_false (noSender sender)
  · exact fun sender => SenderPc.pending_eq_false (noSender sender)
  · intro _ unread
    exact unread.refs ref (Channel.setRef_self ..)
  · intro other
    by_cases same : other = ref
    · subst same
      exact .inr (Channel.setRef_self ..)
    · rw [Channel.setRef_of_ne channel _ same]
      by_contra found
      exact same (owners.oneRef (fun gone => found (.inl gone)) outstanding)

/-- A reference resets the state when its message has been used. -/
theorem Values.refStore (values : Values history channel) {ref : Nat} :
    Values history { channel.setRef ref .gone with state := .ready } := by
  rw [← List.append_nil history]
  refine values.keep rfl rfl (Nat.le_refl _) values.fresh values.pending ?_ ?_
    values.closeDrops
  · intro holds
    cases holds
  · intro other outstanding notStoring
    by_cases same : other = ref
    · subst same
      exact absurd (Channel.setRef_self ..) outstanding
    · rw [show _ = channel.refs other from Channel.setRef_of_ne channel _ same]
        at outstanding notStoring
      exact values.reference outstanding notStoring

theorem Values.create (values : Values history channel) :
    Values (history ++ [.created channel.senderCount])
      { channel.setSender channel.senderCount .unused with
        state := .taken, senderCount := channel.senderCount + 1, rx := .idle } := by
  refine values.keep rfl rfl (Nat.le_succ _) ?_ ?_ ?_ values.reference rfl
  · intro other isFresh
    rcases Channel.setSender_cases isFresh with ⟨rfl, -⟩ | ⟨-, before⟩
    · intro member
      exact Nat.lt_irrefl _ (values.bounded member)
    · exact values.fresh before
  · intro other isPending
    rcases Channel.setSender_cases isPending with ⟨-, own⟩ | ⟨-, before⟩
    · cases own
    · exact values.pending before
  · intro holds
    cases holds

/-- The receiver takes a step that does not use the cell. -/
theorem Values.setRx (values : Values history channel) {state : State} {rx : RxPc T}
    (waiting : state.holds = true → channel.state.holds = true)
    (unread : ∀ purpose contents, channel.rx ≠ .storing purpose contents)
    (closeDrops : rx.closeDrops = false) (silent : used events = []) :
    Values (history ++ events) { channel with state := state, rx := rx } := by
  refine values.keep silent rfl (Nat.le_refl _) values.fresh values.pending ?_
    values.reference closeDrops
  intro holds after
  exact values.waiting (waiting holds) ⟨unread, after.refs⟩

theorem RxPc.ne_storing {rx : RxPc T} (reads : rx.reads = false) (purpose : Purpose)
    (contents : Contents T) : rx ≠ .storing purpose contents := by
  rintro rfl
  cases reads

theorem Values.transition (values : Values history channel) (owners : Owners channel)
    (alone : byRx → channel.ReceivesAlone) (closes : byRx → channel.ClosesOnce)
    (transition : Transition channel byRx next events) :
    Values (history ++ events) next := by
  cases transition with
  | @senderLocal sender pc move settled =>
      refine values.setSender ?_ ?_ values.waiting rfl
      · intro isFresh
        rcases move with unused | rfl
        · rw [unused]
          rfl
        · cases isFresh
      · intro isPending
        cases settled.symm.trans isPending
  | write at_sender =>
      rw [List.append_nil]
      exact values.write owners at_sender
  | commit at_sender isOpen ended =>
      refine values.setSender ?_ ?_ ?_ rfl
      · intro isFresh
        cases (SenderPc.fresh_eq_false ended).symm.trans isFresh
      · intro isPending
        cases (SenderPc.pending_eq_false ended).symm.trans isPending
      · intro _ _
        exact values.pending (by rw [at_sender]; rfl)
  | refuse at_sender isClosed =>
      refine values.setSender (fun isFresh => by cases isFresh) ?_ ?_ rfl
      · intro _
        rw [at_sender]
        rfl
      · intro _ _
        exact values.pending (by rw [at_sender]; rfl)
  | takeBack at_sender => exact values.takeBack owners at_sender
  | dropTx at_sender =>
      exact values.setSender (fun isFresh => by cases isFresh)
        (fun isPending => by cases isPending) values.waiting rfl
  | rxLocal before reads drops polled =>
      refine values.setRx ?_ (RxPc.ne_storing before) drops rfl
      rcases polled with rfl | rfl <;> exact id
  | create before ready => exact values.create
  | found own at_rx holds reads =>
      refine values.setRx id (RxPc.ne_storing (by rw [at_rx]; rfl)) ?_ rfl
      rcases reads with rfl | ⟨state, rfl, -⟩ <;> rfl
  | foundRef own at_rx holds erased =>
      have live := values.waiting holds
        (.of_polling at_rx (owners.noRef (alone own) at_rx holds))
      exact values.keep rfl rfl (Nat.le_refl _) values.fresh values.pending
        (fun _ _ => live) (fun _ _ => live) rfl
  | read at_rx =>
      rcases at_rx with taking | ⟨state, dropping⟩
      · exact values.read owners (by rw [taking]; rfl) (by simp [taking])
      · exact values.read owners (by rw [dropping]; rfl) (by simp [dropping])
  | @store purpose contents event at_rx reports =>
      have silent : used [event] = [] := by rcases reports with rfl | rfl <;> rfl
      refine values.keep silent rfl (Nat.le_refl _) values.fresh values.pending ?_
        values.reference (by simp)
      intro holds
      cases holds
  | close own at_rx =>
      have once := closes own
      rw [Channel.ClosesOnce, at_rx] at once
      refine values.setRx (fun holds => by cases holds) (by simp [at_rx]) ?_ rfl
      simpa [RxPc.closeDrops] using once
  | closeDrops at_rx =>
      have drops := values.closeDrops
      rw [at_rx] at drops
      cases drops
  | dropCell at_rx =>
      have drops := values.closeDrops
      rw [at_rx] at drops
      cases drops
  | @refLocal ref pc at_ref toPc =>
      have outstanding : channel.refs ref ≠ .gone := by rw [at_ref]; decide
      have live := values.reference outstanding (by rw [at_ref]; decide)
      exact values.keep rfl rfl (Nat.le_refl _) values.fresh values.pending
        (fun _ _ => live) (fun _ _ => live) values.closeDrops
  | refRead at_ref =>
      rcases at_ref with taking | dropping
      · exact values.refRead owners (by rw [taking]; decide) (by rw [taking]; decide)
      · exact values.refRead owners (by rw [dropping]; decide) (by rw [dropping]; decide)
  | refStore at_ref =>
      rw [List.append_nil]
      exact values.refStore
  | erase typed =>
      refine values.keep rfl rfl (Nat.le_refl _) values.fresh values.pending ?_
        values.reference values.closeDrops
      intro holds unread
      exact values.waiting holds ⟨unread.rx, unread.refs⟩

end Values

/-- What holds after every history that keeps the values. -/
structure ValuesSound (history : List (Event T)) (channel : Channel T) : Prop where
  owners : Owners channel
  values : Values history channel

theorem ValuesSound.step {action : Action T} (sound : ValuesSound history channel)
    (keeps : keepsValues channel action)
    (stepTo : channel.step action = some (next, events)) :
    ValuesSound (history ++ events) next := by
  have transition := Channel.step_transition stepTo
  have alone : action = .runRx → channel.ReceivesAlone := by
    rintro rfl
    exact keeps.1
  have closes : action = .runRx → channel.ClosesOnce := by
    rintro rfl
    exact keeps.2
  exact ⟨sound.owners.transition alone transition,
    sound.values.transition sound.owners alone closes transition⟩

theorem used_once (run : Run Channel.step keepsValues (Channel.new T) history channel) :
    UsedOnce history := by
  have sound : ValuesSound history channel := by
    apply run.invariant ValuesSound
    · exact ⟨owners_new, values_new⟩
    · intro past events before after action sound keeps stepTo
      exact sound.step keeps stepTo
  exact sound.values.usedOnce

/-- A reference is dropped, and a send fails after `close`. -/
def eachOnce : List (Action Nat) :=
  [.intoErased, .sender, .runRx, .send 0 5 false, .runSender 0, .runSender 0,
    .recv, .runRx, .dropRef 0, .runRef 0, .runRef 0,
    .sender, .runRx, .send 1 6 true, .close, .runRx, .runRx,
    .runSender 1, .runSender 1, .runSender 1, .runSender 1]

theorem eachOnce_usedOnce :
    ∃ history : List (Event Nat), ∃ channel : Channel Nat,
      Run Channel.step keepsValues (Channel.new Nat) history channel ∧
      used history = [some 0, some 1] ∧ UsedOnce history := by
  obtain ⟨history, channel, run, outcome⟩ := exists_run_of_exec Channel.step keepsValues
    (Channel.new Nat) eachOnce (fun reached => used reached.2)
    (show _ = some [some 0, some 1] by decide +kernel)
  exact ⟨history, channel, run, outcome, used_once run⟩

/-- A send fails after `close` and takes its value back, and the second `close`
drops it. -/
def closedTwice : List (Action Nat) :=
  [.sender, .runRx, .close, .runRx, .runRx, .send 0 5 false,
    .runSender 0, .runSender 0, .runSender 0, .runSender 0,
    .close, .runRx, .runRx, .runRx]

theorem not_usedOnce_closedTwice :
    ¬ ∀ (history : List (Event Nat)) (channel : Channel Nat),
      Run Channel.step anyStep (Channel.new Nat) history channel → UsedOnce history := by
  intro always
  obtain ⟨history, channel, run, outcome⟩ := exists_run_of_exec Channel.step anyStep
    (Channel.new Nat) closedTwice (fun reached => used reached.2)
    (show _ = some [some 0, some 0] by decide +kernel)
  have once := (always history channel run).once
  rw [show used history = [some 0, some 0] from outcome] at once
  simp at once

/-- The message of two references is moved out twice. -/
example :
    (exec Channel.step anyStep (Channel.new Nat)
      [.intoErased, .sender, .runRx, .send 0 5 false, .runSender 0, .runSender 0,
        .recv, .runRx, .recv, .runRx, .downcast 0, .runRef 0, .downcast 1, .runRef 1]).map
      (fun reached => used reached.2) = some [some 0, some 0] := by
  decide +kernel

end Oneshot

end Mgnp
