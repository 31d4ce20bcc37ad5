import Mgnp.OnePlaceBuffer
import Mgnp.OneshotOwners

/-!
# The messages of a oneshot channel with a typed receiver

The channel is a buffer with one place.  A send that succeeds puts its value into
it, a receive gets it, `take_sender` tosses it and `close` clears it.  No sender is
in the cell together with the receiver as long as `close` has been called once.
-/

namespace Mgnp

namespace Oneshot

open LabelledRuns

variable {T : Type*} {channel next : Channel T} {history events : List (Event T)}
  {byRx : Prop}

/-- The run never turns the receiver into an `ErasedReceiver`. -/
def typedReceiver (_ : Channel T) : Action T → Prop
  | .intoErased => False
  | _ => True

instance (channel : Channel T) (action : Action T) : Decidable (typedReceiver channel action) :=
  match action with
  | .intoErased => isFalse id
  | .send _ _ _ | .dropSender _ | .runSender _ | .sender | .recv | .close | .runRx | .woken
  | .waitClosed | .cancel | .downcast _ | .dropRef _ | .runRef _ => isTrue trivial

/-- A typed receiver hands out no references. -/
structure Typed (channel : Channel T) : Prop where
  typed : channel.erased = false
  noRef : ∀ ref, channel.refs ref = .gone

theorem typed_new : Typed (Channel.new T) := ⟨rfl, fun _ => rfl⟩

theorem Channel.step_erased {action : Action T} (typed : typedReceiver channel action)
    (stepTo : channel.step action = some (next, events)) : next.erased = channel.erased := by
  cases action with
  | intoErased => cases typed
  | runSender sender =>
      simp only [Channel.step, Channel.runSender] at stepTo
      repeat' split at stepTo
      all_goals cases stepTo <;> rfl
  | runRx =>
      simp only [Channel.step, Channel.runRx] at stepTo
      repeat' split at stepTo
      all_goals cases stepTo <;> rfl
  | runRef ref =>
      simp only [Channel.step, Channel.runRef] at stepTo
      repeat' split at stepTo
      all_goals cases stepTo <;> rfl
  | sender | recv | close =>
      simp only [Channel.step, Channel.start, Option.map_eq_some_iff, Prod.mk.injEq] at stepTo
      obtain ⟨after, started, rfl, rfl⟩ := stepTo
      split at started <;> cases started
      rfl
  | send | dropSender | woken | waitClosed | cancel | downcast | dropRef =>
      simp only [Channel.step] at stepTo
      split at stepTo <;> cases stepTo
      rfl

theorem Typed.step {action : Action T} (kept : Typed channel)
    (typed : typedReceiver channel action)
    (stepTo : channel.step action = some (next, events)) : Typed next := by
  refine ⟨(Channel.step_erased typed stepTo).trans kept.typed, ?_⟩
  cases Channel.step_transition stepTo with
  | foundRef own at_rx holds erased => cases kept.typed.symm.trans erased
  | refLocal at_ref next => cases at_ref.symm.trans (kept.noRef _)
  | refRead at_ref => simp [kept.noRef] at at_ref
  | refStore at_ref => cases at_ref.symm.trans (kept.noRef _)
  | _ => exact kept.noRef

/-- What the operations do with the one place of the channel. -/
def slotOps (history : List (Event T)) : List (OnePlaceBuffer.Op Nat T) :=
  history.filterMap fun
    | .sent sender value => some (.put sender value)
    | .received contents => some (.get contents)
    | .tossed contents => some (.toss contents)
    | .closed => some .clear
    | _ => none

theorem slotOps_append : slotOps (history ++ events) = slotOps history ++ slotOps events :=
  List.filterMap_append

/-- How often `close` has swapped the state. -/
def closes (history : List (Event T)) : Nat :=
  history.countP fun
    | .closed => true
    | _ => false

theorem closes_append : closes (history ++ events) = closes history + closes events :=
  List.countP_append

/-- The message that waits to be received. -/
def Channel.slot (channel : Channel T) : Contents T :=
  if channel.state.holds then channel.cell else none

theorem Channel.slot_of_holds (holds : channel.state.holds = true) :
    channel.slot = channel.cell :=
  if_pos holds

theorem Channel.slot_of_not_holds (empty : channel.state.holds = false) :
    channel.slot = none := by
  rw [slot, empty]
  rfl

/-- The cell holds what a sender that is about to decide has written, and what
the receiver has read. -/
structure Filled (channel : Channel T) : Prop where
  written : ∀ {sender value deser}, channel.senders sender = .finishing value deser →
    channel.cell = some (sender, value)
  stored : ∀ {purpose contents}, channel.rx = .storing purpose contents →
    channel.cell = contents
  full : channel.state.holds = true → ∃ item, channel.cell = some item

theorem filled_new : Filled (Channel.new T) where
  written at_sender := by cases at_sender
  stored at_rx := by cases at_rx
  full holds := by cases holds

section Filled

/-- A sender takes a step that writes nothing. -/
theorem Filled.setSender (filled : Filled channel) {sender : Nat} {pc : SenderPc T}
    {state : State} (settled : ∀ {value deser}, pc ≠ .finishing value deser)
    (full : state.holds = true → ∃ item, channel.cell = some item) :
    Filled { channel.setSender sender pc with state := state } := by
  constructor
  · intro other value deser at_other
    by_cases same : other = sender
    · subst same
      exact absurd ((Channel.setSender_self ..).symm.trans at_other) settled
    · exact filled.written ((Channel.setSender_of_ne channel pc same).symm.trans at_other)
  · exact filled.stored
  · exact full

theorem Owners.filled_write (owners : Owners channel) {sender : Nat} {value : T} {deser : Bool}
    (at_sender : channel.senders sender = .writing value deser) :
    Filled { channel.setSender sender (.finishing value deser) with
      cell := some (sender, value) } := by
  have own : (channel.senders sender).active = true := by rw [at_sender]; rfl
  constructor
  · intro other otherValue otherDeser at_other
    by_cases same : other = sender
    · subst same
      cases (Channel.setSender_self ..).symm.trans at_other
      rfl
    · have before := (Channel.setSender_of_ne channel _ same).symm.trans at_other
      exact absurd (owners.oneSender (by rw [before]; rfl) own) same
  · intro purpose contents at_rx
    have unread := (owners.apart own).1
    rw [show channel.rx = .storing purpose contents from at_rx] at unread
    cases unread
  · intro holds
    exact ⟨_, rfl⟩

/-- The receiver takes a step. -/
theorem Filled.setRx (filled : Filled channel) {state : State} {rx : RxPc T}
    (stored : ∀ {purpose contents}, rx = .storing purpose contents → channel.cell = contents)
    (holds : state.holds = true → channel.state.holds = true) :
    Filled { channel with state := state, rx := rx } :=
  ⟨filled.written, stored, fun found => filled.full (holds found)⟩

theorem RxPc.not_storing {rx : RxPc T} (reads : rx.reads = false) {purpose : Purpose}
    {contents other : Contents T} (at_rx : rx = .storing purpose contents) :
    other = contents := by
  rw [at_rx] at reads
  cases reads

theorem Filled.transition (filled : Filled channel) (owners : Owners channel)
    (transition : Transition channel byRx next events) : Filled next := by
  cases transition with
  | senderLocal move settled =>
      refine filled.setSender ?_ filled.full
      rintro value deser rfl
      cases settled
  | write at_sender => exact owners.filled_write at_sender
  | commit at_sender isOpen ended =>
      refine filled.setSender ?_ fun _ => ⟨_, filled.written at_sender⟩
      rintro value deser rfl
      cases ended
  | refuse at_sender isClosed =>
      refine filled.setSender (by simp) ?_
      intro holds
      simp [State.holds, isClosed] at holds
  | takeBack at_sender => exact filled.setSender (by simp) filled.full
  | dropTx at_sender => exact filled.setSender (by simp) filled.full
  | rxLocal before reads drops polled =>
      refine filled.setRx (RxPc.not_storing reads) ?_
      rcases polled with rfl | rfl <;> exact id
  | create before ready =>
      have created : Filled
          { channel.setSender channel.senderCount .unused with state := .taken } := by
        refine filled.setSender (by simp) ?_
        intro holds
        cases holds
      exact ⟨created.written, fun at_storing => (by cases at_storing), created.full⟩
  | found own at_rx holds reads =>
      refine filled.setRx ?_ id
      intro purpose contents at_storing
      rcases reads with rfl | ⟨state, rfl, -⟩ <;> cases at_storing
  | foundRef own at_rx holds erased =>
      exact ⟨filled.written, fun at_storing => (by cases at_storing), filled.full⟩
  | read at_rx =>
      refine filled.setRx ?_ id
      intro purpose contents at_storing
      cases at_storing
      rfl
  | store at_rx reports =>
      refine filled.setRx (RxPc.not_storing (by simp)) ?_
      intro holds
      cases holds
  | close own at_rx =>
      refine filled.setRx (fun at_storing => by cases at_storing) ?_
      intro holds
      cases holds
  | closeDrops at_rx => exact filled.setRx (fun at_storing => by cases at_storing) id
  | dropCell at_rx => exact filled.setRx (fun at_storing => by cases at_storing) id
  | refLocal at_ref next => exact ⟨filled.written, filled.stored, filled.full⟩
  | refRead at_ref => exact ⟨filled.written, filled.stored, filled.full⟩
  | refStore at_ref =>
      refine ⟨filled.written, filled.stored, ?_⟩
      intro holds
      cases holds
  | erase typed => exact ⟨filled.written, filled.stored, filled.full⟩

end Filled

section Typed

/-- A step that leaves the waiting message alone. -/
theorem slot_congr (holds : next.state.holds = channel.state.holds)
    (cell : next.cell = channel.cell) : next.slot = channel.slot := by
  rw [Channel.slot, Channel.slot, holds, cell]

/-- With a typed receiver, the channel makes at most one step of the buffer. -/
theorem Transition.slot_step (transition : Transition channel byRx next events)
    (owners : Owners channel) (filled : Filled channel) (typed : Typed channel) :
    (slotOps events = [] ∧ next.slot = channel.slot) ∨
      ∃ op, slotOps events = [op] ∧ OnePlaceBuffer.Step channel.slot op next.slot := by
  cases transition with
  | senderLocal move settled => exact .inl ⟨rfl, rfl⟩
  | write at_sender =>
      have empty := owners.not_holds (by rw [at_sender]; rfl)
      refine .inl ⟨rfl, ?_⟩
      rw [Channel.slot_of_not_holds empty]
      exact Channel.slot_of_not_holds empty
  | @commit sender value deser pc at_sender isOpen ended =>
      refine .inr ⟨.put sender value, rfl, ?_⟩
      rw [Channel.slot_of_not_holds (owners.not_holds (by rw [at_sender]; rfl)),
        Channel.slot_of_holds (by simp [State.holds, isOpen])]
      change OnePlaceBuffer.Step none (.put sender value) channel.cell
      rw [filled.written at_sender]
      exact .put sender value
  | refuse at_sender isClosed =>
      exact .inl ⟨rfl, slot_congr (by simp [State.holds, isClosed]) rfl⟩
  | @takeBack sender deser at_sender =>
      refine .inl ⟨?_, rfl⟩
      cases deser <;> rfl
  | dropTx at_sender => exact .inl ⟨rfl, rfl⟩
  | rxLocal before reads drops polled =>
      refine .inl ⟨rfl, slot_congr ?_ rfl⟩
      rcases polled with rfl | rfl <;> rfl
  | create before ready =>
      refine .inl ⟨rfl, slot_congr ?_ rfl⟩
      rw [ready]
      rfl
  | found own at_rx holds reads => exact .inl ⟨rfl, rfl⟩
  | foundRef own at_rx holds erased => exact .inl ⟨rfl, rfl⟩
  | @read purpose drops at_rx =>
      refine .inl ⟨?_, rfl⟩
      cases drops <;> rfl
  | store at_rx reports =>
      have holds := (owners.reads (by rw [at_rx]; rfl)).1
      obtain ⟨item, cell⟩ := filled.full holds
      have contents := filled.stored at_rx
      rw [Channel.slot_of_holds holds, cell]
      rw [cell] at contents
      subst contents
      rcases reports with rfl | rfl
      · exact .inr ⟨_, rfl, .get item⟩
      · exact .inr ⟨_, rfl, .toss item⟩
  | close own at_rx => exact .inr ⟨.clear, rfl, .clear _⟩
  | closeDrops at_rx => exact .inl ⟨rfl, rfl⟩
  | dropCell at_rx => exact .inl ⟨rfl, rfl⟩
  | refLocal at_ref next => exact .inl ⟨rfl, rfl⟩
  | @refRead ref drops at_ref =>
      refine .inl ⟨?_, rfl⟩
      cases drops <;> rfl
  | refStore at_ref => cases at_ref.symm.trans (typed.noRef _)
  | erase typed => exact .inl ⟨rfl, rfl⟩

/-- The first `close` drops nothing: only a state that is already closed has a
message and no sender. -/
structure Closes (history : List (Event T)) (channel : Channel T) : Prop where
  closed : channel.state.closed = true → 1 ≤ closes history
  drops : channel.rx.closeDrops = true → 2 ≤ closes history

theorem closes_new : Closes [] (Channel.new T) where
  closed isClosed := by cases isClosed
  drops closeDrops := by cases closeDrops

theorem Closes.keep (counted : Closes history channel)
    (closed : next.state.closed = true → channel.state.closed = true)
    (drops : next.rx.closeDrops = true → channel.rx.closeDrops = true) :
    Closes (history ++ events) next := by
  constructor
  · intro isClosed
    have before := counted.closed (closed isClosed)
    rw [closes_append]
    omega
  · intro closeDrops
    have before := counted.drops (drops closeDrops)
    rw [closes_append]
    omega

theorem Closes.transition (counted : Closes history channel) (owners : Owners channel)
    (transition : Transition channel byRx next events) : Closes (history ++ events) next := by
  cases transition with
  | rxLocal before reads drops polled =>
      refine counted.keep ?_ ?_
      · rcases polled with rfl | rfl <;> exact id
      · intro closeDrops
        cases drops.symm.trans closeDrops
  | create before ready =>
      exact counted.keep (fun isClosed => by cases isClosed) fun drops => by cases drops
  | found own at_rx holds reads =>
      refine counted.keep id ?_
      intro drops
      rcases reads with rfl | ⟨state, rfl, -⟩ <;> cases drops
  | foundRef own at_rx holds erased => exact counted.keep id fun drops => by cases drops
  | read at_rx => exact counted.keep id fun drops => by cases drops
  | store at_rx reports =>
      refine counted.keep (fun isClosed => by cases isClosed) ?_
      intro drops
      rw [Purpose.next_closeDrops] at drops
      cases drops
  | close own at_rx =>
      constructor
      · intro _
        rw [closes_append]
        exact Nat.le_add_left ..
      · intro drops
        rw [closes_append]
        have isClosed : channel.state.closed = true := by
          by_contra isOpen
          obtain ⟨isSent, noTx⟩ : channel.state.sent = true ∧ channel.state.hasTx = false := by
            simpa [RxPc.closeDrops] using drops
          cases noTx.symm.trans (owners.hasTx (Bool.of_not_eq_true isOpen) isSent)
        exact Nat.add_le_add_right (counted.closed isClosed) 1
  | closeDrops at_rx =>
      refine counted.keep id fun _ => ?_
      rw [at_rx]
      rfl
  | dropCell at_rx => exact counted.keep id fun drops => by cases drops
  | refStore at_ref => exact counted.keep (fun isClosed => by cases isClosed) id
  | _ => exact counted.keep id id

end Typed

/-- What holds after every history of a channel with a typed receiver. -/
structure TypedSound (history : List (Event T)) (channel : Channel T) : Prop where
  typed : Typed channel
  owners : Owners channel
  filled : Filled channel
  closes : Closes history channel
  trace : OnePlaceBuffer.Trace none (slotOps history) channel.slot

theorem Typed.receivesAlone (typed : Typed channel) : channel.ReceivesAlone := by
  unfold Channel.ReceivesAlone
  split
  · exact fun _ ref _ => typed.noRef ref
  · trivial

theorem TypedSound.step {action : Action T} (sound : TypedSound history channel)
    (typed : typedReceiver channel action)
    (stepTo : channel.step action = some (next, events)) :
    TypedSound (history ++ events) next := by
  have transition := Channel.step_transition stepTo
  refine ⟨sound.typed.step typed stepTo,
    sound.owners.transition (fun _ => sound.typed.receivesAlone) transition,
    sound.filled.transition sound.owners transition,
    sound.closes.transition sound.owners transition, ?_⟩
  rw [slotOps_append]
  rcases transition.slot_step sound.owners sound.filled sound.typed with
    ⟨silent, same⟩ | ⟨op, one, step⟩
  · rw [silent, List.append_nil, same]
    exact sound.trace
  · rw [one]
    exact sound.trace.snoc step

theorem typedSound_of_run
    (run : Run Channel.step typedReceiver (Channel.new T) history channel) :
    TypedSound history channel := by
  apply run.invariant TypedSound
  · exact ⟨typed_new, owners_new, filled_new, closes_new, .nil⟩
  · intro past events before after action sound typed stepTo
    exact sound.step typed stepTo

/-- The sender is inside the value cell. -/
def SenderPc.inCell : SenderPc T → Bool
  | .writing _ _ | .takingBack _ => true
  | .gone | .unused | .finishing _ _ | .waking | .droppingTx => false

/-- The receiver is inside the value cell. -/
def RxPc.inCell : RxPc T → Bool
  | .taking _ | .dropping _ | .droppingCell => true
  | .idle | .polling _ | .waiting _ | .storing _ _ | .casting | .closing
  | .closingWait _ => false

theorem SenderPc.active_of_inCell {pc : SenderPc T} (inside : pc.inCell = true) :
    pc.active = true := by
  cases pc <;> first | rfl | cases inside

theorem RxPc.reads_or_closeDrops {rx : RxPc T} (inside : rx.inCell = true) :
    rx.reads = true ∨ rx.closeDrops = true := by
  cases rx <;> first | exact .inl rfl | exact .inr rfl | cases inside

/-- The values that receives returned. -/
def received (history : List (Event T)) : List (Option T) :=
  (OnePlaceBuffer.got (slotOps history)).map (Option.map Prod.snd)

/-- The values of the sends that succeeded, in the order in which they did, without
those that `take_sender` or `close` discards later. -/
def delivered (history : List (Event T)) : List T :=
  (OnePlaceBuffer.kept (slotOps history)).map Prod.snd

/-- What a task that drives a typed receiver can rely on. -/
structure Delivers (history : List (Event T)) (channel : Channel T) : Prop where
  oneUnused : ∀ first second, channel.senders first = .unused →
    channel.senders second = .unused → first = second
  exclusive : closes history ≤ 1 → ∀ sender, (channel.senders sender).inCell = true →
    channel.rx.inCell = false
  inOrder : received history <+: (delivered history).map some

theorem typed_delivers
    (run : Run Channel.step typedReceiver (Channel.new T) history channel) :
    Delivers history channel := by
  have sound := typedSound_of_run run
  constructor
  · intro first second atFirst atSecond
    exact sound.owners.oneSender (by rw [atFirst]; rfl) (by rw [atSecond]; rfl)
  · intro once sender inside
    obtain ⟨unread, -⟩ := sound.owners.apart (SenderPc.active_of_inCell inside)
    by_contra rxInside
    rcases RxPc.reads_or_closeDrops (Bool.of_not_eq_false rxInside) with reads | drops
    · cases unread.symm.trans reads
    · have twice := sound.closes.drops drops
      omega
  · obtain ⟨later, whole⟩ := sound.trace.got_prefix
    have whole' := congrArg (List.map (Option.map Prod.snd)) whole
    rw [List.map_append] at whole'
    refine ⟨later.map (Option.map Prod.snd), ?_⟩
    rw [received, whole', delivered]
    simp [OnePlaceBuffer.keptFrom]

/-- A message is tossed, the next one is received, and one is sent and not received. -/
def reuse : List (Action Nat) :=
  [.sender, .runRx, .send 0 5 false, .runSender 0, .runSender 0,
    .sender, .runRx, .runRx, .runRx, .runRx,
    .sender, .runRx, .send 1 6 true, .recv, .runRx, .runSender 1, .runSender 1, .woken,
    .runRx, .runRx, .runRx, .sender, .runRx, .send 2 7 false, .runSender 2, .runSender 2]

theorem reuse_delivers :
    ∃ history : List (Event Nat), ∃ channel : Channel Nat,
      Run Channel.step typedReceiver (Channel.new Nat) history channel ∧
      received history = [some 6] ∧ delivered history = [6, 7] ∧
      Delivers history channel := by
  obtain ⟨history, channel, run, outcome⟩ := exists_run_of_exec Channel.step typedReceiver
    (Channel.new Nat) reuse (fun reached => (received reached.2, delivered reached.2))
    (show _ = some ([some 6], [6, 7]) by decide +kernel)
  simp only [Prod.mk.injEq] at outcome
  exact ⟨history, channel, run, outcome.1, outcome.2, typed_delivers run⟩

end Oneshot

end Mgnp
