import Mgnp.Oneshot

/-!
# The steps of the oneshot channel

This file says what one step can do to the state byte and to the value cell, and
which of the moves of a sender, the receiver and a reference concern them.
-/

namespace Mgnp

namespace Oneshot

variable {T : Type*} {channel next : Channel T} {events : List (Event T)} {byRx : Prop}

/-- The sender is unused, in `send` or still going to clear `HAS_TX`. -/
def SenderPc.active : SenderPc T → Bool
  | .unused | .writing _ _ | .finishing _ _ | .takingBack _ | .droppingTx => true
  | .gone | .waking => false

/-- The sender has written the cell and not decided what becomes of the value. -/
def SenderPc.pending : SenderPc T → Bool
  | .finishing _ _ | .takingBack _ => true
  | .gone | .unused | .writing _ _ | .waking | .droppingTx => false

/-- The receiver has found a message and not reset the state yet. -/
def RxPc.reads : RxPc T → Bool
  | .taking _ | .dropping _ | .storing _ _ => true
  | .idle | .polling _ | .waiting _ | .casting | .closing | .closingWait _
  | .droppingCell => false

/-- `close` is going to drop the value in the cell. -/
def RxPc.closeDrops : RxPc T → Bool
  | .closingWait drops => drops
  | .droppingCell => true
  | .idle | .polling _ | .waiting _ | .taking _ | .dropping _ | .storing _ _ | .casting
  | .closing => false

@[simp] theorem Purpose.next_reads (purpose : Purpose) :
    (purpose.next : RxPc T).reads = false := by
  cases purpose with
  | receive => rfl
  | discard state =>
      simp only [Purpose.next]
      split <;> rfl

@[simp] theorem Purpose.next_closeDrops (purpose : Purpose) :
    (purpose.next : RxPc T).closeDrops = false := by
  cases purpose with
  | receive => rfl
  | discard state =>
      simp only [Purpose.next]
      split <;> rfl

/-- One step of the channel, with a statement that holds of the receiver's steps. -/
inductive Transition (channel : Channel T) (byRx : Prop) : Channel T → List (Event T) → Prop
  | senderLocal {sender : Nat} {pc : SenderPc T}
      (move : channel.senders sender = .unused ∨ pc = .gone)
      (settled : pc.pending = false) :
      Transition channel byRx (channel.setSender sender pc) []
  | write {sender : Nat} {value : T} {deser : Bool}
      (at_sender : channel.senders sender = .writing value deser) :
      Transition channel byRx
        { channel.setSender sender (.finishing value deser) with
          cell := some (sender, value) } []
  | commit {sender : Nat} {value : T} {deser : Bool} {pc : SenderPc T}
      (at_sender : channel.senders sender = .finishing value deser)
      (isOpen : channel.state.closed = false) (ended : pc.active = false) :
      Transition channel byRx
        { channel.setSender sender pc with state := { channel.state with sent := true } }
        [.sent sender value]
  | refuse {sender : Nat} {value : T} {deser : Bool}
      (at_sender : channel.senders sender = .finishing value deser)
      (isClosed : channel.state.closed = true) :
      Transition channel byRx
        { channel.setSender sender (.takingBack deser) with
          state := { channel.state with sent := true } } []
  | takeBack {sender : Nat} {deser : Bool}
      (at_sender : channel.senders sender = .takingBack deser) :
      Transition channel byRx (channel.setSender sender .droppingTx) [channel.useCell deser]
  | dropTx {sender : Nat} (at_sender : channel.senders sender = .droppingTx) :
      Transition channel byRx
        { channel.setSender sender .gone with
          state := { channel.state with hasTx := false } } []
  | rxLocal {rx : RxPc T} {state : State} (before : channel.rx.reads = false)
      (reads : rx.reads = false) (drops : rx.closeDrops = false)
      (polled : state = channel.state ∨ state = { channel.state with rxWaiting := true }) :
      Transition channel byRx { channel with state := state, rx := rx } []
  | create (before : channel.rx.reads = false) (ready : channel.state = .ready) :
      Transition channel byRx
        { channel.setSender channel.senderCount .unused with
          state := .taken
          senderCount := channel.senderCount + 1
          rx := .idle } [.created channel.senderCount]
  | found {purpose : Purpose} {rx : RxPc T} (own : byRx)
      (at_rx : channel.rx = .polling purpose) (holds : channel.state.holds = true)
      (reads : rx = .taking purpose ∨ ∃ state, rx = .dropping state ∧ channel.erased = true) :
      Transition channel byRx
        { channel with state := { channel.state with rxWaiting := true }, rx := rx } []
  | foundRef (own : byRx) (at_rx : channel.rx = .polling .receive)
      (holds : channel.state.holds = true) (erased : channel.erased = true) :
      Transition channel byRx
        { channel.setRef channel.refCount .held with
          state := { channel.state with rxWaiting := true }
          refCount := channel.refCount + 1
          rx := .idle } []
  | read {purpose : Purpose} {drops : Bool}
      (at_rx : channel.rx = .taking purpose ∨ ∃ state, channel.rx = .dropping state) :
      Transition channel byRx { channel with rx := .storing purpose channel.cell }
        [channel.useCell drops]
  | store {purpose : Purpose} {contents : Contents T} {event : Event T}
      (at_rx : channel.rx = .storing purpose contents)
      (reports : event = .received contents ∨ event = .tossed contents) :
      Transition channel byRx { channel with state := .ready, rx := purpose.next } [event]
  | close (own : byRx) (at_rx : channel.rx = .closing) :
      Transition channel byRx
        { channel with
          state := .shut
          rx := .closingWait (channel.state.sent && !channel.state.hasTx) } [.closed]
  | closeDrops (at_rx : channel.rx = .closingWait true) :
      Transition channel byRx { channel with rx := .droppingCell } []
  | dropCell (at_rx : channel.rx = .droppingCell) :
      Transition channel byRx { channel with rx := .idle } [channel.useCell true]
  | refLocal {ref : Nat} {pc : RefPc} (at_ref : channel.refs ref = .held)
      (next : pc = .taking ∨ pc = .dropping) :
      Transition channel byRx (channel.setRef ref pc) []
  | refRead {ref : Nat} {drops : Bool}
      (at_ref : channel.refs ref = .taking ∨ channel.refs ref = .dropping) :
      Transition channel byRx (channel.setRef ref .storing) [channel.useCell drops]
  | refStore {ref : Nat} (at_ref : channel.refs ref = .storing) :
      Transition channel byRx { channel.setRef ref .gone with state := .ready } []
  | erase (typed : channel.erased = false) :
      Transition channel byRx { channel with erased := true } []

section Transitions

theorem Channel.runSender_transition {sender : Nat}
    (ran : channel.runSender sender = some (next, events)) :
    Transition channel byRx next events := by
  unfold Channel.runSender at ran
  split at ran
  · rename_i value deser at_sender
    cases ran
    exact .write at_sender
  · rename_i value deser at_sender
    split at ran <;> cases ran
    · rename_i isClosed
      exact .refuse at_sender isClosed
    · rename_i isOpen
      exact .commit at_sender (by simpa using isOpen) (by split <;> rfl)
  · cases ran
    exact .senderLocal (.inr rfl) rfl
  · rename_i deser at_sender
    cases ran
    exact .takeBack at_sender
  · rename_i at_sender
    cases ran
    exact .dropTx at_sender
  all_goals cases ran

theorem Channel.runRx_transition (own : byRx) (ran : channel.runRx = some (next, events)) :
    Transition channel byRx next events := by
  have unread : ∀ {rx}, channel.rx = rx → rx.reads = false → channel.rx.reads = false := by
    rintro rx rfl reads
    exact reads
  unfold Channel.runRx at ran
  split at ran
  · rename_i at_rx
    split at ran
    · rename_i ready
      cases ran
      exact .create (unread at_rx rfl) ready
    · split at ran <;> cases ran
      · exact .rxLocal (unread at_rx rfl) rfl rfl (.inl rfl)
      · exact .rxLocal (unread at_rx rfl) (by simp) (by simp) (.inl rfl)
  · rename_i purpose at_rx
    split at ran
    · cases ran
      exact .rxLocal (unread at_rx rfl) (by simp) (by simp) (.inr rfl)
    · rename_i isOpen
      split at ran
      · rename_i isSent
        have holds : channel.state.holds = true := by simp [State.holds, isOpen, isSent]
        split at ran <;> cases ran
        · exact .found own at_rx holds (.inl rfl)
        · rename_i erased
          exact .foundRef own at_rx holds erased
        · rename_i state erased
          exact .found own at_rx holds (.inr ⟨state, rfl, erased⟩)
      · split at ran <;> cases ran
        · exact .rxLocal (unread at_rx rfl) rfl rfl (.inr rfl)
        · exact .rxLocal (unread at_rx rfl) (by simp) (by simp) (.inr rfl)
  · rename_i purpose at_rx
    cases ran
    exact .read (.inl at_rx)
  · rename_i state at_rx
    cases ran
    exact .read (.inr ⟨state, at_rx⟩)
  · rename_i purpose contents at_rx
    cases ran
    cases purpose with
    | receive => exact .store at_rx (.inl rfl)
    | discard state => exact .store at_rx (.inr rfl)
  · rename_i at_rx
    cases ran
    exact .close own at_rx
  · rename_i drops at_rx
    cases ran
    cases drops with
    | true => exact .closeDrops at_rx
    | false => exact .rxLocal (unread at_rx rfl) rfl rfl (.inl rfl)
  · rename_i at_rx
    cases ran
    exact .dropCell at_rx
  all_goals cases ran

theorem Channel.runRef_transition {ref : Nat}
    (ran : channel.runRef ref = some (next, events)) : Transition channel byRx next events := by
  unfold Channel.runRef at ran
  split at ran <;> cases ran
  · rename_i at_ref
    exact .refRead (.inl at_ref)
  · rename_i at_ref
    exact .refRead (.inr at_ref)
  · rename_i at_ref
    exact .refStore at_ref

theorem Channel.start_transition {rx : RxPc T} (started : channel.start rx = some next)
    (reads : rx.reads = false) (drops : rx.closeDrops = false) :
    Transition channel byRx next [] := by
  unfold Channel.start at started
  split at started <;> cases started
  rename_i idle
  exact .rxLocal (by rw [idle]; rfl) reads drops (.inl rfl)

theorem Channel.step_transition {action : Action T}
    (stepTo : channel.step action = some (next, events)) :
    Transition channel (action = .runRx) next events := by
  cases action with
  | send | dropSender =>
      simp only [Channel.step] at stepTo
      split at stepTo <;> cases stepTo
      rename_i unused
      exact .senderLocal (.inl unused) rfl
  | runSender sender => exact runSender_transition stepTo
  | sender | recv | close =>
      simp only [Channel.step, Option.map_eq_some_iff, Prod.mk.injEq] at stepTo
      obtain ⟨after, started, rfl, rfl⟩ := stepTo
      exact start_transition started rfl rfl
  | intoErased =>
      simp only [Channel.step] at stepTo
      split at stepTo
      · cases stepTo
      · rename_i typed
        simp only [Option.map_eq_some_iff, Prod.mk.injEq] at stepTo
        obtain ⟨after, started, rfl, rfl⟩ := stepTo
        unfold Channel.start at started
        split at started <;> cases started
        rename_i idle
        rw [← idle]
        exact .erase (by simpa using typed)
  | runRx => exact runRx_transition rfl stepTo
  | woken | cancel =>
      simp only [Channel.step] at stepTo
      split at stepTo <;> cases stepTo
      rename_i at_rx
      exact .rxLocal (by rw [at_rx]; rfl) rfl rfl (.inl rfl)
  | waitClosed =>
      simp only [Channel.step] at stepTo
      split at stepTo <;> cases stepTo
      rename_i at_rx
      exact .rxLocal (by rw [at_rx]; rfl) (by simp) (by simp) (.inl rfl)
  | downcast ref =>
      simp only [Channel.step] at stepTo
      split at stepTo <;> cases stepTo
      rename_i at_ref
      exact .refLocal at_ref (.inl rfl)
  | dropRef ref =>
      simp only [Channel.step] at stepTo
      split at stepTo <;> cases stepTo
      rename_i at_ref
      exact .refLocal at_ref (.inr rfl)
  | runRef ref => exact runRef_transition stepTo

end Transitions

end Oneshot

end Mgnp
