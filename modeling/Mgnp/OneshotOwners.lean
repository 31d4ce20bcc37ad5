import Mgnp.OneshotTransitions

/-!
# Who may use the value cell of a oneshot channel

While the channel is open, the state byte says who owns the cell: a sender that
has not sent, the channel itself, or the one receive or received reference that
reads it.  An old sender's tail steps do not touch the byte again, so the next
generation is not disturbed.
-/

namespace Mgnp

namespace Oneshot

variable {T : Type*} {channel next : Channel T} {events : List (Event T)} {byRx : Prop}

@[simp] theorem Channel.setSender_self (channel : Channel T) (sender : Nat) (pc : SenderPc T) :
    (channel.setSender sender pc).senders sender = pc :=
  Function.update_self ..

theorem Channel.setSender_of_ne (channel : Channel T) {sender other : Nat} (pc : SenderPc T)
    (ne : other ≠ sender) :
    (channel.setSender sender pc).senders other = channel.senders other :=
  Function.update_of_ne ne ..

/-- What a sender shows after a step of one of them. -/
theorem Channel.setSender_cases {part : SenderPc T → Bool} {sender other : Nat} {pc : SenderPc T}
    (found : part ((channel.setSender sender pc).senders other) = true) :
    (other = sender ∧ part pc = true) ∨
      (other ≠ sender ∧ part (channel.senders other) = true) := by
  by_cases same : other = sender
  · subst same
    rw [setSender_self] at found
    exact .inl ⟨rfl, found⟩
  · rw [setSender_of_ne channel pc same] at found
    exact .inr ⟨same, found⟩

@[simp] theorem Channel.setRef_self (channel : Channel T) (ref : Nat) (pc : RefPc) :
    (channel.setRef ref pc).refs ref = pc :=
  Function.update_self ..

theorem Channel.setRef_of_ne (channel : Channel T) {ref other : Nat} (pc : RefPc)
    (ne : other ≠ ref) : (channel.setRef ref pc).refs other = channel.refs other :=
  Function.update_of_ne ne ..

/-- No received reference is outstanding. -/
def Channel.Unreferenced (channel : Channel T) : Prop :=
  ∀ ref < channel.refCount, channel.refs ref = .gone

instance (channel : Channel T) : Decidable channel.Unreferenced :=
  inferInstanceAs (Decidable (∀ ref < channel.refCount, channel.refs ref = .gone))

/-- The poll does not find the message of an outstanding reference. -/
def Channel.ReceivesAlone (channel : Channel T) : Prop :=
  match channel.rx with
  | .polling _ => channel.state.holds = true → channel.Unreferenced
  | _ => True

/-- Who owns the cell of the channel. -/
structure Owners (channel : Channel T) : Prop where
  oneSender : ∀ {first second}, (channel.senders first).active = true →
    (channel.senders second).active = true → first = second
  sender : channel.state.closed = false → ∀ {sender}, (channel.senders sender).active = true →
    channel.state.hasTx = true ∧ channel.state.sent = false
  hasTx : channel.state.closed = false → channel.state.sent = true → channel.state.hasTx = true
  apart : ∀ {sender}, (channel.senders sender).active = true →
    channel.rx.reads = false ∧ ∀ ref, channel.refs ref = .gone
  reads : channel.rx.reads = true → channel.state.holds = true ∧ ∀ ref, channel.refs ref = .gone
  references : ∀ {ref}, channel.refs ref ≠ .gone →
    channel.state.sent = true ∨ channel.state.closed = true
  oneRef : ∀ {first second}, channel.refs first ≠ .gone → channel.refs second ≠ .gone →
    first = second
  senderCount : ∀ {sender}, (channel.senders sender).active = true →
    sender < channel.senderCount
  refCount : ∀ {ref}, channel.refs ref ≠ .gone → ref < channel.refCount

theorem owners_new : Owners (Channel.new T) where
  oneSender active := by cases active
  sender _ _ active := by cases active
  hasTx _ sent := by cases sent
  apart active := by cases active
  reads reads := by cases reads
  references outstanding := absurd rfl outstanding
  oneRef outstanding := absurd rfl outstanding
  senderCount active := by cases active
  refCount outstanding := absurd rfl outstanding

section Owners

theorem Owners.unreferenced (owners : Owners channel) (none : channel.Unreferenced) (ref : Nat) :
    channel.refs ref = .gone := by
  by_contra outstanding
  exact outstanding (none ref (owners.refCount outstanding))

/-- No message waits while a sender is in the cell or may still enter it. -/
theorem Owners.not_holds (owners : Owners channel) {sender : Nat}
    (active : (channel.senders sender).active = true) : channel.state.holds = false := by
  cases isClosed : channel.state.closed with
  | true => simp [State.holds, isClosed]
  | false =>
      have unsent := (owners.sender isClosed active).2
      simp [State.holds, unsent]

/-- No sender is in the cell while a message waits or is read. -/
theorem Owners.inactive_of_holds (owners : Owners channel)
    (holds : channel.state.holds = true) (sender : Nat) :
    (channel.senders sender).active = false := by
  by_contra active
  cases (owners.not_holds (Bool.of_not_eq_false active)).symm.trans holds

theorem Owners.inactive_of_reference (owners : Owners channel) {ref : Nat}
    (outstanding : channel.refs ref ≠ .gone) (sender : Nat) :
    (channel.senders sender).active = false := by
  by_contra active
  exact outstanding ((owners.apart (Bool.of_not_eq_false active)).2 ref)

/-- A step of one sender that was active, which keeps the byte's answer about
active senders. -/
theorem Owners.setSender (owners : Owners channel) {sender : Nat} {pc : SenderPc T}
    {state : State} {cell : Contents T}
    (active : pc.active = true → (channel.senders sender).active = true)
    (closed : state.closed = channel.state.closed)
    (bits : pc.active = true → state.closed = false → state.hasTx = true ∧ state.sent = false)
    (others : ∀ {other}, other ≠ sender → (channel.senders other).active = true →
      state.hasTx = channel.state.hasTx ∧ state.sent = channel.state.sent)
    (hasTx : state.closed = false → state.sent = true → state.hasTx = true)
    (reads : channel.rx.reads = true → state.sent = channel.state.sent)
    (references : ∀ {ref}, channel.refs ref ≠ .gone → channel.state.sent = true →
      state.sent = true) :
    Owners { channel.setSender sender pc with state := state, cell := cell } := by
  have before : ∀ {other}, ((channel.setSender sender pc).senders other).active = true →
      (channel.senders other).active = true := by
    intro other found
    rcases Channel.setSender_cases found with ⟨rfl, own⟩ | ⟨-, before⟩
    · exact active own
    · exact before
  constructor
  · intro first second atFirst atSecond
    exact owners.oneSender (before atFirst) (before atSecond)
  · intro isOpen other found
    rcases Channel.setSender_cases found with ⟨rfl, own⟩ | ⟨ne, before⟩
    · exact bits own isOpen
    · obtain ⟨sameTx, sameSent⟩ := others ne before
      obtain ⟨isTx, unsent⟩ := owners.sender (closed ▸ isOpen) before
      exact ⟨sameTx.trans isTx, sameSent.trans unsent⟩
  · exact hasTx
  · intro other found
    exact owners.apart (before found)
  · intro isReading
    obtain ⟨holds, none⟩ := owners.reads isReading
    refine ⟨?_, none⟩
    change (state.sent && !state.closed) = true
    rw [reads isReading, closed]
    exact holds
  · intro ref outstanding
    rcases owners.references outstanding with isSent | isClosed
    · exact .inl (references outstanding isSent)
    · exact .inr (closed.trans isClosed)
  · exact owners.oneRef
  · intro other found
    exact owners.senderCount (before found)
  · exact owners.refCount

/-- A step of a task that leaves the senders alone. -/
theorem Owners.setRx (owners : Owners channel) {rx : RxPc T} {state : State}
    (after : rx.reads = false)
    (closed : state.closed = channel.state.closed) (hasTx : state.hasTx = channel.state.hasTx)
    (sent : state.sent = channel.state.sent) :
    Owners { channel with state := state, rx := rx } := by
  constructor
  · exact owners.oneSender
  · intro isOpen sender active
    obtain ⟨isTx, unsent⟩ := owners.sender (closed ▸ isOpen) active
    exact ⟨hasTx.trans isTx, sent.trans unsent⟩
  · intro isOpen isSent
    exact hasTx.trans (owners.hasTx (closed ▸ isOpen) (sent ▸ isSent))
  · intro sender active
    exact ⟨after, (owners.apart active).2⟩
  · intro isReading
    rw [after] at isReading
    cases isReading
  · intro ref outstanding
    rcases owners.references outstanding with isSent | isClosed
    · exact .inl (sent.trans isSent)
    · exact .inr (closed.trans isClosed)
  · exact owners.oneRef
  · exact owners.senderCount
  · exact owners.refCount

theorem Owners.create (owners : Owners channel) (ready : channel.state = .ready) :
    Owners { channel.setSender channel.senderCount .unused with
      state := .taken, senderCount := channel.senderCount + 1, rx := .idle } := by
  have isOpen : channel.state.closed = false := by rw [ready]; rfl
  have noSender : ∀ {sender}, (channel.senders sender).active = true → False := by
    intro sender active
    obtain ⟨isTx, -⟩ := owners.sender isOpen active
    rw [ready] at isTx
    cases isTx
  have noRef : ∀ ref, channel.refs ref = .gone := by
    intro ref
    by_contra outstanding
    rcases owners.references outstanding with isSent | isClosed
    · rw [ready] at isSent
      cases isSent
    · rw [isOpen] at isClosed
      cases isClosed
  have only : ∀ {other},
      ((channel.setSender channel.senderCount .unused).senders other).active = true →
      other = channel.senderCount := by
    intro other found
    rcases Channel.setSender_cases found with ⟨same, -⟩ | ⟨-, before⟩
    · exact same
    · exact (noSender before).elim
  constructor
  · intro first second atFirst atSecond
    exact (only atFirst).trans (only atSecond).symm
  · intro _ other found
    exact ⟨rfl, rfl⟩
  · intro _ isSent
    cases isSent
  · intro other found
    exact ⟨rfl, noRef⟩
  · intro isReading
    cases isReading
  · intro ref outstanding
    exact absurd (noRef ref) outstanding
  · exact owners.oneRef
  · intro other found
    rw [only found]
    exact Nat.lt_succ_self _
  · exact owners.refCount

/-- The receiver finds a message while no reference is outstanding. -/
theorem Owners.find (owners : Owners channel) {rx : RxPc T} (rxWaiting : Bool)
    (holds : channel.state.holds = true) (alone : ∀ ref, channel.refs ref = .gone) :
    Owners { channel with
      state := { channel.state with rxWaiting := rxWaiting }, rx := rx } := by
  constructor
  · exact owners.oneSender
  · exact owners.sender
  · exact owners.hasTx
  · intro sender active
    cases (owners.inactive_of_holds holds sender).symm.trans active
  · intro _
    exact ⟨holds, alone⟩
  · exact owners.references
  · exact owners.oneRef
  · exact owners.senderCount
  · exact owners.refCount

theorem Owners.findRef (owners : Owners channel) (holds : channel.state.holds = true)
    (alone : ∀ ref, channel.refs ref = .gone) :
    Owners { channel.setRef channel.refCount .held with
      state := { channel.state with rxWaiting := true }
      refCount := channel.refCount + 1
      rx := .idle } := by
  have isSent : channel.state.sent = true := by
    simp only [State.holds, Bool.and_eq_true] at holds
    exact holds.1
  have only : ∀ {ref}, (channel.setRef channel.refCount .held).refs ref ≠ .gone →
      ref = channel.refCount := by
    intro ref outstanding
    by_contra ne
    rw [Channel.setRef_of_ne channel _ ne] at outstanding
    exact outstanding (alone ref)
  constructor
  · exact owners.oneSender
  · exact owners.sender
  · exact owners.hasTx
  · intro sender active
    cases (owners.inactive_of_holds holds sender).symm.trans active
  · intro isReading
    cases isReading
  · intro ref outstanding
    exact .inl isSent
  · intro first second atFirst atSecond
    exact (only atFirst).trans (only atSecond).symm
  · exact owners.senderCount
  · intro ref outstanding
    rw [only outstanding]
    exact Nat.lt_succ_self _

/-- The receiver or the last reference resets the state. -/
theorem Owners.reset (owners : Owners channel) {rx : RxPc T} {refs : Nat → RefPc}
    (reads : rx.reads = false) (noSender : ∀ sender, (channel.senders sender).active = false)
    (noRef : ∀ ref, refs ref = .gone) :
    Owners { channel with state := .ready, rx := rx, refs := refs } := by
  constructor
  · exact owners.oneSender
  · intro _ sender active
    rw [noSender sender] at active
    cases active
  · intro _ isSent
    cases isSent
  · intro sender active
    rw [noSender sender] at active
    cases active
  · intro isReading
    rw [reads] at isReading
    cases isReading
  · intro ref outstanding
    exact absurd (noRef ref) outstanding
  · intro first second outstanding
    exact absurd (noRef first) outstanding
  · exact owners.senderCount
  · intro ref outstanding
    exact absurd (noRef ref) outstanding

theorem Owners.close (owners : Owners channel) {drops : Bool} :
    Owners { channel with state := .shut, rx := .closingWait drops } := by
  constructor
  · exact owners.oneSender
  · intro isOpen
    cases isOpen
  · intro isOpen
    cases isOpen
  · intro sender active
    exact ⟨rfl, (owners.apart active).2⟩
  · intro isReading
    cases isReading
  · intro ref outstanding
    exact .inr rfl
  · exact owners.oneRef
  · exact owners.senderCount
  · exact owners.refCount

/-- An outstanding reference takes a step of its own. -/
theorem Owners.setRef (owners : Owners channel) {ref : Nat} {pc : RefPc}
    (outstanding : channel.refs ref ≠ .gone) : Owners (channel.setRef ref pc) := by
  have before : ∀ {other}, (channel.setRef ref pc).refs other ≠ .gone →
      channel.refs other ≠ .gone := by
    intro other found
    by_cases same : other = ref
    · subst same
      exact outstanding
    · rwa [Channel.setRef_of_ne channel pc same] at found
  constructor
  · exact owners.oneSender
  · exact owners.sender
  · exact owners.hasTx
  · intro sender active
    cases (owners.inactive_of_reference outstanding sender).symm.trans active
  · intro isReading
    exact absurd ((owners.reads isReading).2 ref) outstanding
  · intro other found
    exact owners.references (before found)
  · intro first second atFirst atSecond
    exact owners.oneRef (before atFirst) (before atSecond)
  · exact owners.senderCount
  · intro other found
    exact owners.refCount (before found)

/-- A step of a receiver that has found a message. -/
theorem Owners.reading (owners : Owners channel) {rx : RxPc T}
    (before : channel.rx.reads = true) : Owners { channel with rx := rx } := by
  obtain ⟨holds, noRef⟩ := owners.reads before
  exact owners.find channel.state.rxWaiting holds noRef

/-- A poll that receives alone finds no outstanding reference. -/
theorem Owners.noRef (owners : Owners channel) (alone : channel.ReceivesAlone)
    {purpose : Purpose} (at_rx : channel.rx = .polling purpose)
    (holds : channel.state.holds = true) (ref : Nat) : channel.refs ref = .gone := by
  unfold Channel.ReceivesAlone at alone
  rw [at_rx] at alone
  exact owners.unreferenced (alone holds) ref

theorem Owners.transition (owners : Owners channel) (alone : byRx → channel.ReceivesAlone)
    (transition : Transition channel byRx next events) : Owners next := by
  cases transition with
  | @senderLocal sender pc move settled =>
      have active : pc.active = true → (channel.senders sender).active = true := by
        rcases move with unused | rfl
        · rw [unused]
          exact fun _ => rfl
        · exact fun found => by cases found
      exact owners.setSender active rfl
        (fun found isOpen => owners.sender isOpen (active found)) (fun _ _ => ⟨rfl, rfl⟩)
        owners.hasTx (fun _ => rfl) fun _ => id
  | @write sender value deser at_sender =>
      have own : (channel.senders sender).active = true := by rw [at_sender]; rfl
      exact owners.setSender (fun _ => own) rfl (fun _ isOpen => owners.sender isOpen own)
        (fun _ _ => ⟨rfl, rfl⟩) owners.hasTx (fun _ => rfl) fun _ => id
  | @commit sender value deser pc at_sender isOpen ended =>
      have own : (channel.senders sender).active = true := by rw [at_sender]; rfl
      refine owners.setSender (fun _ => own) rfl ?_ ?_ ?_ ?_ fun _ _ => rfl
      · intro active
        rw [ended] at active
        cases active
      · intro other ne active
        exact absurd (owners.oneSender active own) ne
      · intro _ _
        exact (owners.sender isOpen own).1
      · intro isReading
        rw [(owners.apart own).1] at isReading
        cases isReading
  | @refuse sender value deser at_sender isClosed =>
      have own : (channel.senders sender).active = true := by rw [at_sender]; rfl
      refine owners.setSender (fun _ => own) rfl ?_ ?_ ?_ ?_ fun _ _ => rfl
      · intro _ isOpen
        cases isClosed.symm.trans isOpen
      · intro other ne active
        exact absurd (owners.oneSender active own) ne
      · intro isOpen
        cases isClosed.symm.trans isOpen
      · intro isReading
        rw [(owners.apart own).1] at isReading
        cases isReading
  | @takeBack sender deser at_sender =>
      have own : (channel.senders sender).active = true := by rw [at_sender]; rfl
      exact owners.setSender (fun _ => own) rfl (fun _ isOpen => owners.sender isOpen own)
        (fun _ _ => ⟨rfl, rfl⟩) owners.hasTx (fun _ => rfl) fun _ => id
  | @dropTx sender at_sender =>
      have own : (channel.senders sender).active = true := by rw [at_sender]; rfl
      refine owners.setSender (fun _ => own) rfl ?_ ?_ ?_ (fun _ => rfl) fun _ => id
      · intro active
        cases active
      · intro other ne active
        exact absurd (owners.oneSender active own) ne
      · intro isOpen isSent
        cases (owners.sender isOpen own).2.symm.trans isSent
  | rxLocal before reads drops polled =>
      rcases polled with rfl | rfl
      · exact owners.setRx reads rfl rfl rfl
      · exact owners.setRx reads rfl rfl rfl
  | create before ready => exact owners.create ready
  | found own at_rx holds reads =>
      exact owners.find true holds (owners.noRef (alone own) at_rx holds)
  | foundRef own at_rx holds erased =>
      exact owners.findRef holds (owners.noRef (alone own) at_rx holds)
  | read at_rx =>
      apply owners.reading
      rcases at_rx with taking | ⟨state, dropping⟩
      · rw [taking]
        rfl
      · rw [dropping]
        rfl
  | store at_rx reports =>
      have isReading : channel.rx.reads = true := by rw [at_rx]; rfl
      obtain ⟨holds, noRef⟩ := owners.reads isReading
      exact owners.reset (by simp) (owners.inactive_of_holds holds) noRef
  | close own at_rx => exact owners.close
  | closeDrops at_rx => exact owners.setRx rfl rfl rfl rfl
  | dropCell at_rx => exact owners.setRx rfl rfl rfl rfl
  | refLocal at_ref next => exact owners.setRef (by rw [at_ref]; decide)
  | refRead at_ref =>
      apply owners.setRef
      rcases at_ref with taking | dropping
      · rw [taking]
        decide
      · rw [dropping]
        decide
  | @refStore ref at_ref =>
      have outstanding : channel.refs ref ≠ .gone := by rw [at_ref]; decide
      have unread : channel.rx.reads = false := by
        by_contra isReading
        exact outstanding ((owners.reads (Bool.of_not_eq_false isReading)).2 ref)
      refine owners.reset unread (owners.inactive_of_reference outstanding) ?_
      intro other
      by_cases same : other = ref
      · subst same
        exact Channel.setRef_self ..
      · by_contra found
        rw [Channel.setRef_of_ne channel _ same] at found
        exact same (owners.oneRef found outstanding)
  | erase typed =>
      exact ⟨owners.oneSender, owners.sender, owners.hasTx, owners.apart, owners.reads,
        owners.references, owners.oneRef, owners.senderCount, owners.refCount⟩

end Owners

end Oneshot

end Mgnp
