import Mgnp.OneshotShared

/-!
# Who has found the message of a oneshot channel

Finding a message leaves `SENT` set.  The call or the `ErasedRecvRef` that found it uses
the cell and then stores `HAS_RX`.  As long as nobody looks for a message that another
has found, there is one reader at most, and no sender may enter the cell before it has
stored.
-/

namespace Mgnp

namespace Oneshot

variable {T : Type*} {channel after : Channel T} {events : List (Event T)} {byRx : Prop}

/-- How far a call is with the message that it found. -/
def RxPc.reading : RxPc T → RefPc
  | .taking _ => .taking
  | .dropping _ => .dropping
  | .storing _ _ => .storing
  | .idle | .polling _ | .waiting _ | .casting | .closing | .closingWait _ | .droppingCell => .gone

theorem RxPc.reading_eq_gone {rx : RxPc T} : rx.reading = .gone ↔ rx.reads = false := by
  cases rx <;> simp [reading, reads]

theorem RxPc.reading_of_reads {rx : RxPc T} (reads : rx.reads = false) : rx.reading = .gone :=
  reading_eq_gone.mpr reads

/-- Who may have found a message. -/
inductive Reader
  | call (call : Nat)
  | ref (ref : Nat)

/-- A sender that has written the cell and not decided yet finds its value there. -/
structure Channel.Written (channel : Channel T) : Prop where
  inCell : ∀ {sender value deser}, channel.senders sender = .finishing value deser →
    channel.cell = some (sender, value)

section Written

theorem Channel.Written.setSender (written : channel.Written) {sender : Nat} {pc : SenderPc T}
    (settled : ∀ {value deser}, pc ≠ .finishing value deser) :
    (channel.setSender sender pc).Written := by
  refine ⟨fun {other value deser} at_other => ?_⟩
  by_cases same : other = sender
  · subst same
    exact absurd ((Channel.setSender_self ..).symm.trans at_other) settled
  · exact written.inCell ((Channel.setSender_of_ne channel pc same).symm.trans at_other)

theorem Channel.Written.transition (written : channel.Written)
    (oneSender : ∀ {first second}, (channel.senders first).active = true →
      (channel.senders second).active = true → first = second)
    (transition : Transition channel byRx after events) : after.Written := by
  cases transition with
  | senderLocal move settled =>
      refine ⟨(written.setSender ?_).inCell⟩
      rintro value deser rfl
      cases settled
  | @write sender value deser at_sender =>
      refine ⟨fun {other otherValue otherDeser} at_other => ?_⟩
      by_cases same : other = sender
      · subst same
        cases (Channel.setSender_self ..).symm.trans at_other
        rfl
      · have before := (Channel.setSender_of_ne channel _ same).symm.trans at_other
        have own : (channel.senders sender).active = true := by rw [at_sender]; rfl
        exact absurd (oneSender (by rw [before]; rfl) own) same
  | commit at_sender isOpen ended =>
      refine ⟨(written.setSender ?_).inCell⟩
      rintro value deser rfl
      cases ended
  | refuse | takeBack | dropTx | create => exact ⟨(written.setSender (by simp)).inCell⟩
  | _ => exact ⟨written.inCell⟩

end Written

namespace Shared

variable {shared : Shared T} {call : Nat}

def reader (shared : Shared T) : Reader → RefPc
  | .call call => (shared.calls call).reading
  | .ref ref => shared.channel.refs ref

/-- Nobody has found the message that waits. -/
def Unfound (shared : Shared T) : Prop :=
  shared.channel.Unreferenced ∧ ∀ call < shared.callCount, (shared.calls call).reads = false

instance (shared : Shared T) : Decidable shared.Unfound :=
  inferInstanceAs (Decidable (_ ∧ ∀ call < shared.callCount, (shared.calls call).reads = false))

/-- The poll does not find a message that another has found. -/
def FindsAlone (shared : Shared T) (call : Nat) : Prop :=
  match shared.calls call with
  | .polling _ => shared.channel.state.holds = true → shared.Unfound
  | _ => True

instance (shared : Shared T) (call : Nat) : Decidable (shared.FindsAlone call) := by
  unfold FindsAlone
  exact match shared.calls call with
    | .polling _ => inferInstanceAs (Decidable (_ = true → _))
    | .idle | .waiting _ | .taking _ | .dropping _ | .storing _ _ | .casting | .closing
    | .closingWait _ | .droppingCell => isTrue trivial

/-- Who owns the cell of a channel with a shared receiver. -/
structure Owned (shared : Shared T) : Prop where
  oneSender : ∀ {first second}, (shared.channel.senders first).active = true →
    (shared.channel.senders second).active = true → first = second
  sender : shared.channel.state.closed = false →
    ∀ {sender}, (shared.channel.senders sender).active = true →
      shared.channel.state.hasTx = true ∧ shared.channel.state.sent = false
  apart : ∀ {sender}, (shared.channel.senders sender).active = true →
    ∀ reader, shared.reader reader = .gone
  oneReader : ∀ {first second}, shared.reader first ≠ .gone → shared.reader second ≠ .gone →
    first = second
  found : ∀ {reader}, shared.reader reader ≠ .gone →
    shared.channel.state.sent = true ∨ shared.channel.state.closed = true
  refCount : ∀ {ref}, shared.channel.refs ref ≠ .gone → ref < shared.channel.refCount

theorem owned_new : Owned (Shared.new T) where
  oneSender active := by cases active
  sender _ _ active := by cases active
  apart active := by cases active
  oneReader {first _} outstanding := by cases first <;> exact absurd rfl outstanding
  found {reader} outstanding := by cases reader <;> exact absurd rfl outstanding
  refCount outstanding := absurd rfl outstanding

section Readers

/-- The readers after a step that moves nobody who has found a message. -/
theorem unfocus_reader (shared : Shared T) (call : Nat) (after : Channel T)
    (reading : after.rx.reading = (shared.calls call).reading)
    (refs : after.refs = shared.channel.refs) :
    (shared.unfocus call after).reader = shared.reader := by
  funext reader
  cases reader with
  | call other =>
      by_cases same : other = call
      · subst same
        simpa [reader, unfocus] using reading
      · simp [Shared.reader, unfocus, Function.update_of_ne same]
  | ref ref => exact congrFun refs ref

@[simp] theorem unfocus_reader_call :
    (shared.unfocus call after).reader (.call call) = after.rx.reading := by
  simp [reader, unfocus]

theorem unfocus_reader_of_ne {other : Nat} (ne : other ≠ call) :
    (shared.unfocus call after).reader (.call other) = shared.reader (.call other) := by
  simp [reader, unfocus, Function.update_of_ne ne]

@[simp] theorem unfocus_reader_ref (ref : Nat) :
    (shared.unfocus call after).reader (.ref ref) = after.refs ref :=
  rfl

theorem reader_call_ne_gone {rx : RxPc T} (at_rx : shared.calls call = rx)
    (reads : rx.reads = true) : shared.reader (.call call) ≠ .gone := by
  rw [reader, at_rx]
  intro gone
  cases reads.symm.trans (RxPc.reading_eq_gone.mp gone)

theorem reader_ref_ne_gone {ref : Nat} {pc : RefPc} (at_ref : shared.channel.refs ref = pc)
    (outstanding : pc ≠ .gone) : shared.reader (.ref ref) ≠ .gone := by
  rwa [reader, at_ref]

/-- A call that finds a message that nobody has found is its only reader. -/
theorem only_call (none : ∀ reader, shared.reader reader = .gone)
    (refs : after.refs = shared.channel.refs) {reader : Reader}
    (outstanding : (shared.unfocus call after).reader reader ≠ .gone) : reader = .call call := by
  cases reader with
  | call other =>
      by_cases same : other = call
      · rw [same]
      · rw [unfocus_reader_of_ne same] at outstanding
        exact absurd (none _) outstanding
  | ref ref =>
      rw [unfocus_reader_ref, refs] at outstanding
      exact absurd (none (.ref ref)) outstanding

/-- A message that a call hands out is read by its new reference alone. -/
theorem only_ref (none : ∀ reader, shared.reader reader = .gone) {ref : Nat}
    (reads : after.rx.reads = false)
    (refs : ∀ other, other ≠ ref → after.refs other = shared.channel.refs other)
    {reader : Reader} (outstanding : (shared.unfocus call after).reader reader ≠ .gone) :
    reader = .ref ref := by
  cases reader with
  | call other =>
      by_cases same : other = call
      · subst same
        rw [unfocus_reader_call] at outstanding
        exact absurd (RxPc.reading_of_reads reads) outstanding
      · rw [unfocus_reader_of_ne same] at outstanding
        exact absurd (none _) outstanding
  | ref other =>
      by_cases same : other = ref
      · rw [same]
      · rw [unfocus_reader_ref, refs other same] at outstanding
        exact absurd (none (.ref other)) outstanding

/-- The readers after a step of one that has found a message. -/
theorem unfocus_reader_moved (before : shared.reader (.call call) ≠ .gone) {reader : Reader}
    (outstanding : (shared.unfocus call after).reader reader ≠ .gone)
    (refs : after.refs = shared.channel.refs) : shared.reader reader ≠ .gone := by
  cases reader with
  | call other =>
      by_cases same : other = call
      · subst same
        exact before
      · rwa [unfocus_reader_of_ne same] at outstanding
  | ref ref =>
      rw [unfocus_reader_ref, refs] at outstanding
      exact outstanding

/-- The readers after a step of a reference. -/
theorem unfocus_reader_setRef {ref : Nat} {pc : RefPc} {reader : Reader} {state : State}
    (outstanding : (shared.unfocus call
      { (shared.focus call).setRef ref pc with state := state }).reader reader ≠ .gone) :
    (reader = .ref ref ∧ pc ≠ .gone) ∨ (reader ≠ .ref ref ∧ shared.reader reader ≠ .gone) := by
  cases reader with
  | call other =>
      refine .inr ⟨by simp, ?_⟩
      by_cases same : other = call
      · subst same
        rwa [unfocus_reader_call] at outstanding
      · rwa [unfocus_reader_of_ne same] at outstanding
  | ref other =>
      rw [unfocus_reader_ref] at outstanding
      by_cases same : other = ref
      · subst same
        exact .inl ⟨rfl, by simpa using outstanding⟩
      · refine .inr ⟨by simpa using same, ?_⟩
        have untouched := Channel.setRef_of_ne (shared.focus call) pc same
        exact fun gone => outstanding (untouched.trans gone)

/-- Nobody outside the calls that have begun has found a message. -/
theorem Unfound.reader (unfound : shared.Unfound) (placed : shared.Placed) (owned : Owned shared)
    (reader : Reader) : shared.reader reader = .gone := by
  by_contra outstanding
  cases reader with
  | call other =>
      by_cases begun : other < shared.callCount
      · exact outstanding (RxPc.reading_of_reads (unfound.2 other begun))
      · have idle := placed.fresh other (Nat.le_of_not_lt begun)
        rw [Shared.reader, idle] at outstanding
        exact outstanding rfl
  | ref ref => exact outstanding (unfound.1 ref (owned.refCount outstanding))

theorem exists_reader_of_not_unfound (found : ¬ shared.Unfound) :
    ∃ reader, shared.reader reader ≠ .gone := by
  by_contra none
  push Not at none
  refine found ⟨fun ref _ => none (.ref ref), fun other _ => ?_⟩
  exact RxPc.reading_eq_gone.mp (none (.call other))

end Readers

section Owned

/-- No message waits while a sender is in the cell or may still enter it. -/
theorem Owned.not_holds (owned : Owned shared) {sender : Nat}
    (active : (shared.channel.senders sender).active = true) :
    shared.channel.state.holds = false := by
  cases isClosed : shared.channel.state.closed with
  | true => simp [State.holds, isClosed]
  | false =>
      have unsent := (owned.sender isClosed active).2
      simp [State.holds, unsent]

/-- No sender is in the cell while somebody has found a message. -/
theorem Owned.inactive_of_found (owned : Owned shared) {reader : Reader}
    (outstanding : shared.reader reader ≠ .gone) (sender : Nat) :
    (shared.channel.senders sender).active = false := by
  by_contra active
  exact outstanding (owned.apart (Bool.of_not_eq_false active) reader)

/-- A step of one sender that was active, which keeps the byte's answer about
active senders. -/
theorem Owned.setSender (owned : Owned shared) {sender : Nat} {pc : SenderPc T} {state : State}
    {cell : Contents T}
    (active : pc.active = true → (shared.channel.senders sender).active = true)
    (closed : state.closed = shared.channel.state.closed)
    (bits : pc.active = true → state.closed = false → state.hasTx = true ∧ state.sent = false)
    (others : ∀ {other}, other ≠ sender → (shared.channel.senders other).active = true →
      state.hasTx = shared.channel.state.hasTx ∧ state.sent = shared.channel.state.sent)
    (found : shared.channel.state.sent = true → state.sent = true) :
    Owned (shared.unfocus call
      { (shared.focus call).setSender sender pc with state := state, cell := cell }) := by
  have readers : (shared.unfocus call { (shared.focus call).setSender sender pc with
      state := state, cell := cell }).reader = shared.reader := unfocus_reader _ _ _ rfl rfl
  have before : ∀ {other}, (((shared.focus call).setSender sender pc).senders other).active = true →
      (shared.channel.senders other).active = true := by
    intro other isActive
    rcases Channel.setSender_cases isActive with ⟨rfl, own⟩ | ⟨-, before⟩
    · exact active own
    · exact before
  constructor
  · intro first second atFirst atSecond
    exact owned.oneSender (before atFirst) (before atSecond)
  · intro isOpen other isActive
    rcases Channel.setSender_cases isActive with ⟨rfl, own⟩ | ⟨ne, before⟩
    · exact bits own isOpen
    · obtain ⟨sameTx, sameSent⟩ := others ne before
      obtain ⟨isTx, unsent⟩ := owned.sender (closed ▸ isOpen) before
      exact ⟨sameTx.trans isTx, sameSent.trans unsent⟩
  · intro other isActive
    rw [readers]
    exact owned.apart (before isActive)
  · rw [readers]
    exact owned.oneReader
  · intro reader outstanding
    rw [readers] at outstanding
    exact (owned.found outstanding).imp found closed.trans
  · exact owned.refCount

theorem active_of_eq {sender : Nat} {pc : SenderPc T}
    (at_sender : shared.channel.senders sender = pc) (active : pc.active = true) :
    (shared.channel.senders sender).active = true := by
  rwa [at_sender]

/-- A step of the one sender in the cell. -/
theorem Owned.setOwn (owned : Owned shared) {sender : Nat} {pc : SenderPc T} {state : State}
    {cell : Contents T} (own : (shared.channel.senders sender).active = true)
    (closed : state.closed = shared.channel.state.closed)
    (bits : pc.active = true → state.closed = false → state.hasTx = true ∧ state.sent = false)
    (found : shared.channel.state.sent = true → state.sent = true) :
    Owned (shared.unfocus call
      { (shared.focus call).setSender sender pc with state := state, cell := cell }) :=
  owned.setSender (fun _ => own) closed bits
    (fun ne active => absurd (owned.oneSender active own) ne) found

/-- A step that leaves the senders and their bits alone and finds no message. -/
theorem Owned.keep (owned : Owned shared) (senders : after.senders = shared.channel.senders)
    (closed : after.state.closed = shared.channel.state.closed)
    (hasTx : after.state.hasTx = shared.channel.state.hasTx)
    (sent : after.state.sent = shared.channel.state.sent)
    (readers : ∀ reader, (shared.unfocus call after).reader reader ≠ .gone →
      shared.reader reader ≠ .gone)
    (refCount : after.refCount = shared.channel.refCount) :
    Owned (shared.unfocus call after) := by
  have active {sender : Nat} (isActive : (after.senders sender).active = true) :
      (shared.channel.senders sender).active = true := by rwa [senders] at isActive
  constructor
  · intro first second atFirst atSecond
    exact owned.oneSender (active atFirst) (active atSecond)
  · intro isOpen sender isActive
    obtain ⟨isTx, unsent⟩ := owned.sender (closed ▸ isOpen) (active isActive)
    exact ⟨hasTx.trans isTx, sent.trans unsent⟩
  · intro sender isActive reader
    by_contra outstanding
    exact readers reader outstanding (owned.apart (active isActive) reader)
  · intro first second atFirst atSecond
    exact owned.oneReader (readers first atFirst) (readers second atSecond)
  · intro reader outstanding
    exact (owned.found (readers reader outstanding)).imp sent.trans closed.trans
  · intro ref outstanding
    change ref < after.refCount
    rw [refCount]
    exact owned.refCount (readers (.ref ref) outstanding)

/-- A step of a reference that does not store yet. -/
theorem Owned.setRef (owned : Owned shared) {ref : Nat} {pc : RefPc}
    (before : shared.reader (.ref ref) ≠ .gone) :
    Owned (shared.unfocus call ((shared.focus call).setRef ref pc)) := by
  refine owned.keep rfl rfl rfl rfl (fun reader found => ?_) rfl
  rcases unfocus_reader_setRef found with ⟨rfl, -⟩ | ⟨-, outstanding⟩
  · exact before
  · exact outstanding

/-- A message that nobody has found is found. -/
theorem Owned.find (owned : Owned shared) (finder : Reader)
    (holds : shared.channel.state.holds = true)
    (senders : after.senders = shared.channel.senders)
    (sent : after.state.sent = shared.channel.state.sent)
    (only : ∀ reader, (shared.unfocus call after).reader reader ≠ .gone → reader = finder)
    (refCount : ∀ ref, finder = .ref ref → ref < after.refCount) :
    Owned (shared.unfocus call after) := by
  have inactive {sender : Nat} : (after.senders sender).active = true → False := by
    intro active
    rw [senders] at active
    cases (owned.not_holds active).symm.trans holds
  have isSent : after.state.sent = true := by
    simp only [State.holds, Bool.and_eq_true] at holds
    exact sent.trans holds.1
  constructor
  · exact fun atFirst => (inactive atFirst).elim
  · exact fun _ _ active => (inactive active).elim
  · exact fun active => (inactive active).elim
  · exact fun {first second} atFirst atSecond =>
      (only first atFirst).trans (only second atSecond).symm
  · exact fun _ => .inl isSent
  · intro ref outstanding
    exact refCount ref (only (.ref ref) outstanding).symm

/-- The one who has found the message stores `HAS_RX`. -/
theorem Owned.reset (owned : Owned shared) {finder : Reader}
    (outstanding : shared.reader finder ≠ .gone)
    (senders : after.senders = shared.channel.senders)
    (none : ∀ reader, (shared.unfocus call after).reader reader = .gone) :
    Owned (shared.unfocus call after) := by
  have inactive {sender : Nat} : (after.senders sender).active = true → False := by
    intro active
    rw [senders, owned.inactive_of_found outstanding sender] at active
    cases active
  constructor
  · exact fun atFirst => (inactive atFirst).elim
  · exact fun _ _ active => (inactive active).elim
  · exact fun _ => none
  · exact fun {first _} atFirst => absurd (none first) atFirst
  · exact fun {reader} found => absurd (none reader) found
  · exact fun {ref} found => absurd (none (.ref ref)) found

theorem Owned.no_sender_of_ready (owned : Owned shared) (ready : shared.channel.state = .ready)
    {sender : Nat} : (shared.channel.senders sender).active = false := by
  by_contra active
  have isOpen : shared.channel.state.closed = false := by rw [ready]; rfl
  have hasTx := (owned.sender isOpen (Bool.of_not_eq_false active)).1
  rw [ready] at hasTx
  cases hasTx

theorem Owned.no_reader_of_ready (owned : Owned shared) (ready : shared.channel.state = .ready)
    (reader : Reader) : shared.reader reader = .gone := by
  by_contra outstanding
  rcases owned.found outstanding with isSent | isClosed
  · rw [ready] at isSent
    cases isSent
  · rw [ready] at isClosed
    cases isClosed

theorem Owned.create (owned : Owned shared) (ready : shared.channel.state = .ready)
    (before : (shared.calls call).reads = false) :
    Owned (shared.unfocus call
      { (shared.focus call).setSender shared.channel.senderCount .unused with
        state := .taken, senderCount := shared.channel.senderCount + 1, rx := .idle }) := by
  have only {other : Nat} (active : (((shared.focus call).setSender
      shared.channel.senderCount .unused).senders other).active = true) :
      other = shared.channel.senderCount := by
    rcases Channel.setSender_cases active with ⟨same, -⟩ | ⟨-, before⟩
    · exact same
    · cases (owned.no_sender_of_ready ready).symm.trans before
  have readers : (shared.unfocus call
      { (shared.focus call).setSender shared.channel.senderCount .unused with
        state := .taken, senderCount := shared.channel.senderCount + 1,
        rx := .idle }).reader = shared.reader :=
    unfocus_reader _ _ _ (RxPc.reading_of_reads before).symm rfl
  have none := owned.no_reader_of_ready ready
  constructor
  · exact fun atFirst atSecond => (only atFirst).trans (only atSecond).symm
  · exact fun _ _ _ => ⟨rfl, rfl⟩
  · intro _ _ reader
    rw [readers]
    exact none reader
  · intro first _ atFirst
    rw [readers] at atFirst
    exact absurd (none first) atFirst
  · intro reader outstanding
    rw [readers] at outstanding
    exact absurd (none reader) outstanding
  · exact owned.refCount

theorem Owned.close (owned : Owned shared) {drops : Bool}
    (before : (shared.calls call).reads = false) :
    Owned (shared.unfocus call
      { shared.focus call with state := .shut, rx := .closingWait drops }) := by
  have readers : (shared.unfocus call
      { shared.focus call with state := .shut, rx := .closingWait drops }).reader =
      shared.reader := unfocus_reader _ _ _ (RxPc.reading_of_reads before).symm rfl
  constructor
  · exact owned.oneSender
  · intro isOpen
    cases isOpen
  · intro sender active
    rw [readers]
    exact owned.apart active
  · rw [readers]
    exact owned.oneReader
  · exact fun _ => .inr rfl
  · exact owned.refCount

theorem Owned.transition (owned : Owned shared)
    (alone : byRx → ∀ {purpose}, shared.calls call = .polling purpose →
      shared.channel.state.holds = true → ∀ reader, shared.reader reader = .gone)
    (transition : Transition (shared.focus call) byRx after events) :
    Owned (shared.unfocus call after) := by
  have unread {rx : RxPc T} (at_rx : shared.calls call = rx) (reads : rx.reads = false) :
      (shared.calls call).reads = false := by rwa [at_rx]
  have steady {rx : RxPc T} {state : State} (before : (shared.calls call).reads = false)
      (reads : rx.reads = false) (closed : state.closed = shared.channel.state.closed)
      (hasTx : state.hasTx = shared.channel.state.hasTx)
      (sent : state.sent = shared.channel.state.sent) :
      Owned (shared.unfocus call { shared.focus call with state := state, rx := rx }) := by
    have same : rx.reading = (shared.calls call).reading :=
      (RxPc.reading_of_reads reads).trans (RxPc.reading_of_reads before).symm
    have readers : (shared.unfocus call
        { shared.focus call with state := state, rx := rx }).reader = shared.reader :=
      unfocus_reader _ _ _ same rfl
    refine owned.keep rfl closed hasTx sent (fun _ outstanding => ?_) rfl
    rwa [readers] at outstanding
  cases transition with
  | senderLocal move settled =>
      refine owned.setSender ?_ rfl (fun active isOpen => ?_) (fun _ _ => ⟨rfl, rfl⟩) id
      · rcases move with unused | rfl
        · exact fun _ => active_of_eq unused rfl
        · exact fun found => by cases found
      · rcases move with unused | rfl
        · exact owned.sender isOpen (active_of_eq unused rfl)
        · cases active
  | write at_sender =>
      have own := active_of_eq at_sender rfl
      exact owned.setOwn own rfl (fun _ isOpen => owned.sender isOpen own) id
  | commit at_sender isOpen ended =>
      refine owned.setOwn (active_of_eq at_sender rfl) rfl (fun active => ?_) fun _ => rfl
      cases ended.symm.trans active
  | refuse at_sender isClosed =>
      refine owned.setOwn (active_of_eq at_sender rfl) rfl (fun _ isOpen => ?_) fun _ => rfl
      cases isClosed.symm.trans isOpen
  | takeBack at_sender =>
      have own := active_of_eq at_sender rfl
      exact owned.setOwn own rfl (fun _ isOpen => owned.sender isOpen own) id
  | dropTx at_sender =>
      exact owned.setOwn (active_of_eq at_sender rfl) rfl (fun active => by cases active) id
  | rxLocal before reads drops polled =>
      rcases polled with rfl | rfl
      · exact steady before reads rfl rfl rfl
      · exact steady before reads rfl rfl rfl
  | create before ready => exact owned.create ready before
  | found own at_rx holds reads =>
      refine owned.find (.call call) holds rfl rfl (fun reader outstanding => ?_)
        (fun ref same => by cases same)
      refine only_call (alone own at_rx holds) ?_ outstanding
      rfl
  | foundRef own at_rx holds erased =>
      refine owned.find (.ref shared.channel.refCount) holds rfl rfl ?_ ?_
      · intro reader outstanding
        refine only_ref (alone own at_rx holds) ?_ (fun other ne => ?_) outstanding
        · rfl
        · exact Channel.setRef_of_ne (shared.focus call) .held ne
      · rintro ref same
        cases same
        exact Nat.lt_succ_self _
  | read at_rx =>
      have before : shared.reader (.call call) ≠ .gone := by
        rcases at_rx with taking | ⟨state, dropping⟩
        · exact reader_call_ne_gone taking rfl
        · exact reader_call_ne_gone dropping rfl
      exact owned.keep rfl rfl rfl rfl (fun _ found => unfocus_reader_moved before found rfl) rfl
  | store at_rx reports =>
      have before : shared.reader (.call call) ≠ .gone := reader_call_ne_gone at_rx rfl
      refine owned.reset before rfl fun other => ?_
      by_contra outstanding
      obtain rfl := owned.oneReader (unfocus_reader_moved before outstanding rfl) before
      rw [unfocus_reader_call] at outstanding
      exact outstanding (RxPc.reading_of_reads (by simp))
  | close own at_rx => exact owned.close (unread at_rx rfl)
  | closeDrops at_rx => exact steady (unread at_rx rfl) rfl rfl rfl rfl
  | dropCell at_rx => exact steady (unread at_rx rfl) rfl rfl rfl rfl
  | refLocal at_ref toPc => exact owned.setRef (reader_ref_ne_gone at_ref (by decide))
  | refRead at_ref =>
      rcases at_ref with taking | dropping
      · exact owned.setRef (reader_ref_ne_gone taking (by decide))
      · exact owned.setRef (reader_ref_ne_gone dropping (by decide))
  | refStore at_ref =>
      have before := reader_ref_ne_gone at_ref (by decide)
      refine owned.reset before rfl fun other => ?_
      by_contra found
      rcases unfocus_reader_setRef found with ⟨-, gone⟩ | ⟨ne, outstanding⟩
      · exact gone rfl
      · exact ne (owned.oneReader outstanding before)
  | erase typed =>
      have readers : (shared.unfocus call
          { shared.focus call with erased := true }).reader = shared.reader :=
        unfocus_reader _ _ _ rfl rfl
      refine owned.keep rfl rfl rfl rfl (fun _ found => ?_) rfl
      rwa [readers] at found

end Owned

end Shared

end Oneshot

end Mgnp
