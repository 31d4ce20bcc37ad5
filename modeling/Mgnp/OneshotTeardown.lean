import Mgnp.OneshotReaders
import Mgnp.OneshotValues

/-!
# The end of a oneshot channel in an `Arc`

The receiver and every sender hold the channel in an `Arc`.  Dropping the receiver
only gives up its count, and freeing the channel drops nothing, since its cell is a
`MaybeUninit`.  So a message that still waits then is leaked, and so is one whose `SENT`
is erased by the `store(HAS_RX)` of a second reader of the message before it.
-/

namespace Mgnp

namespace Oneshot

open LabelledRuns

variable {T : Type*} {channel after : Channel T} {events history : List (Event T)}

/-- A channel in an `Arc`. -/
structure ArcOneshot (T : Type*) where
  shared : Shared T
  /-- The `Receiver` or `ErasedReceiver` has not been dropped. -/
  rxAlive : Bool

inductive ArcAction (T : Type*)
  | use (action : SharedAction T)
  | dropReceiver

/-- Only a sender is needed. -/
def Action.bySender : Action T → Bool
  | .send _ _ _ | .dropSender _ | .runSender _ => true
  | .sender | .recv | .close | .intoErased | .runRx | .woken | .waitClosed | .cancel | .downcast _
  | .dropRef _ | .runRef _ => false

/-- The sender still holds its count. -/
def SenderPc.isAlive : SenderPc T → Bool
  | .gone => false
  | .unused | .writing _ _ | .finishing _ _ | .waking | .takingBack _ | .droppingTx => true

namespace ArcOneshot

def new (T : Type*) : ArcOneshot T := ⟨.new T, true⟩

/-- The number of `Arc`s. -/
def strong (arc : ArcOneshot T) : Nat :=
  (if arc.rxAlive then 1 else 0) +
    (List.range arc.shared.channel.senderCount).countP fun sender =>
      (arc.shared.channel.senders sender).isAlive

/-- A call and an `ErasedRecvRef` borrow the receiver, which is not dropped before them. -/
def step (arc : ArcOneshot T) : ArcAction T → Option (ArcOneshot T × List (Event T))
  | .use action =>
      if arc.rxAlive || action.base.bySender then
        (arc.shared.step action).map fun outcome =>
          ({ arc with shared := outcome.1 }, outcome.2)
      else none
  | .dropReceiver =>
      if arc.rxAlive = true ∧ arc.shared.Quiet ∧ arc.shared.channel.Unreferenced then
        some ({ arc with rxAlive := false }, [])
      else none

end ArcOneshot

/-- Every message that was sent has been moved out or dropped. -/
def Accounted (history : List (Event T)) : Prop :=
  ∀ sender value, .sent sender value ∈ history → some sender ∈ used history

/-- `close` does not find a message that nobody has found. -/
def Shared.ClosesEmpty (shared : Shared T) (call : Nat) : Prop :=
  match shared.calls call with
  | .closing => shared.channel.state.holds = true → ¬ shared.Unfound
  | _ => True

/-- The send succeeds. -/
def Channel.commits (channel : Channel T) (sender : Nat) : Bool :=
  match channel.senders sender with
  | .finishing _ _ => !channel.state.closed
  | .gone | .unused | .writing _ _ | .waking | .takingBack _ | .droppingTx => false

/-- A call finds no message that another has found and closes no channel in which a
message waits, and no send succeeds after the receiver was dropped. -/
def ArcOneshot.KeepsMessages (arc : ArcOneshot T) (call : Nat) : Action T → Prop
  | .runRx => arc.shared.FindsAlone call ∧ arc.shared.ClosesEmpty call
  | .runSender sender => arc.rxAlive = false → arc.shared.channel.commits sender = false
  | _ => True

/-- The step keeps the messages, and the receiver is not dropped while one waits. -/
def keepsMessages (arc : ArcOneshot T) : ArcAction T → Prop
  | .use action => arc.KeepsMessages (arc.shared.caller action) action.base
  | .dropReceiver => arc.shared.channel.state.holds = false

instance (shared : Shared T) (call : Nat) : Decidable (shared.ClosesEmpty call) := by
  unfold Shared.ClosesEmpty
  exact match shared.calls call with
    | .closing => inferInstanceAs (Decidable (_ = true → ¬ _))
    | .idle | .polling _ | .waiting _ | .taking _ | .dropping _ | .storing _ _ | .casting
    | .closingWait _ | .droppingCell => isTrue trivial

instance (arc : ArcOneshot T) (call : Nat) (base : Action T) :
    Decidable (arc.KeepsMessages call base) :=
  match base with
  | .runRx => inferInstanceAs (Decidable (_ ∧ _))
  | .runSender _ => inferInstanceAs (Decidable (_ = false → _ = false))
  | .send _ _ _ | .dropSender _ | .sender | .recv | .close | .intoErased | .woken
  | .waitClosed | .cancel | .downcast _ | .dropRef _ | .runRef _ => isTrue trivial

instance (arc : ArcOneshot T) (action : ArcAction T) : Decidable (keepsMessages arc action) :=
  match action with
  | .use _ => inferInstanceAs (Decidable (ArcOneshot.KeepsMessages _ _ _))
  | .dropReceiver => inferInstanceAs (Decidable (_ = false))

/-- Somebody may still receive what the cell holds. -/
structure Shared.Resting (shared : Shared T) : Prop where
  reachable : shared.channel.state.holds = true ∨ ∃ reader, shared.reader reader ≠ .gone
  unread : ∀ reader, shared.reader reader ≠ .storing

/-- A message that was sent and not used is in the cell, where it may be received. -/
def Kept (history : List (Event T)) (shared : Shared T) : Prop :=
  ∀ sender value, .sent sender value ∈ history →
    some sender ∈ used history ∨
      (shared.channel.cell = some (sender, value) ∧ shared.Resting)

section Kept

variable {shared next : Shared T} {call : Nat}

theorem kept_new : Kept [] (Shared.new T) := by
  intro sender value member
  cases member

theorem mem_used_append {sender : Nat} (member : some sender ∈ used history) :
    some sender ∈ used (history ++ events) := by
  rw [used_append]
  exact List.mem_append_left _ member

/-- A step without a send, over which the waiting message stays where it is. -/
theorem Kept.mono (kept : Kept history shared)
    (unsent : ∀ sender value, .sent sender value ∉ events)
    (rests : shared.Resting → next.channel.cell = shared.channel.cell ∧ next.Resting) :
    Kept (history ++ events) next := by
  intro sender value member
  have before : .sent sender value ∈ history := by
    rcases List.mem_append.mp member with inHistory | inEvents
    · exact inHistory
    · exact absurd inEvents (unsent sender value)
  rcases kept sender value before with isUsed | ⟨inCell, resting⟩
  · exact .inl (mem_used_append isUsed)
  · obtain ⟨sameCell, still⟩ := rests resting
    exact .inr ⟨sameCell.trans inCell, still⟩

/-- The value in the cell is used. -/
theorem Kept.use {drops : Bool} (kept : Kept history shared) :
    Kept (history ++ [(shared.focus call).useCell drops]) next := by
  intro sender value member
  have before : .sent sender value ∈ history := by
    rcases List.mem_append.mp member with inHistory | inEvents
    · exact inHistory
    · cases drops <;> simp [Channel.useCell] at inEvents
  refine .inl ?_
  rcases kept sender value before with isUsed | ⟨inCell, -⟩
  · exact mem_used_append isUsed
  · rw [used_append, used_useCell, Shared.focus, inCell]
    simp

/-- A sender that is in the channel leaves no other message to be received. -/
theorem Shared.Owned.not_resting (owned : shared.Owned) {sender : Nat}
    (active : (shared.channel.senders sender).active = true) : ¬ shared.Resting := by
  intro resting
  rcases resting.reachable with holds | ⟨reader, outstanding⟩
  · cases (owned.not_holds active).symm.trans holds
  · exact outstanding (owned.apart active reader)

theorem Kept.commit (kept : Kept history shared) (owned : shared.Owned)
    (written : shared.channel.Written) {sender : Nat} {value : T} {deser : Bool}
    {pc : SenderPc T} (at_sender : shared.channel.senders sender = .finishing value deser)
    (isOpen : shared.channel.state.closed = false) :
    Kept (history ++ [.sent sender value])
      (shared.unfocus call { (shared.focus call).setSender sender pc with
        state := { shared.channel.state with sent := true } }) := by
  have active := Shared.active_of_eq at_sender rfl
  have readers := Shared.unfocus_reader shared call
    { (shared.focus call).setSender sender pc with
      state := { shared.channel.state with sent := true } } rfl rfl
  intro other otherValue member
  rcases List.mem_append.mp member with inHistory | inEvents
  · rcases kept other otherValue inHistory with isUsed | ⟨-, resting⟩
    · exact .inl (mem_used_append isUsed)
    · exact absurd resting (owned.not_resting active)
  · simp only [List.mem_singleton, Event.sent.injEq] at inEvents
    obtain ⟨rfl, rfl⟩ := inEvents
    refine .inr ⟨written.inCell at_sender, .inl ?_, fun reader => ?_⟩
    · simp [Shared.unfocus, State.holds, isOpen]
    · rw [readers, owned.apart active reader]
      decide

/-- A step that leaves the waiting message and those who have found it alone. -/
theorem Shared.Resting.keep (resting : shared.Resting) (readers : next.reader = shared.reader)
    (holds : shared.channel.state.holds = true → next.channel.state.holds = true) :
    next.Resting := by
  refine ⟨?_, by rw [readers]; exact resting.unread⟩
  rw [readers]
  exact resting.reachable.imp_left holds

/-- Nobody is about to store after a step of one that is not. -/
theorem Shared.Resting.unread_after (resting : shared.Resting)
    (reading : after.rx.reading ≠ .storing) (refs : ∀ ref, after.refs ref ≠ .storing)
    (reader : Reader) : (shared.unfocus call after).reader reader ≠ .storing := by
  cases reader with
  | call other =>
      by_cases same : other = call
      · subst same
        rwa [Shared.unfocus_reader_call]
      · rw [Shared.unfocus_reader_of_ne same]
        exact resting.unread _
  | ref ref => exact refs ref

theorem Shared.Resting.setRef (resting : shared.Resting) {ref : Nat} {pc : RefPc}
    (unread : pc ≠ .storing) (other : Nat) :
    ((shared.focus call).setRef ref pc).refs other ≠ .storing := by
  by_cases same : other = ref
  · subst same
    rwa [Channel.setRef_self]
  · rw [Channel.setRef_of_ne _ pc same]
    exact resting.unread (.ref other)

theorem Kept.transition {byRx : Prop} (kept : Kept history shared) (owned : shared.Owned)
    (written : shared.channel.Written)
    (closes : byRx → shared.calls call = .closing → shared.channel.state.holds = true →
      ∃ reader, shared.reader reader ≠ .gone)
    (transition : Transition (shared.focus call) byRx after events) :
    Kept (history ++ events) (shared.unfocus call after) := by
  have busy {sender : Nat} {pc : SenderPc T} (at_sender : shared.channel.senders sender = pc)
      (active : pc.active = true) : ¬ shared.Resting :=
    owned.not_resting (Shared.active_of_eq at_sender active)
  cases transition with
  | senderLocal move settled =>
      refine kept.mono (by simp) fun resting => ⟨rfl, ?_⟩
      exact resting.keep (Shared.unfocus_reader _ _ _ rfl rfl) id
  | write at_sender =>
      refine kept.mono (by simp) fun resting => ?_
      exact absurd resting (busy at_sender rfl)
  | commit at_sender isOpen ended => exact kept.commit owned written at_sender isOpen
  | refuse at_sender isClosed =>
      refine kept.mono (by simp) fun resting => ?_
      exact absurd resting (busy at_sender rfl)
  | takeBack at_sender => exact kept.use
  | dropTx at_sender =>
      refine kept.mono (by simp) fun resting => ?_
      exact absurd resting (busy at_sender rfl)
  | rxLocal before reads drops polled =>
      refine kept.mono (by simp) fun resting => ⟨rfl, ?_⟩
      have same := (RxPc.reading_of_reads reads).trans (RxPc.reading_of_reads before).symm
      refine resting.keep (Shared.unfocus_reader _ _ _ same rfl) ?_
      rcases polled with rfl | rfl <;> exact id
  | create before ready =>
      refine kept.mono (by simp) fun resting => ?_
      rcases resting.reachable with holds | ⟨reader, outstanding⟩
      · rw [show shared.channel.state = .ready from ready] at holds
        cases holds
      · exact absurd (owned.no_reader_of_ready ready reader) outstanding
  | found own at_rx holds reads =>
      refine kept.mono (by simp) fun resting => ⟨rfl, .inl holds, ?_⟩
      refine resting.unread_after ?_ fun ref => resting.unread (.ref ref)
      rcases reads with rfl | ⟨state, rfl, -⟩ <;> simp [RxPc.reading]
  | foundRef own at_rx holds erased =>
      refine kept.mono (by simp) fun resting => ⟨rfl, .inl holds, ?_⟩
      exact resting.unread_after (by simp [RxPc.reading]) (resting.setRef (by decide))
  | read at_rx => exact kept.use
  | store at_rx reports =>
      refine kept.mono ?_ fun resting => ?_
      · rcases reports with rfl | rfl <;> simp
      · refine absurd ?_ (resting.unread (.call call))
        rw [Shared.reader, show shared.calls call = _ from at_rx]
        rfl
  | close own at_rx =>
      have readers := Shared.unfocus_reader shared call
        { shared.focus call with
          state := .shut
          rx := .closingWait (shared.channel.state.sent && !shared.channel.state.hasTx) }
        (by rw [show shared.calls call = _ from at_rx]; rfl) rfl
      refine kept.mono (by simp) fun resting => ⟨rfl, .inr ?_, fun reader storing => ?_⟩
      · obtain ⟨reader, outstanding⟩ := resting.reachable.elim (closes own at_rx) id
        exact ⟨reader, fun gone => outstanding ((congrFun readers reader).symm.trans gone)⟩
      · exact resting.unread reader ((congrFun readers reader).symm.trans storing)
  | closeDrops at_rx =>
      refine kept.mono (by simp) fun resting => ⟨rfl, ?_⟩
      refine resting.keep (Shared.unfocus_reader _ _ _ ?_ rfl) id
      rw [show shared.calls call = _ from at_rx]
      rfl
  | dropCell at_rx => exact kept.use
  | @refLocal ref pc at_ref toPc =>
      refine kept.mono (by simp) fun resting => ⟨rfl, .inr ⟨.ref ref, ?_⟩, ?_⟩
      · rw [Shared.unfocus_reader_ref, Channel.setRef_self]
        rcases toPc with rfl | rfl <;> decide
      · refine resting.unread_after (resting.unread (.call call)) (resting.setRef ?_)
        rcases toPc with rfl | rfl <;> decide
  | refRead at_ref => exact kept.use
  | @refStore ref at_ref =>
      refine kept.mono (by simp) fun resting => ?_
      exact absurd at_ref (resting.unread (.ref ref))
  | erase typed =>
      refine kept.mono (by simp) fun resting => ⟨rfl, ?_⟩
      exact resting.keep (Shared.unfocus_reader _ _ _ rfl rfl) id

end Kept

section Teardown

variable {shared : Shared T} {arc next : ArcOneshot T}

/-- Nobody receives any more once the receiver has been dropped. -/
structure Dropped (shared : Shared T) : Prop where
  empty : shared.channel.state.holds = false
  noReader : ∀ reader, shared.reader reader = .gone

theorem Dropped.not_resting (dropped : Dropped shared) : ¬ shared.Resting := by
  intro resting
  rcases resting.reachable with holds | ⟨reader, outstanding⟩
  · cases dropped.empty.symm.trans holds
  · exact outstanding (dropped.noReader reader)

/-- A step of a sender that does not succeed in sending leaves nothing to receive. -/
theorem Channel.runSender_not_holds {sender : Nat} (empty : channel.state.holds = false)
    (fails : channel.commits sender = false)
    (ran : channel.runSender sender = some (after, events)) :
    after.state.holds = false ∧ after.refs = channel.refs := by
  unfold Channel.runSender at ran
  split at ran
  · cases ran
    exact ⟨empty, rfl⟩
  · rename_i value deser at_sender
    have isClosed : channel.state.closed = true := by
      simpa [Channel.commits, at_sender] using fails
    simp only [isClosed, if_true] at ran
    cases ran
    exact ⟨by simp [State.holds], rfl⟩
  · cases ran
    exact ⟨empty, rfl⟩
  · cases ran
    exact ⟨empty, rfl⟩
  · cases ran
    exact ⟨empty, rfl⟩
  · cases ran
  · cases ran

theorem Channel.step_not_holds {base : Action T} (bySender : base.bySender = true)
    (empty : channel.state.holds = false)
    (fails : ∀ sender, base = .runSender sender → channel.commits sender = false)
    (stepTo : channel.step base = some (after, events)) :
    after.state.holds = false ∧ after.refs = channel.refs := by
  cases base with
  | runSender sender => exact Channel.runSender_not_holds empty (fails sender rfl) stepTo
  | send | dropSender =>
      simp only [Channel.step] at stepTo
      split at stepTo <;> cases stepTo
      exact ⟨empty, rfl⟩
  | _ => cases bySender

theorem Action.byReceiver_of_bySender {base : Action T} (bySender : base.bySender = true) :
    base.byReceiver = false := by
  cases base with
  | send | dropSender | runSender => rfl
  | _ => cases bySender

/-- What holds after every history that keeps the messages. -/
structure ArcSound (history : List (Event T)) (arc : ArcOneshot T) : Prop where
  placed : arc.shared.Placed
  owned : arc.shared.Owned
  written : arc.shared.channel.Written
  kept : Kept history arc.shared
  dropped : arc.rxAlive = false → Dropped arc.shared

theorem ArcSound.use {action : SharedAction T} (sound : ArcSound history arc)
    (keeps : keepsMessages arc (.use action))
    (allowed : (arc.rxAlive || action.base.bySender) = true)
    (stepTo : arc.shared.step action = some (shared, events)) :
    ArcSound (history ++ events) { arc with shared := shared } := by
  have placed := sound.placed.step stepTo
  obtain ⟨focused, count, stepsTo, rfl, -⟩ := sound.placed.step_focus stepTo
  have transition := Channel.step_transition stepsTo
  have alone (own : action.base = .runRx) {purpose : Purpose}
      (at_rx : arc.shared.calls (arc.shared.caller action) = .polling purpose)
      (holds : arc.shared.channel.state.holds = true) (reader : Reader) :
      arc.shared.reader reader = .gone := by
    simp only [keepsMessages, ArcOneshot.KeepsMessages, own, Shared.FindsAlone, at_rx] at keeps
    exact (keeps.1 holds).reader sound.placed sound.owned reader
  have closes (own : action.base = .runRx)
      (at_rx : arc.shared.calls (arc.shared.caller action) = .closing)
      (holds : arc.shared.channel.state.holds = true) :
      ∃ reader, arc.shared.reader reader ≠ .gone := by
    simp only [keepsMessages, ArcOneshot.KeepsMessages, own, Shared.ClosesEmpty, at_rx] at keeps
    exact Shared.exists_reader_of_not_unfound (keeps.2 holds)
  have owned := sound.owned.transition alone transition
  have kept := sound.kept.transition sound.owned sound.written closes transition
  have inFocus : (arc.shared.focus (arc.shared.caller action)).Written := ⟨sound.written.inCell⟩
  have written := inFocus.transition sound.owned.oneSender transition
  refine ⟨placed, ⟨owned.oneSender, owned.sender, owned.apart, owned.oneReader, owned.found,
    owned.refCount⟩, ⟨written.inCell⟩, ?_, ?_⟩
  · intro sender value member
    exact (kept sender value member).imp_right fun ⟨inCell, resting⟩ =>
      ⟨inCell, resting.reachable, resting.unread⟩
  · intro isDropped
    change arc.rxAlive = false at isDropped
    rw [isDropped, Bool.false_or] at allowed
    have dropped := sound.dropped isDropped
    have fails (sender : Nat) (runs : action.base = .runSender sender) :
        arc.shared.channel.commits sender = false := by
      simp only [keepsMessages, ArcOneshot.KeepsMessages, runs] at keeps
      exact keeps isDropped
    have noMessage : (arc.shared.focus (arc.shared.caller action)).state.holds = false :=
      dropped.empty
    obtain ⟨empty, refs⟩ := Channel.step_not_holds allowed noMessage fails stepsTo
    have sameRx := Shared.step_rx_of_beside (Action.byReceiver_of_bySender allowed) stepsTo
    refine ⟨empty, fun reader => ?_⟩
    have readers := Shared.unfocus_reader arc.shared (arc.shared.caller action) focused
      (by rw [sameRx]; rfl) refs
    exact (congrFun readers reader).trans (dropped.noReader reader)

theorem ArcSound.step {action : ArcAction T} (sound : ArcSound history arc)
    (keeps : keepsMessages arc action) (stepTo : arc.step action = some (next, events)) :
    ArcSound (history ++ events) next := by
  cases action with
  | use action =>
      simp only [ArcOneshot.step] at stepTo
      split at stepTo
      · rename_i allowed
        simp only [Option.map_eq_some_iff, Prod.mk.injEq] at stepTo
        obtain ⟨outcome, stepsTo, rfl, rfl⟩ := stepTo
        exact sound.use keeps allowed stepsTo
      · cases stepTo
  | dropReceiver =>
      simp only [ArcOneshot.step] at stepTo
      split at stepTo
      · rename_i allowed
        obtain ⟨-, quiet, unreferenced⟩ := allowed
        have unfound : arc.shared.Unfound := ⟨unreferenced, fun call begun => by
          rw [RxPc.eq_idle (quiet call begun)]
          rfl⟩
        cases stepTo
        rw [List.append_nil]
        exact ⟨sound.placed, sound.owned, sound.written, sound.kept,
          fun _ => ⟨keeps, unfound.reader sound.placed sound.owned⟩⟩
      · cases stepTo

theorem ArcOneshot.dropped_of_strong (freed : arc.strong = 0) : arc.rxAlive = false := by
  cases alive : arc.rxAlive with
  | false => rfl
  | true => simp [strong, alive] at freed

theorem freed_accounted (run : Run ArcOneshot.step keepsMessages (ArcOneshot.new T) history arc)
    (freed : arc.strong = 0) : Accounted history := by
  have sound : ArcSound history arc := by
    apply run.invariant ArcSound
    · exact ⟨Shared.placed_new, Shared.owned_new, ⟨fun at_sender => (by cases at_sender)⟩,
        kept_new, fun alive => by cases alive⟩
    · intro past events before after action sound keeps stepTo
      exact sound.step keeps stepTo
  have notResting := (sound.dropped (ArcOneshot.dropped_of_strong freed)).not_resting
  intro sender value member
  rcases sound.kept sender value member with isUsed | ⟨-, resting⟩
  · exact isUsed
  · exact absurd resting notResting

/-- A message that is received while another call of `recv` waits, and one that is refused,
before the receiver and the last sender are dropped. -/
def tornDown : List (ArcAction Nat) :=
  [.use (.begin .sender), .use (.call 0 .run), .use (.begin .recv), .use (.call 1 .run),
    .use (.use (.send 0 5 false)), .use (.use (.runSender 0)), .use (.use (.runSender 0)),
    .use (.begin .recv), .use (.call 2 .run), .use (.call 2 .run), .use (.call 2 .run),
    .use (.use (.runSender 0)), .use (.call 1 .woken), .use (.call 1 .run),
    .use (.begin .close), .use (.call 3 .run), .use (.call 3 .run), .dropReceiver]

theorem tornDown_accounted :
    ∃ history : List (Event Nat), ∃ arc : ArcOneshot Nat,
      Run ArcOneshot.step keepsMessages (ArcOneshot.new Nat) history arc ∧
      arc.strong = 0 ∧ Accounted history := by
  obtain ⟨history, arc, run, outcome⟩ := exists_run_of_exec ArcOneshot.step keepsMessages
    (ArcOneshot.new Nat) tornDown (fun reached => reached.1.strong)
    (show _ = some 0 by decide +kernel)
  exact ⟨history, arc, run, outcome, freed_accounted run outcome⟩

/-- The receiver is dropped while a message waits. -/
def unreceivedDropped : List (ArcAction Nat) :=
  [.use (.begin .sender), .use (.call 0 .run), .use (.use (.send 0 5 false)),
    .use (.use (.runSender 0)), .use (.use (.runSender 0)), .dropReceiver]

theorem not_freed_accounted_unreceivedDropped :
    ¬ ∀ (history : List (Event Nat)) (arc : ArcOneshot Nat),
      Run ArcOneshot.step anyStep (ArcOneshot.new Nat) history arc → arc.strong = 0 →
      Accounted history := by
  intro always
  obtain ⟨history, arc, run, outcome⟩ := exists_run_of_exec ArcOneshot.step anyStep
    (ArcOneshot.new Nat) unreceivedDropped
    (fun reached => (reached.1.strong, decide (.sent 0 5 ∈ reached.2), used reached.2))
    (show _ = some (0, true, []) by decide +kernel)
  simp only [Prod.mk.injEq, decide_eq_true_eq] at outcome
  obtain ⟨freed, sent, unused⟩ := outcome
  have member := always history arc run freed 0 5 sent
  rw [unused] at member
  cases member

/-- `close` does not drop the waiting message either. -/
example :
    (exec ArcOneshot.step anyStep (ArcOneshot.new Nat)
      [.use (.begin .sender), .use (.call 0 .run), .use (.use (.send 0 5 false)),
        .use (.use (.runSender 0)), .use (.use (.runSender 0)), .use (.begin .close),
        .use (.call 1 .run), .use (.call 1 .run), .dropReceiver]).map
      (fun reached => (reached.1.strong, used reached.2)) = some (0, []) := by
  decide +kernel

/-- Two calls of `recv` find one message, and the later store erases the `SENT` of the
next one. -/
example :
    (exec ArcOneshot.step anyStep (ArcOneshot.new Nat)
      [.use (.begin .sender), .use (.call 0 .run), .use (.use (.send 0 5 false)),
        .use (.use (.runSender 0)), .use (.use (.runSender 0)), .use (.begin .recv),
        .use (.call 1 .run), .use (.begin .recv), .use (.call 2 .run), .use (.call 1 .run),
        .use (.call 2 .run), .use (.call 1 .run), .use (.begin .sender), .use (.call 3 .run),
        .use (.use (.send 1 6 false)), .use (.use (.runSender 1)), .use (.use (.runSender 1)),
        .use (.call 2 .run), .dropReceiver]).map
      (fun reached => (reached.1.strong, decide (.sent 1 6 ∈ reached.2), used reached.2)) =
      some (0, true, [some 0, some 0]) := by
  decide +kernel

end Teardown

end Oneshot

end Mgnp
