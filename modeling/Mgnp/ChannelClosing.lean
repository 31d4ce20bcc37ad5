import Mgnp.ChannelTasks

/-!
# Closing a channel is final

Setting `CLOSED` in `enqueue_pos` freezes the set of committed messages.  The
flag shares its word with the position that `commit_send` advances, so the
proof follows every way a task can carry an older value of that word.
-/

namespace Mgnp

namespace ChannelCore

open LabelledRuns PositionWord

variable {T E : Type*} {width : PointerWidth} {capacity : Nat}

section Monotone

variable {channel next : Channel T E} {events : List (Event T E)}

theorem Transition.enqueue_closed
    (transition : Transition width channel events next)
    (isClosed : HasClosed channel.core.enqueuePos) :
    HasClosed next.core.enqueuePos := by
  cases transition with
  | taskState _ move => rw [move.queue_unchanged.2.1]; exact isClosed
  | commitWon _ current => rw [hasClosed_add_posOne, ← current]; exact isClosed
  | closeRx => exact hasClosed_or_closed _
  | call | cloneTx | dropTx | dropRx | taskLocal | allocate | free | write
  | store | closeTx | rxLocal | dequeueWon | release => exact isClosed

theorem Transition.dequeue_closed
    (transition : Transition width channel events next)
    (isClosed : HasClosed channel.core.dequeuePos) :
    HasClosed next.core.dequeuePos := by
  cases transition with
  | taskState _ move => rw [move.queue_unchanged.1]; exact isClosed
  | dequeueWon _ current => rw [hasClosed_add_posOne, ← current]; exact isClosed
  | closeTx => exact hasClosed_or_closed _
  | call | cloneTx | dropTx | dropRx | taskLocal | allocate | free | write
  | commitWon | store | closeRx | rxLocal | release => exact isClosed

end Monotone

/-- What a task may assume about the `CLOSED` flag of `enqueue_pos`, given the
value of the word it has read. -/
def Pc.ClosingFacts (enqueueClosed : Prop) : Pc E → Prop
  | .claiming _ tail => ¬ HasClosed tail
  | .examining _ tail => HasClosed tail → enqueueClosed
  | .reserveClosed | .commitClosed _ | .closingProdWait _ => enqueueClosed
  | _ => True

theorem Pc.ClosingFacts.mono {first second : Prop} (implies : first → second)
    {pc : Pc E} (facts : pc.ClosingFacts first) : pc.ClosingFacts second := by
  cases pc
  case examining => exact fun isClosed => implies (facts isClosed)
  case reserveClosed | commitClosed | closingProdWait => exact implies facts
  all_goals exact facts

/-- Every party that has seen the channel closed is right about it. -/
structure ClosingInv (channel : Channel T E) : Prop where
  tasks : ∀ task ∈ channel.tasks,
    task.pc.ClosingFacts (HasClosed channel.core.enqueuePos)
  prodWait : channel.core.prodWaitClosed = true →
    HasClosed channel.core.enqueuePos

theorem closingInv_new : ClosingInv (Channel.new (T := T) (E := E) width capacity) where
  tasks := by simp [Channel.new]
  prodWait := by simp [Channel.new, Core.new]

theorem LocalMove.closingFacts {core : Core E} {i : Nat} {pc next : Pc E}
    {events : List (Event T E)}
    (prodWait : core.prodWaitClosed = true → HasClosed core.enqueuePos)
    (facts : pc.ClosingFacts (HasClosed core.enqueuePos))
    (move : LocalMove width core i pc next events) :
    next.ClosingFacts (HasClosed core.enqueuePos) := by
  cases move with
  | sawClosed isClosed => exact isClosed
  | waitClosed isClosed => exact prodWait isClosed
  | loadTail => exact id
  | commitSawClosed isClosed => exact facts isClosed
  | claim isOpen => exact isOpen
  | claimFailed => exact id
  | sawOpen | reserveError | park | full | woken | commitCall | panic
  | reloadTail | commitError | wakeReceiver | dropPermit | dropReceived
  | wakeSender | closeConsWait | acquireLast => trivial

theorem StateMove.closingFacts {core next : Core E} {i : Nat} {pc pc' : Pc E}
    {events : List (Event T E)} {enqueueClosed : Prop}
    (move : StateMove core i pc pc' next events) :
    pc'.ClosingFacts enqueueClosed := by
  cases move with
  | closeProdWait => split <;> trivial
  | dropTx => split <;> trivial
  | loseError | winError | writeError | setErrored => trivial

theorem closingInv_transition {channel next : Channel T E}
    {events : List (Event T E)} (inv : ClosingInv channel)
    (transition : Transition width channel events next) : ClosingInv next := by
  have kept : ∀ task ∈ channel.tasks,
      task.pc.ClosingFacts (HasClosed next.core.enqueuePos) :=
    fun task member => (inv.tasks task member).mono transition.enqueue_closed
  have closes := transition.enqueue_closed
  cases transition with
  | call called =>
      refine ⟨forall_mem_append_singleton kept ?_, inv.prodWait⟩
      cases called <;> trivial
  | cloneTx => exact ⟨kept, inv.prodWait⟩
  | dropTx => exact ⟨forall_mem_append_singleton kept trivial, inv.prodWait⟩
  | dropRx => exact ⟨forall_mem_append_singleton kept trivial, inv.prodWait⟩
  | taskLocal at_pc move =>
      have facts := inv.tasks _ (List.mem_of_getElem? at_pc)
      exact ⟨forall_mem_set kept (move.closingFacts inv.prodWait facts), inv.prodWait⟩
  | taskState at_pc move =>
      refine ⟨forall_mem_set kept move.closingFacts, ?_⟩
      have facts := inv.tasks _ (List.mem_of_getElem? at_pc)
      cases move with
      | closeProdWait => exact fun _ => facts
      | loseError | winError | writeError | setErrored | dropTx =>
          exact inv.prodWait
  | closeRx =>
      exact ⟨forall_mem_set kept (hasClosed_or_closed _),
        fun _ => hasClosed_or_closed _⟩
  | commitWon =>
      exact ⟨forall_mem_set kept trivial, fun early => closes (inv.prodWait early)⟩
  | write | rxLocal | dequeueWon => exact ⟨kept, inv.prodWait⟩
  | allocate | free | store | closeTx =>
      exact ⟨forall_mem_set kept trivial, inv.prodWait⟩
  | release => exact ⟨forall_mem_append_singleton kept trivial, inv.prodWait⟩

theorem closingInv_run {admits : Channel T E → Action T E → Prop}
    {history : List (Event T E)} {start final : Channel T E}
    (inv : ClosingInv start)
    (run : Run (step width) admits start history final) : ClosingInv final :=
  run.stateInvariant ClosingInv inv fun holds _ stepTo =>
    closingInv_transition holds (step_transition stepTo)

/-- A reservation call that has read an open `enqueue_pos`. -/
def Pc.Allocating : Pc E → Prop
  | .allocating _ => True
  | _ => False

/-- A `commit_send` that has won its compare-exchange and not yet returned. -/
def Pc.Won : Pc E → Prop
  | .storing _ _ | .waking => True
  | _ => False

/-- What a step can still do once `CLOSED` is set in `enqueue_pos`. -/
structure FrozenStep (channel : Channel T E) (events : List (Event T E))
    (next : Channel T E) : Prop where
  enqueuePos : next.core.enqueuePos = channel.core.enqueuePos
  uncommitted : ∀ i idx message, .committed i idx message ∉ events
  reserved : ∀ i idx, .reserved i idx ∈ events →
    TaskAt channel.tasks i Pc.Allocating
  sendOk : ∀ i, .sendOk i ∈ events → TaskAt channel.tasks i Pc.Won
  allocating : ∀ i, TaskAt next.tasks i Pc.Allocating →
    TaskAt channel.tasks i Pc.Allocating
  won : ∀ i, TaskAt next.tasks i Pc.Won → TaskAt channel.tasks i Pc.Won

theorem LocalMove.frozen {channel : Channel T E} {i : Nat} {handle : Option Nat}
    {pc next : Pc E} {events : List (Event T E)}
    (isClosed : HasClosed channel.core.enqueuePos)
    (at_pc : channel.tasks[i]? = some ⟨handle, pc⟩)
    (move : LocalMove width channel.core i pc next events) :
    FrozenStep channel events (channel.goto i handle next) := by
  have allocating (lacks : ¬ next.Allocating) (k : Nat) :
      TaskAt (channel.tasks.set i ⟨handle, next⟩) k Pc.Allocating →
        TaskAt channel.tasks k Pc.Allocating := TaskAt.of_set lacks
  have won (lacks : ¬ next.Won) (k : Nat) :
      TaskAt (channel.tasks.set i ⟨handle, next⟩) k Pc.Won →
        TaskAt channel.tasks k Pc.Won := TaskAt.of_set lacks
  cases move with
  | sawOpen isOpen => exact absurd isClosed isOpen
  | wakeReceiver =>
      refine ⟨rfl, by simp, by simp, ?_, allocating id, won id⟩
      intro k answered
      obtain rfl : k = i := by simpa using answered
      exact ⟨_, at_pc, trivial⟩
  | @closeConsWait byError =>
      cases byError <;>
        exact ⟨rfl, by simp, by simp, by simp, allocating id, won id⟩
  | sawClosed | reserveError | park | full | waitClosed | woken | commitCall
  | loadTail | commitSawClosed | panic | claim | reloadTail | claimFailed
  | commitError | dropPermit | dropReceived | wakeSender | acquireLast =>
      exact ⟨rfl, by simp, by simp, by simp, allocating id, won id⟩

theorem StateMove.frozen {channel : Channel T E} {i : Nat} {handle : Option Nat}
    {pc next : Pc E} {core : Core E} {events : List (Event T E)}
    (move : StateMove channel.core i pc next core events) :
    FrozenStep channel events { channel.goto i handle next with core := core } := by
  have unchanged := move.queue_unchanged.2.1
  have quiet : ¬ next.Allocating ∧ ¬ next.Won := by
    cases move with
    | closeProdWait => split <;> exact ⟨id, id⟩
    | dropTx => split <;> exact ⟨id, id⟩
    | loseError | winError | writeError | setErrored => exact ⟨id, id⟩
  have silent : (∀ i idx message, .committed i idx message ∉ events) ∧
      (∀ i idx, .reserved i idx ∉ events) ∧ ∀ i, .sendOk i ∉ events := by
    cases move <;> simp
  exact ⟨unchanged, silent.1, fun i idx answered => absurd answered (silent.2.1 i idx),
    fun i answered => absurd answered (silent.2.2 i),
    fun _ => TaskAt.of_set quiet.1, fun _ => TaskAt.of_set quiet.2⟩

/-- Once `CLOSED` is set, a step neither moves `enqueue_pos` nor commits, and
only calls that had passed their check before can still succeed. -/
theorem Transition.frozen {channel next : Channel T E} {events : List (Event T E)}
    (inv : ClosingInv channel) (isClosed : HasClosed channel.core.enqueuePos)
    (transition : Transition width channel events next) :
    FrozenStep channel events next := by
  cases transition with
  | call called =>
      refine ⟨rfl, by simp, by simp, by simp, fun _ => TaskAt.of_append ?_,
        fun _ => TaskAt.of_append ?_⟩ <;> cases called <;> exact id
  | cloneTx | write | dequeueWon =>
      exact ⟨rfl, by simp, by simp, by simp, fun _ => id, fun _ => id⟩
  | dropTx | dropRx =>
      exact ⟨rfl, by simp, by simp, by simp, fun _ => TaskAt.of_append id,
        fun _ => TaskAt.of_append id⟩
  | taskLocal at_pc move => exact move.frozen isClosed at_pc
  | taskState at_pc move => exact move.frozen
  | @allocate i handle blocking idx at_pc =>
      refine ⟨rfl, by simp, ?_, by simp, fun _ => TaskAt.of_set id,
        fun _ => TaskAt.of_set id⟩
      intro k _ answered
      obtain rfl : k = i := by
        simp only [List.mem_singleton, Event.reserved.injEq] at answered
        exact answered.1
      exact ⟨_, at_pc, trivial⟩
  | free | closeTx =>
      exact ⟨rfl, by simp, by simp, by simp, fun _ => TaskAt.of_set id,
        fun _ => TaskAt.of_set id⟩
  | commitWon at_pc current =>
      have isOpen := inv.tasks _ (List.mem_of_getElem? at_pc)
      exact absurd (current ▸ isClosed) isOpen
  | store at_pc =>
      exact ⟨rfl, by simp, by simp, by simp, fun _ => TaskAt.of_set id,
        fun _ => TaskAt.of_set_kept at_pc trivial⟩
  | closeRx =>
      exact ⟨or_closed_of_hasClosed isClosed, by simp, by simp, by simp,
        fun _ => TaskAt.of_set id, fun _ => TaskAt.of_set id⟩
  | rxLocal _ move =>
      refine ⟨rfl, ?_, ?_, ?_, fun _ => id, fun _ => id⟩ <;> cases move <;> simp
  | release =>
      exact ⟨rfl, by simp, by simp, by simp, fun _ => TaskAt.of_append id,
        fun _ => TaskAt.of_append id⟩

/-- A run that starts closed is one long frozen step. -/
theorem frozen_run {admits : Channel T E → Action T E → Prop}
    {channel final : Channel T E} {history : List (Event T E)}
    (inv : ClosingInv channel) (isClosed : HasClosed channel.core.enqueuePos)
    (run : Run (step width) admits channel history final) :
    FrozenStep channel history final := by
  have both : ClosingInv final ∧ FrozenStep channel history final := by
    refine run.invariant
      (fun history state => ClosingInv state ∧ FrozenStep channel history state)
      ⟨inv, rfl, by simp, by simp, by simp, fun _ => id, fun _ => id⟩ ?_
    intro past events state next action ⟨stateInv, frozen⟩ _ stepTo
    have transition := step_transition stepTo
    have stays : HasClosed state.core.enqueuePos := frozen.enqueuePos ▸ isClosed
    have here := transition.frozen stateInv stays
    refine ⟨closingInv_transition stateInv transition,
      here.enqueuePos.trans frozen.enqueuePos, ?_, ?_, ?_,
      fun i found => frozen.allocating i (here.allocating i found),
      fun i found => frozen.won i (here.won i found)⟩
    · intro i idx message member
      rcases List.mem_append.mp member with before | now
      · exact frozen.uncommitted i idx message before
      · exact here.uncommitted i idx message now
    · intro i idx member
      rcases List.mem_append.mp member with before | now
      · exact frozen.reserved i idx before
      · exact frozen.allocating i (here.reserved i idx now)
    · intro i member
      rcases List.mem_append.mp member with before | now
      · exact frozen.sendOk i before
      · exact frozen.won i (here.sendOk i now)
  exact both.2

/-- A call that reports `Disconnected` or `Error` to a sender leaves the
channel closed. -/
theorem Transition.sendClosed {channel next : Channel T E}
    {events : List (Event T E)} (inv : ClosingInv channel)
    (transition : Transition width channel events next) {i : Nat}
    {reason : Option E} (answered : .sendClosed i reason ∈ events) :
    HasClosed channel.core.enqueuePos := by
  cases transition with
  | taskLocal at_pc move =>
      have facts := inv.tasks _ (List.mem_of_getElem? at_pc)
      cases move with
      | reserveError | commitError => exact facts
      | @closeConsWait byError => cases byError <;> simp at answered
      | sawClosed | sawOpen | park | full | waitClosed | woken | commitCall
      | loadTail | commitSawClosed | panic | claim | reloadTail | claimFailed
      | wakeReceiver | dropPermit | dropReceived | wakeSender | acquireLast =>
          simp at answered
  | taskState _ move => cases move <;> simp at answered
  | rxLocal _ move => cases move <;> simp at answered
  | call | cloneTx | dropTx | dropRx | allocate | free | write | commitWon
  | store | closeRx | closeTx | dequeueWon | release => simp at answered

theorem closed_of_sendClosed {admits : Channel T E → Action T E → Prop}
    {history : List (Event T E)} {start final : Channel T E}
    (inv : ClosingInv start)
    (run : Run (step width) admits start history final) {i : Nat}
    {reason : Option E} (answered : .sendClosed i reason ∈ history) :
    HasClosed final.core.enqueuePos := by
  have both : ClosingInv final ∧ (∀ i reason, .sendClosed i reason ∈ history →
      HasClosed final.core.enqueuePos) := by
    refine run.invariant (fun history state => ClosingInv state ∧
      ∀ i reason, .sendClosed i reason ∈ history → HasClosed state.core.enqueuePos)
      ⟨inv, by simp⟩ ?_
    intro past events state next action ⟨stateInv, seen⟩ _ stepTo
    have transition := step_transition stepTo
    refine ⟨closingInv_transition stateInv transition, ?_⟩
    intro i reason member
    rcases List.mem_append.mp member with before | now
    · exact transition.enqueue_closed (seen i reason before)
    · exact transition.enqueue_closed (transition.sendClosed stateInv now)
  exact both.2 i reason answered

/-- After `CLOSED` has been set in `enqueue_pos`, the word never changes, no
message is committed, and only calls that had read the open word before can
return successfully: a reservation call that was already allocating, and a
`commit_send` that had already won its compare-exchange.  In either position
word the flag is never cleared.  An error reported to any sender means that
nothing is committed from then on. -/
theorem closing_freezes_channel {history later : List (Event T E)}
    {middle final : Channel T E}
    (before : Run (step width) anyStep (Channel.new width capacity) history middle)
    (after : Run (step width) anyStep middle later final) :
    (HasClosed middle.core.enqueuePos →
      final.core.enqueuePos = middle.core.enqueuePos ∧
      (∀ i idx message, .committed i idx message ∉ later) ∧
      (∀ i idx, .reserved i idx ∈ later → TaskAt middle.tasks i Pc.Allocating) ∧
      ∀ i, .sendOk i ∈ later → TaskAt middle.tasks i Pc.Won) ∧
    (HasClosed middle.core.enqueuePos → HasClosed final.core.enqueuePos) ∧
    (HasClosed middle.core.dequeuePos → HasClosed final.core.dequeuePos) ∧
    ∀ i reason, .sendClosed i reason ∈ history →
      ∀ k idx message, .committed k idx message ∉ later := by
  have inv : ClosingInv middle := closingInv_run closingInv_new before
  refine ⟨?_, ?_, ?_, ?_⟩
  · intro isClosed
    have frozen := frozen_run inv isClosed after
    exact ⟨frozen.enqueuePos, frozen.uncommitted, frozen.reserved, frozen.sendOk⟩
  · intro isClosed
    rw [(frozen_run inv isClosed after).enqueuePos]
    exact isClosed
  · intro isClosed
    exact after.stateInvariant (fun state => HasClosed state.core.dequeuePos)
      isClosed fun holds _ stepTo => (step_transition stepTo).dequeue_closed holds
  · intro i reason answered
    have isClosed := closed_of_sendClosed closingInv_new before answered
    exact (frozen_run inv isClosed after).uncommitted

/-- A permit taken before the receiver closes the channel with an error: its
commit fails with that error. -/
theorem closing_freezes_channel_pending_permit :
    ∃ (middle final : Channel Nat Nat) (later : List (Event Nat Nat)),
      HasClosed middle.core.enqueuePos ∧ .sendClosed 0 (some 5) ∈ later ∧
      final.core.enqueuePos = middle.core.enqueuePos ∧
      ∀ i idx message, .committed i idx message ∉ later := by
  obtain ⟨history, middle, before, seen⟩ :=
    exists_run_of_exec (step .bits64) anyStep (Channel.new .bits64 1 : Channel Nat Nat)
      [.reserve 0 false, .run 0, .allocate 0 0, .write 0 7,
        .closeWithError none 5, .run 1, .run 1, .run 1, .run 1]
      (fun reached => (decide (HasClosed reached.1.core.enqueuePos),
        (exec (step .bits64) anyStep reached.1
          [.commit 0, .run 0, .run 0, .run 0]).map Prod.snd))
      (show _ = some (true, some [.sendClosed 0 (some 5)]) by decide)
  obtain ⟨isClosed, executed⟩ := Prod.mk.injEq .. ▸ seen
  obtain ⟨later, final, after, rfl⟩ := exists_run_of_exec _ _ _ _ _ executed
  have frozen := (closing_freezes_channel before after).1 (of_decide_eq_true isClosed)
  exact ⟨middle, final, _, of_decide_eq_true isClosed, by simp, frozen.1, frozen.2.1⟩

end ChannelCore

end Mgnp
