import Mgnp.ChannelAnswers
import Mgnp.ChannelRefusals

/-!
# Calls on a channel that has been shut

When the elected `close_with_error` has returned, nobody gets into the channel any more
and `prod_wait` lets everybody go.  From then on each call of a sender ends after a few
steps of its own, whatever the other parties do.
-/

namespace Mgnp

namespace ChannelCore

open LabelledRuns PositionWord

variable {T E : Type*} {width : PointerWidth} {capacity : Nat} {channel next : Channel T E}
  {history events : List (Event T E)} {action : Action T E} {call : Nat} {error : E}

/-- The elected `close_with_error` has closed the channel for senders. -/
structure Channel.Shut (channel : Channel T E) (error : E) : Prop where
  reason : channel.core.closeReason = some error
  isClosed : HasClosed channel.core.enqueuePos
  prodWait : channel.core.prodWaitClosed = true

section Shutting

/-- A `close_with_error` that has closed `prod_wait` and has not yet returned. -/
def Pc.Roused : Pc E → Prop
  | .closingTx byError | .closingConsWait byError => byError = true
  | _ => False

theorem Pc.Roused.winning {pc : Pc E} (roused : pc.Roused) : pc.Winning := by
  cases pc <;> first | exact roused | exact roused.elim

/-- Whoever is past `prod_wait.close()` has closed it. -/
structure Rouses (history : List (Event T E)) (channel : Channel T E) : Prop where
  tasks : ∀ i, TaskAt channel.tasks i Pc.Roused → channel.core.prodWaitClosed = true
  answered : ∀ i, .closeResult i true ∈ history → channel.core.prodWaitClosed = true

theorem Transition.prodWait_kept (transition : Transition width channel events next)
    (isClosed : channel.core.prodWaitClosed = true) : next.core.prodWaitClosed = true := by
  cases transition with
  | taskState _ move =>
      cases move with
      | closeProdWait => rfl
      | _ => exact isClosed
  | _ => exact isClosed

theorem Rouses.step (rouses : Rouses history channel)
    (erroring : channel.core.state.errored = true → channel.core.state.erroring = true)
    (transition : Transition width channel events next) :
    Rouses (history ++ events) next := by
  have kept := transition.prodWait_kept
  have silent (unanswered : ∀ event ∈ events, event.closedTrue = false) (i : Nat)
      (answered : .closeResult i true ∈ history ++ events) :
      next.core.prodWaitClosed = true := by
    rcases List.mem_append.mp answered with before | now
    · exact kept (rouses.answered i before)
    · cases unanswered _ now
  cases transition.errorStep erroring with
  | frame unchanged =>
      refine ⟨fun i roused => ?_, silent unchanged.unanswered⟩
      obtain ⟨task, at_i, winning⟩ := unchanged.winning i
        (roused.imp fun _ found => found.imp id Pc.Roused.winning)
      obtain ⟨same, at_next, samePc⟩ :=
        unchanged.settled i task.pc (.inl winning) ⟨task, at_i, rfl⟩
      refine kept (rouses.tasks i ⟨task, at_i, ?_⟩)
      rw [← samePc]
      exact (taskAt_iff_of_pc at_next).mp roused
  | win | write | publish | closeRx =>
      exact ⟨fun i roused => rouses.tasks i (roused.of_set id), silent (by simp)⟩
  | closeProdWait => exact ⟨fun _ _ => rfl, fun _ _ => rfl⟩
  | closeTx at_pc =>
      exact ⟨fun i roused => rouses.tasks i (roused.of_set_kept at_pc rfl), silent (by simp)⟩
  | @answer i handle at_pc =>
      have isClosed := rouses.tasks i ((taskAt_iff_of_pc at_pc).mpr rfl)
      exact ⟨fun _ _ => isClosed, fun _ _ => isClosed⟩

theorem rouses_of_run
    (run : Run (step width) anyStep (Channel.new width capacity) history channel) :
    Rouses history channel := by
  have both : Run (step width) anyStep (Channel.new width capacity) history channel ∧
      Rouses history channel := by
    refine run.invariant (fun history state =>
      Run (step width) anyStep (Channel.new width capacity) history state ∧
        Rouses history state) ⟨.refl, ?_, by simp⟩ ?_
    · rintro i ⟨task, at_i, -⟩
      simp [Channel.new] at at_i
    · intro past events state next action holds admitted stepTo
      obtain ⟨before, rouses⟩ := holds
      exact ⟨.tail before admitted stepTo,
        rouses.step (election_run before).erroring (step_transition stepTo)⟩
  exact both.2

/-- A `close_with_error` that has returned `true` leaves the channel shut. -/
theorem shut_of_closed
    (run : Run (step width) anyStep (Channel.new width capacity) history channel)
    (answered : .closeResult call true ∈ history) : ∃ error, channel.Shut error := by
  have prodWait := (rouses_of_run run).answered call answered
  cases election_run run with
  | pending _ unelected => exact absurd answered (unelected.unanswered call true)
  | @decided winner error _ _ elected =>
      rcases elected.answers with ⟨-, none⟩ | ⟨⟨task, at_winner, finished⟩, -⟩
      · exact absurd rfl (List.filter_eq_nil_iff.mp none _ answered)
      · have stage := (taskAt_iff_of_pc at_winner).mp elected.stage
        rw [finished] at stage
        obtain ⟨written, errored, isClosed⟩ := stage
        exact ⟨error, by rw [Core.closeReason, if_pos errored, written], isClosed, prodWait⟩

/-- A shut channel stays shut. -/
theorem Channel.Shut.step (shut : channel.Shut error)
    (run : Run (ChannelCore.step width) anyStep (Channel.new width capacity) history channel)
    (stepTo : ChannelCore.step width channel action = some (next, events)) :
    next.Shut error where
  reason := by
    rcases closeReason_step run stepTo with same | ⟨-, unread⟩
    · exact same.trans shut.reason
    · rw [shut.reason] at unread
      cases unread
  isClosed := (step_transition stepTo).enqueue_closed shut.isClosed
  prodWait := (step_transition stepTo).prodWait_kept shut.prodWait

theorem Channel.Shut.errored (shut : channel.Shut error) :
    channel.core.state.errored = true := by
  have reason := shut.reason
  unfold Core.closeReason at reason
  split at reason
  · assumption
  · cases reason

/-- Nobody overtakes a call that has returned. -/
theorem Channel.Shut.overtakesError (shut : channel.Shut error)
    (run : Run (ChannelCore.step width) anyStep (Channel.new width capacity) history channel)
    (call : Nat) : channel.overtakesError call = false := by
  unfold Channel.overtakesError
  split
  · simp [shut.isClosed]
  · refine List.any_eq_false.mpr fun task member unpublished => ?_
    obtain ⟨i, at_i⟩ := List.mem_iff_getElem?.mp member
    have winning : task.pc.Winning := by
      cases isPc : task.pc <;> rw [isPc] at unpublished <;> trivial
    obtain ⟨own, elected⟩ := (election_run run).of_winning ⟨task, at_i, winning⟩
    have stage := (taskAt_iff_of_pc at_i).mp elected.stage
    have unset : channel.core.state.errored = false := by
      cases isPc : task.pc <;> rw [isPc] at unpublished stage <;>
        first | exact stage.2.2 | exact stage.2 | cases unpublished
    rw [shut.errored] at unset
    cases unset
  · rfl

end Shutting

section Calls

/-- A permit. -/
def Pc.Holding : Pc E → Prop
  | .permit _ => True
  | _ => False

/-- A `commit_send` that has not been answered. -/
def Pc.InCommit : Pc E → Prop
  | .committing _ | .examining _ _ | .claiming _ _ | .commitClosed _ | .storing _ _
  | .waking => True
  | _ => False

/-- How many steps a call of a sender takes before it is answered, in a channel that has
been shut. -/
def Pc.left : Pc E → Nat
  | .reserveClosed | .commitClosed _ | .waking => 1
  | .reserving _ | .storing _ _ => 2
  | .waiting | .committing _ | .claiming _ _ => 3
  | .allocating _ => 4
  -- A `commit_send` that has read an open `enqueue_pos` reads it again.
  | .examining _ tail => if HasClosed tail then 2 else 4
  | _ => 0

def Channel.left (channel : Channel T E) (call : Nat) : Nat :=
  match channel.tasks[call]? with
  | some task => task.pc.left
  | none => 0

/-- The call of a sender that an event answers. -/
def Event.answeree : Event T E → Option Nat
  | .reserved task _ | .full task | .sendClosed task _ | .sendOk task | .panicked task =>
      some task
  | _ => none

theorem Pc.left_le (pc : Pc E) : pc.left ≤ 4 := by
  cases pc with
  | examining idx tail =>
      simp only [Pc.left]
      split <;> omega
  | _ => simp [Pc.left]

theorem Channel.left_le (channel : Channel T E) (call : Nat) : channel.left call ≤ 4 := by
  unfold Channel.left
  split
  · exact Pc.left_le _
  · exact Nat.zero_le _

theorem Pc.InReserve.left_pos {pc : Pc E} (inReserve : pc.InReserve) : 0 < pc.left := by
  cases pc <;> first | exact inReserve.elim | simp [Pc.left]

theorem Pc.Refusing.left_pos {pc : Pc E} (refusing : pc.Refusing) : 0 < pc.left := by
  cases pc <;> first | exact refusing.elim | simp [Pc.left]

theorem Pc.InCommit.left_pos {pc : Pc E} (inCommit : pc.InCommit) : 0 < pc.left := by
  cases pc with
  | examining idx tail =>
      simp only [Pc.left]
      split <;> omega
  | _ => first | exact inCommit.elim | simp [Pc.left]

theorem Channel.left_eq {task : Task E} (at_call : channel.tasks[call]? = some task) :
    channel.left call = task.pc.left := by
  rw [Channel.left, at_call]

theorem Channel.left_goto {i : Nat} {handle : Option Nat} {pc : Pc E} {task : Task E}
    (at_i : channel.tasks[i]? = some task) : (channel.goto i handle pc).left i = pc.left := by
  obtain ⟨inside, -⟩ := List.getElem?_eq_some_iff.mp at_i
  have moved : (channel.goto i handle pc).tasks[i]? = some ⟨handle, pc⟩ :=
    List.getElem?_set_self inside
  exact Channel.left_eq moved

/-- The steps of others leave a call where it is. -/
theorem left_others (stepTo : step width channel action = some (next, events))
    (other : action.task ≠ some call) (inside : call < channel.tasks.length) :
    next.left call = channel.left call := by
  have at_call := List.getElem?_eq_getElem inside
  rw [Channel.left_eq at_call, Channel.left_eq (step_others stepTo other at_call)]

/-- Only a step of its own answers a call. -/
theorem step_answers (stepTo : step width channel action = some (next, events))
    {event : Event T E} (member : event ∈ events) (answers : event.answeree = some call) :
    action.task = some call := by
  cases event with
  | reserved task idx =>
      obtain rfl : task = call := Option.some.inj answers
      cases action with
      | run i =>
          simp only [step] at stepTo
          split at stepTo
          · rename_i old _
            obtain ⟨handle, pc⟩ := old
            cases pc <;> simp only [runTask] at stepTo
            all_goals
              repeat' split at stepTo
              all_goals cases stepTo <;> simp at member
          · cases stepTo
      | runRx =>
          cases at_rx : channel.rx <;> simp only [step, runRx, at_rx] at stepTo
          all_goals
            repeat' split at stepTo
            all_goals cases stepTo <;> simp at member
      | _ =>
          simp only [step] at stepTo
          repeat' split at stepTo
          all_goals cases stepTo
          all_goals simp at member
          all_goals simp [Action.task, member.1]
  | full | sendClosed | sendOk | panicked =>
      rw [run_of_ranBy stepTo member answers]
      rfl
  | _ => cases answers

/-- An own step of a call of `reserve`. -/
theorem step_inReserve (stepTo : step width channel action = some (next, events))
    (own : action.task = some call) (inReserve : TaskAt channel.tasks call Pc.InReserve) :
    (TaskAt next.tasks call Pc.InReserve ∧ events = []) ∨
      (∃ idx, TaskAt next.tasks call Pc.Holding ∧ events = [.reserved call idx]) ∨
      events = [.sendClosed call channel.core.closeReason] := by
  obtain ⟨⟨handle, pc⟩, at_call, reserves⟩ := inReserve
  have moved {pc' : Pc E} (inside : pc'.InReserve) :
      TaskAt (channel.goto call handle pc').tasks call Pc.InReserve :=
    (taskAt_set_self at_call).mpr inside
  cases action with
  | run i =>
      obtain rfl : i = call := Option.some.inj own
      simp only [step, at_call] at stepTo
      cases pc with
      | reserving blocking =>
          cases blocking with
          | false => exact reserves.elim
          | true =>
              simp only [runTask] at stepTo
              split at stepTo <;> cases stepTo
              · exact .inl ⟨moved trivial, rfl⟩
              · exact .inl ⟨moved trivial, rfl⟩
      | reserveClosed =>
          cases stepTo
          exact .inr (.inr rfl)
      | allocating blocking =>
          cases blocking with
          | false => exact reserves.elim
          | true =>
              simp only [runTask, if_true] at stepTo
              split at stepTo <;> cases stepTo
              exact .inl ⟨moved trivial, rfl⟩
      | waiting =>
          simp only [runTask] at stepTo
          split at stepTo <;> cases stepTo
          exact .inl ⟨moved trivial, rfl⟩
      | _ => exact reserves.elim
  | allocate i idx =>
      obtain rfl : i = call := Option.some.inj own
      simp only [step, at_call] at stepTo
      repeat' split at stepTo
      all_goals cases stepTo
      rename_i at_pc _
      cases at_pc
      exact .inr (.inl ⟨idx, (taskAt_set_self at_call).mpr trivial, rfl⟩)
  | woken i =>
      obtain rfl : i = call := Option.some.inj own
      simp only [step, at_call] at stepTo
      split at stepTo <;> cases stepTo
      rename_i at_pc
      cases at_pc
      exact .inl ⟨moved trivial, rfl⟩
  | spurious i | write i value | commit i | release i =>
      obtain rfl : i = call := Option.some.inj own
      simp only [step, at_call] at stepTo
      cases pc <;> first | exact reserves.elim | cases stepTo
  | _ => cases own

/-- An own step of a `commit_send`. -/
theorem step_inCommit (stepTo : step width channel action = some (next, events))
    (own : action.task = some call) (inCommit : TaskAt channel.tasks call Pc.InCommit) :
    (TaskAt next.tasks call Pc.InCommit ∧ ∀ event ∈ events, event.answeree = none) ∨
      .sendOk call ∈ events ∨ (∃ reason, .sendClosed call reason ∈ events) ∨
        .panicked call ∈ events := by
  obtain ⟨⟨handle, pc⟩, at_call, commits⟩ := inCommit
  have moved {pc' : Pc E} (inside : pc'.InCommit) :
      TaskAt (channel.goto call handle pc').tasks call Pc.InCommit :=
    (taskAt_set_self at_call).mpr inside
  cases action with
  | run i =>
      obtain rfl : i = call := Option.some.inj own
      simp only [step, at_call] at stepTo
      cases pc with
      | committing idx =>
          cases stepTo
          exact .inl ⟨moved trivial, by simp⟩
      | examining idx tail =>
          simp only [runTask] at stepTo
          repeat' split at stepTo
          all_goals cases stepTo
          · exact .inl ⟨moved trivial, by simp⟩
          · exact .inr (.inr (.inr (List.mem_singleton_self _)))
          · exact .inl ⟨moved trivial, by simp⟩
          · exact .inl ⟨moved trivial, by simp⟩
      | claiming idx tail =>
          simp only [runTask] at stepTo
          split at stepTo <;> cases stepTo
          · exact .inl ⟨moved trivial, by simp [Event.answeree]⟩
          · exact .inl ⟨moved trivial, by simp⟩
      | commitClosed idx =>
          cases stepTo
          exact .inr (.inr (.inl ⟨_, List.mem_singleton_self _⟩))
      | storing idx pos =>
          cases stepTo
          exact .inl ⟨moved trivial, by simp [Event.answeree]⟩
      | waking =>
          cases stepTo
          exact .inr (.inl (by simp))
      | _ => exact commits.elim
  | spurious i =>
      obtain rfl : i = call := Option.some.inj own
      simp only [step, at_call] at stepTo
      split at stepTo <;> cases stepTo
      rename_i at_pc
      cases at_pc
      exact .inl ⟨moved trivial, by simp⟩
  | allocate i idx | woken i | write i value | commit i | release i =>
      obtain rfl : i = call := Option.some.inj own
      simp only [step, at_call] at stepTo
      cases pc <;> first | exact commits.elim | cases stepTo
  | _ => cases own

/-- A sender handle lives until it is dropped. -/
theorem step_handles {handle : Nat} (stepTo : step width channel action = some (next, events))
    (kept : action ≠ .dropTx handle) (live : handle ∈ channel.handles) :
    handle ∈ next.handles := by
  cases action with
  | run i =>
      simp only [step] at stepTo
      split at stepTo
      · rename_i task _
        obtain ⟨own, pc⟩ := task
        cases pc <;> simp only [runTask] at stepTo
        all_goals
          repeat' split at stepTo
          all_goals cases stepTo
          all_goals exact live
      · cases stepTo
  | runRx =>
      cases at_rx : channel.rx <;> simp only [step, runRx, at_rx] at stepTo
      all_goals
        repeat' split at stepTo
        all_goals cases stepTo
        all_goals exact live
  | dropTx other =>
      obtain ⟨-, dropped⟩ := Option.ite_none_right_eq_some.mp stepTo
      cases dropped
      have ne : handle ≠ other := fun same => kept (congrArg Action.dropTx same.symm)
      exact (List.mem_erase_of_ne ne).mpr live
  | cloneTx other copy =>
      obtain ⟨-, cloned⟩ := Option.ite_none_right_eq_some.mp stepTo
      cases cloned
      exact List.mem_append_left _ live
  | _ =>
      simp only [step] at stepTo
      repeat' split at stepTo
      all_goals cases stepTo
      all_goals exact live

/-- In a channel that has been shut, an own step of a call brings it nearer to its end. -/
theorem Channel.Shut.left_lt (shut : channel.Shut error)
    (stepTo : ChannelCore.step width channel action = some (next, events))
    (own : action.task = some call) (unanswered : 0 < channel.left call) :
    next.left call < channel.left call := by
  have inside : channel.tasks[call]? ≠ none := by
    intro none
    rw [Channel.left, none] at unanswered
    exact absurd unanswered (Nat.lt_irrefl 0)
  obtain ⟨⟨handle, pc⟩, at_call⟩ := Option.ne_none_iff_exists'.mp inside
  have isClosed : channel.core.enqueuePos &&& closed = closed := shut.isClosed
  have lower {after : Channel T E} {pc' : Pc E}
      (tasks : after.tasks = (channel.goto call handle pc').tasks)
      (less : pc'.left < pc.left) : after.left call < channel.left call := by
    have after_left : after.left call = (channel.goto call handle pc').left call := by
      rw [Channel.left, Channel.left, tasks]
    rw [after_left, Channel.left_goto at_call, Channel.left_eq at_call]
    exact less
  rw [Channel.left_eq at_call] at unanswered
  cases action with
  | run i =>
      obtain rfl : i = call := Option.some.inj own
      simp only [ChannelCore.step, at_call] at stepTo
      cases pc with
      | reserving blocking =>
          simp only [runTask, isClosed, if_true] at stepTo
          cases stepTo
          exact lower rfl (by simp [Pc.left])
      | allocating blocking =>
          simp only [runTask] at stepTo
          repeat' split at stepTo
          all_goals cases stepTo
          all_goals exact lower rfl (by simp [Pc.left])
      | waiting =>
          simp only [runTask, shut.prodWait, if_true] at stepTo
          cases stepTo
          exact lower rfl (by simp [Pc.left])
      | committing idx =>
          cases stepTo
          exact lower rfl (by simp [Pc.left, shut.isClosed])
      | examining idx tail =>
          simp only [runTask] at stepTo
          split at stepTo
          · cases stepTo
            refine lower rfl ?_
            simp only [Pc.left]
            split <;> omega
          · rename_i isOpen
            have stale : ¬ HasClosed tail := isOpen
            split at stepTo <;> cases stepTo
            all_goals exact lower rfl (by simp [Pc.left, stale])
      | claiming idx tail =>
          simp only [runTask] at stepTo
          split at stepTo <;> cases stepTo
          · exact lower rfl (by simp [Pc.left])
          · exact lower rfl (by simp [Pc.left, shut.isClosed])
      | reserveClosed | commitClosed idx | storing idx pos | waking =>
          cases stepTo
          exact lower rfl (by simp [Pc.left])
      | _ => exact absurd unanswered (Nat.lt_irrefl 0)
  | allocate i idx =>
      obtain rfl : i = call := Option.some.inj own
      simp only [ChannelCore.step, at_call] at stepTo
      repeat' split at stepTo
      all_goals cases stepTo
      rename_i at_pc _
      cases at_pc
      exact lower rfl (by simp [Pc.left])
  | spurious i =>
      obtain rfl : i = call := Option.some.inj own
      simp only [ChannelCore.step, at_call] at stepTo
      split at stepTo <;> cases stepTo
      rename_i at_pc
      cases at_pc
      exact lower rfl (by simp [Pc.left, shut.isClosed])
  | woken i =>
      obtain rfl : i = call := Option.some.inj own
      simp only [ChannelCore.step, at_call] at stepTo
      split at stepTo <;> cases stepTo
      rename_i at_pc
      cases at_pc
      exact lower rfl (by simp [Pc.left])
  | write i value | commit i | release i =>
      obtain rfl : i = call := Option.some.inj own
      simp only [ChannelCore.step, at_call] at stepTo
      cases pc <;> first | exact absurd unanswered (Nat.lt_irrefl 0) | cases stepTo
  | _ => cases own

/-- A call that has not been answered can always move on in a channel that has been
shut. -/
theorem Channel.Shut.exists_step (width : PointerWidth) (shut : channel.Shut error)
    (unanswered : 0 < channel.left call) :
    ∃ action, action.task = some call ∧
      (ChannelCore.step width channel action).isSome = true ∧
      (action = .run call ∨ ∃ idx, action = .allocate call idx) := by
  have inside : channel.tasks[call]? ≠ none := by
    intro none
    rw [Channel.left, none] at unanswered
    exact absurd unanswered (Nat.lt_irrefl 0)
  obtain ⟨⟨handle, pc⟩, at_call⟩ := Option.ne_none_iff_exists'.mp inside
  rw [Channel.left_eq at_call] at unanswered
  have runs (ran : (runTask width channel call ⟨handle, pc⟩).isSome = true) :
      ∃ action, action.task = some call ∧
        (ChannelCore.step width channel action).isSome = true ∧
        (action = .run call ∨ ∃ idx, action = .allocate call idx) :=
    ⟨.run call, rfl, by simpa only [ChannelCore.step, at_call] using ran, .inl rfl⟩
  cases pc with
  | allocating blocking =>
      cases free : channel.core.indices with
      | nil => exact runs (by cases blocking <;> simp [runTask, free])
      | cons idx rest =>
          refine ⟨.allocate call idx, rfl, ?_, .inr ⟨idx, rfl⟩⟩
          simp [ChannelCore.step, at_call, free]
  | waiting => exact runs (by simp [runTask, shut.prodWait])
  | reserving blocking | claiming idx tail =>
      refine runs ?_
      simp only [runTask]
      split <;> rfl
  | examining idx tail =>
      refine runs ?_
      simp only [runTask]
      repeat' split
      all_goals rfl
  | reserveClosed | committing idx | commitClosed idx | storing idx pos | waking =>
      exact runs rfl
  | _ => exact absurd unanswered (Nat.lt_irrefl 0)

end Calls

end ChannelCore

end Mgnp
