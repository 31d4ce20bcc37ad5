import Mgnp.ChannelClosing

/-!
# Closing a channel with an error

Any number of `close_with_error` calls may race.  The `fetch_or(ERRORING)` of
`Core::close_with_error` elects one of them, which writes the error cell, sets
`ERRORED` and then closes both ends.  This file follows the elected call from
its election to its answer: readers of the cell on either end see its error
and no other.
-/

namespace Mgnp

namespace ChannelCore

open LabelledRuns PositionWord

variable {T E : Type*} {width : PointerWidth} {capacity : Nat}

/-- A `close_with_error` that has been elected and has not yet returned. -/
def Pc.Winning : Pc E → Prop
  | .writingError _ | .settingErrored => True
  | .closingRx thenTx | .closingProdWait thenTx => thenTx = true
  | .closingTx byError | .closingConsWait byError => byError = true
  | _ => False

/-- A `close_with_error` that has been called and has not yet returned. -/
def Pc.ClosingWithError : Pc E → Prop
  | .erroring _ => True
  | pc => pc.Winning

theorem Pc.Winning.closingWithError {pc : Pc E} (winning : pc.Winning) :
    pc.ClosingWithError := by
  cases pc with
  | erroring _ => exact winning.elim
  | _ => exact winning

/-- Whether an event is the answer `true` of a `close_with_error`. -/
def Event.closedTrue : Event T E → Bool
  | .closeResult _ closed => closed
  | _ => false

/-- The error that an event reports to a sender or to the receiver. -/
def Event.reported : Event T E → Option E
  | .sendClosed _ reason => reason
  | .recvClosed reason => reason
  | _ => none

/-- In the course of a run, call `i` of `close_with_error` was made with this
error. -/
def Called (width : PointerWidth) (start : Channel T E) (history : List (Event T E))
    (final : Channel T E) (i : Nat) (error : E) : Prop :=
  ∃ past middle later, history = past ++ later ∧
    Run (step width) anyStep start past middle ∧
    Run (step width) anyStep middle later final ∧
    TaskAt middle.tasks i (· = .erroring error)

/-- How far the elected call has come with its error. -/
def Pc.Stage (error : E) (core : Core E) : Pc E → Prop
  | .writingError own =>
      own = error ∧ core.error = none ∧ core.state.errored = false
  | .settingErrored => core.error = some error ∧ core.state.errored = false
  | .closingRx true => core.error = some error ∧ core.state.errored = true
  | .closingProdWait true | .closingTx true | .closingConsWait true | .finished =>
      core.error = some error ∧ core.state.errored = true ∧
        HasClosed core.enqueuePos
  | _ => False

/-- A step that leaves the error, its flags and every call that has been
elected or has returned alone. -/
structure ErrorFrame (channel : Channel T E) (events : List (Event T E))
    (next : Channel T E) : Prop where
  erroring : next.core.state.erroring = channel.core.state.erroring
  errored : next.core.state.errored = channel.core.state.errored
  error : next.core.error = channel.core.error
  enqueueClosed : HasClosed channel.core.enqueuePos → HasClosed next.core.enqueuePos
  settled : ∀ i pc, pc.Winning ∨ pc = .finished →
    TaskAt channel.tasks i (· = pc) → TaskAt next.tasks i (· = pc)
  winning : ∀ i, TaskAt next.tasks i Pc.Winning → TaskAt channel.tasks i Pc.Winning
  unanswered : ∀ event ∈ events, event.closedTrue = false
  losers : ∀ i, .closeResult i false ∈ events → channel.core.state.erroring = true ∧
    ∃ error, TaskAt channel.tasks i (· = .erroring error)

/-- The steps of the elected call, and all others. -/
inductive ErrorStep (channel : Channel T E) :
    List (Event T E) → Channel T E → Prop
  | frame {events next} (unchanged : ErrorFrame channel events next) :
      ErrorStep channel events next
  | win {i handle error} (at_pc : channel.tasks[i]? = some ⟨handle, .erroring error⟩)
      (first : channel.core.state.erroring = false) :
      ErrorStep channel []
        { channel.goto i handle (.writingError error) with
          core := { channel.core with
            state := { channel.core.state with erroring := true } } }
  | write {i handle error}
      (at_pc : channel.tasks[i]? = some ⟨handle, .writingError error⟩) :
      ErrorStep channel []
        { channel.goto i handle .settingErrored with
          core := { channel.core with error := some error } }
  | publish {i handle} (at_pc : channel.tasks[i]? = some ⟨handle, .settingErrored⟩) :
      ErrorStep channel []
        { channel.goto i handle (.closingRx true) with
          core := { channel.core with
            state := { channel.core.state with errored := true } } }
  | closeRx {i handle} (at_pc : channel.tasks[i]? = some ⟨handle, .closingRx true⟩) :
      ErrorStep channel []
        { channel.goto i handle (.closingProdWait true) with
          core := { channel.core with
            enqueuePos := channel.core.enqueuePos ||| closed } }
  | closeProdWait {i handle}
      (at_pc : channel.tasks[i]? = some ⟨handle, .closingProdWait true⟩) :
      ErrorStep channel [.closeProd]
        { channel.goto i handle (.closingTx true) with
          core := { channel.core with prodWaitClosed := true } }
  | closeTx {i handle} (at_pc : channel.tasks[i]? = some ⟨handle, .closingTx true⟩) :
      ErrorStep channel []
        { channel.goto i handle (.closingConsWait true) with
          core := { channel.core with
            dequeuePos := channel.core.dequeuePos ||| closed } }
  | answer {i handle}
      (at_pc : channel.tasks[i]? = some ⟨handle, .closingConsWait true⟩) :
      ErrorStep channel [.closeCons, .closeResult i true]
        (channel.goto i handle .finished)

section Classification

variable {channel next : Channel T E} {events : List (Event T E)}

/-- Moving a task that has not been elected, to a place where it is not
elected either, frames the election. -/
theorem ErrorFrame.of_goto {i : Nat} {handle : Option Nat} {pc pc' : Pc E}
    {core : Core E} (at_pc : channel.tasks[i]? = some ⟨handle, pc⟩)
    (unsettled : ¬ (pc.Winning ∨ pc = .finished)) (lacks : ¬ pc'.Winning)
    (erroring : core.state.erroring = channel.core.state.erroring)
    (errored : core.state.errored = channel.core.state.errored)
    (error : core.error = channel.core.error)
    (enqueueClosed : HasClosed channel.core.enqueuePos → HasClosed core.enqueuePos)
    (unanswered : ∀ event ∈ events, event.closedTrue = false)
    (losers : ∀ k, .closeResult k false ∈ events → channel.core.state.erroring = true ∧
      ∃ error, TaskAt channel.tasks k (· = .erroring error)) :
    ErrorFrame channel events { channel.goto i handle pc' with core := core } where
  erroring := erroring
  errored := errored
  error := error
  enqueueClosed := enqueueClosed
  settled k settledPc isSettled found := by
    refine (taskAt_set_ne fun same => ?_).mpr found
    subst same
    have moved : pc = settledPc := (taskAt_iff_of_pc at_pc).mp found
    exact unsettled (moved ▸ isSettled)
  winning _ := TaskAt.of_set lacks
  unanswered := unanswered
  losers := losers

theorem ErrorFrame.of_spawn (task : Task E) (lacks : ¬ task.pc.Winning)
    {next : Channel T E} (core : next.core = channel.core)
    (tasks : next.tasks = channel.tasks ++ [task]) :
    ErrorFrame channel [] next where
  erroring := by rw [core]
  errored := by rw [core]
  error := by rw [core]
  enqueueClosed := by rw [core]; exact id
  settled _ _ _ found := by rw [tasks]; exact taskAt_append.mpr (.inl found)
  winning _ found := TaskAt.of_append lacks (tasks ▸ found)
  unanswered := by simp
  losers := by simp

theorem LocalMove.errorStep {i : Nat} {handle : Option Nat} {pc pc' : Pc E}
    (at_pc : channel.tasks[i]? = some ⟨handle, pc⟩)
    (move : LocalMove width channel.core i pc pc' events) :
    ErrorStep channel events (channel.goto i handle pc') := by
  cases move with
  | @closeConsWait byError =>
      cases byError with
      | true => exact .answer at_pc
      | false =>
          exact .frame (.of_goto at_pc (by simp [Pc.Winning]) id rfl rfl rfl id
            (by simp [Event.closedTrue]) (by simp))
  | sawClosed | sawOpen | reserveError | park | full | waitClosed | woken | commitCall
  | loadTail | commitSawClosed | panic | claim | reloadTail | claimFailed
  | commitError | wakeReceiver | dropPermit | dropReceived | wakeSender | acquireLast =>
      exact .frame (.of_goto at_pc (by simp [Pc.Winning]) (by simp [Pc.Winning])
        rfl rfl rfl id (by simp [Event.closedTrue]) (by simp))

theorem StateMove.errorStep {i : Nat} {handle : Option Nat} {pc pc' : Pc E}
    {core : Core E} (at_pc : channel.tasks[i]? = some ⟨handle, pc⟩)
    (published : channel.core.state.errored = true → channel.core.state.erroring = true)
    (move : StateMove channel.core i pc pc' core events) :
    ErrorStep channel events { channel.goto i handle pc' with core := core } := by
  cases move with
  | loseError late =>
      have already : channel.core.state.erroring = true := by
        rcases Bool.or_eq_true .. ▸ late with erroring | errored
        · exact erroring
        · exact published errored
      refine .frame (.of_goto at_pc (by simp [Pc.Winning]) id already.symm rfl rfl id
        (by simp [Event.closedTrue]) ?_)
      intro k answered
      obtain rfl : k = i := by simpa using answered
      exact ⟨already, _, (taskAt_iff_of_pc at_pc).mpr rfl⟩
  | winError first => exact .win at_pc (Bool.or_eq_false_iff.mp first).1
  | writeError => exact .write at_pc
  | setErrored => exact .publish at_pc
  | @closeProdWait thenTx =>
      cases thenTx with
      | true => exact .closeProdWait at_pc
      | false =>
          exact .frame (.of_goto at_pc (by simp [Pc.Winning]) id rfl rfl rfl id
            (by simp [Event.closedTrue]) (by simp))
  | dropTx =>
      refine .frame (.of_goto at_pc (by simp [Pc.Winning]) ?_ rfl rfl rfl id
        (by simp) (by simp))
      split <;> exact id

theorem Transition.errorStep
    (published : channel.core.state.errored = true → channel.core.state.erroring = true)
    (transition : Transition width channel events next) :
    ErrorStep channel events next := by
  have closes := transition.enqueue_closed
  cases transition with
  | call called =>
      refine .frame (.of_spawn _ ?_ rfl rfl)
      cases called <;> exact id
  | cloneTx | write | dequeueWon =>
      exact .frame ⟨rfl, rfl, rfl, id, fun _ _ _ => id, fun _ => id, by simp, by simp⟩
  | dropTx => exact .frame (.of_spawn ⟨none, .droppingTx⟩ id rfl rfl)
  | dropRx =>
      exact .frame (.of_spawn ⟨none, .closingRx false⟩ (by simp [Pc.Winning]) rfl rfl)
  | taskLocal at_pc move => exact move.errorStep at_pc
  | taskState at_pc move => exact move.errorStep at_pc published
  | allocate at_pc | free at_pc | store at_pc =>
      exact .frame (.of_goto at_pc (by simp [Pc.Winning]) id rfl rfl rfl id
        (by simp [Event.closedTrue]) (by simp))
  | commitWon at_pc =>
      exact .frame (.of_goto at_pc (by simp [Pc.Winning]) id rfl rfl rfl closes
        (by simp [Event.closedTrue]) (by simp))
  | @closeRx i handle thenTx at_pc =>
      cases thenTx with
      | true => exact .closeRx at_pc
      | false =>
          exact .frame (.of_goto at_pc (by simp [Pc.Winning]) (by simp [Pc.Winning])
            rfl rfl rfl closes (by simp) (by simp))
  | @closeTx i handle byError at_pc =>
      cases byError with
      | true => exact .closeTx at_pc
      | false =>
          exact .frame (.of_goto at_pc (by simp [Pc.Winning]) (by simp [Pc.Winning])
            rfl rfl rfl id (by simp) (by simp))
  | rxLocal _ move =>
      refine .frame ⟨rfl, rfl, rfl, id, fun _ _ _ => id, fun _ => id, ?_, ?_⟩ <;>
        cases move <;> simp [Event.closedTrue]
  | release =>
      exact .frame ⟨rfl, rfl, rfl, id, fun _ _ _ found => taskAt_append.mpr (.inl found),
        fun _ => TaskAt.of_append id, by simp [Event.closedTrue], by simp⟩

/-- An error reported by a step is the one that `close_reason` reads. -/
theorem Transition.reported_eq (transition : Transition width channel events next)
    {event : Event T E} (member : event ∈ events) {error : E}
    (reports : event.reported = some error) :
    channel.core.closeReason = some error := by
  cases transition with
  | taskLocal _ move =>
      cases move with
      | reserveError | commitError =>
          rw [List.mem_singleton.mp member] at reports
          exact reports
      | @closeConsWait byError =>
          cases byError <;> simp at member
          · subst member; cases reports
          · rcases member with rfl | rfl <;> cases reports
      | wakeReceiver =>
          simp at member
          rcases member with rfl | rfl <;> cases reports
      | full | panic | wakeSender =>
          rw [List.mem_singleton.mp member] at reports
          cases reports
      | sawClosed | sawOpen | park | waitClosed | woken | commitCall | loadTail
      | commitSawClosed | claim | reloadTail | claimFailed | dropPermit | dropReceived
      | acquireLast => cases member
  | taskState _ move =>
      cases move with
      | loseError | closeProdWait =>
          rw [List.mem_singleton.mp member] at reports
          cases reports
      | winError | writeError | setErrored | dropTx => cases member
  | rxLocal _ move =>
      cases move with
      | answerClosed =>
          rw [List.mem_singleton.mp member] at reports
          exact reports
      | sawEmpty =>
          rw [List.mem_singleton.mp member] at reports
          cases reports
      | call | loadHead | sawClosed | claim | reloadHead | claimFailed => cases member
  | allocate | commitWon | store | release =>
      rw [List.mem_singleton.mp member] at reports
      cases reports
  | call | cloneTx | dropTx | dropRx | free | write | closeRx | closeTx
  | dequeueWon => cases member

end Classification

/-- The call `winner` has been elected with `error`. -/
structure Elected (history : List (Event T E)) (channel : Channel T E)
    (winner : Nat) (error : E) : Prop where
  stage : TaskAt channel.tasks winner (Pc.Stage error channel.core)
  alone : ∀ i, TaskAt channel.tasks i Pc.Winning → i = winner
  answers : (TaskAt channel.tasks winner Pc.Winning ∧
      history.filter Event.closedTrue = []) ∨
    (TaskAt channel.tasks winner (· = .finished) ∧
      history.filter Event.closedTrue = [.closeResult winner true])
  undefeated : .closeResult winner false ∉ history
  reports : ∀ event ∈ history, ∀ reported,
    event.reported = some reported → reported = error

/-- Before the election nothing has been written, answered or reported. -/
structure Unelected (history : List (Event T E)) (channel : Channel T E) : Prop where
  errored : channel.core.state.errored = false
  error : channel.core.error = none
  nobody : ∀ i, ¬ TaskAt channel.tasks i Pc.Winning
  unanswered : ∀ i closed, .closeResult i closed ∉ history
  unreported : ∀ event ∈ history, event.reported = none

/-- The winner's stage shows that it has been elected or has returned. -/
theorem Pc.Stage.settled {error : E} {core : Core E} {pc : Pc E}
    (stage : pc.Stage error core) : pc.Winning ∨ pc = .finished := by
  cases pc with
  | writingError _ | settingErrored => exact .inl trivial
  | finished => exact .inr rfl
  | closingRx thenTx | closingProdWait thenTx =>
      cases thenTx with
      | true => exact .inl rfl
      | false => exact stage.elim
  | closingTx byError | closingConsWait byError =>
      cases byError with
      | true => exact .inl rfl
      | false => exact stage.elim
  | _ => exact stage.elim

/-- The cell is empty, unread, or holds the winner's error. -/
theorem Pc.Stage.cell {error : E} {core : Core E} {pc : Pc E}
    (stage : pc.Stage error core) :
    core.error = some error ∨ core.error = none ∧ core.state.errored = false := by
  cases pc with
  | writingError own => exact .inr stage.2
  | settingErrored | finished => exact .inl stage.1
  | closingRx thenTx | closingProdWait thenTx =>
      cases thenTx with
      | true => exact .inl stage.1
      | false => exact stage.elim
  | closingTx byError | closingConsWait byError =>
      cases byError with
      | true => exact .inl stage.1
      | false => exact stage.elim
  | _ => exact stage.elim

theorem Pc.Stage.frame {error : E} {core next : Core E} {pc : Pc E}
    (errored : next.state.errored = core.state.errored) (cell : next.error = core.error)
    (enqueueClosed : HasClosed core.enqueuePos → HasClosed next.enqueuePos)
    (stage : pc.Stage error core) : pc.Stage error next := by
  cases pc with
  | writingError own =>
      exact ⟨stage.1, by rw [cell]; exact stage.2.1, by rw [errored]; exact stage.2.2⟩
  | settingErrored => exact ⟨by rw [cell]; exact stage.1, by rw [errored]; exact stage.2⟩
  | finished =>
      exact ⟨by rw [cell]; exact stage.1, by rw [errored]; exact stage.2.1,
        enqueueClosed stage.2.2⟩
  | closingRx thenTx =>
      cases thenTx with
      | true => exact ⟨by rw [cell]; exact stage.1, by rw [errored]; exact stage.2⟩
      | false => exact stage.elim
  | closingProdWait thenTx =>
      cases thenTx with
      | true =>
          exact ⟨by rw [cell]; exact stage.1, by rw [errored]; exact stage.2.1,
            enqueueClosed stage.2.2⟩
      | false => exact stage.elim
  | closingTx byError | closingConsWait byError =>
      cases byError with
      | true =>
          exact ⟨by rw [cell]; exact stage.1, by rw [errored]; exact stage.2.1,
            enqueueClosed stage.2.2⟩
      | false => exact stage.elim
  | _ => exact stage.elim

section Preservation

variable {channel next : Channel T E} {past events : List (Event T E)}
  {winner : Nat} {error : E}

/-- Where `ERRORED` is set, the cell holds the error of the elected call. -/
theorem Elected.published (elected : Elected past channel winner error)
    (errored : channel.core.state.errored = true) :
    channel.core.error = some error := by
  obtain ⟨task, _, stage⟩ := elected.stage
  rcases stage.cell with stored | ⟨_, unpublished⟩
  · exact stored
  · rw [errored] at unpublished
    cases unpublished

/-- Whatever a step reports is the error of the elected call. -/
theorem Elected.reports_step (elected : Elected past channel winner error)
    (transition : Transition width channel events next) :
    ∀ event ∈ past ++ events, ∀ reported,
      event.reported = some reported → reported = error := by
  intro event member reported reports
  rcases List.mem_append.mp member with before | now
  · exact elected.reports event before reported reports
  · have read := transition.reported_eq now reports
    unfold Core.closeReason at read
    split at read
    · rename_i errored
      rw [elected.published errored] at read
      exact (Option.some.inj read).symm
    · cases read

/-- A move of the elected call to its next stage. -/
theorem Elected.advance (elected : Elected past channel winner error) {i : Nat}
    {handle : Option Nat} {pc pc' : Pc E} {core : Core E}
    (at_pc : channel.tasks[i]? = some ⟨handle, pc⟩) (winning : pc.Winning)
    (winning' : pc'.Winning) (silent : ∀ k closed, .closeResult k closed ∉ events)
    (stage : pc.Stage error channel.core → pc'.Stage error core)
    (reports : ∀ event ∈ past ++ events, ∀ reported,
      event.reported = some reported → reported = error) :
    Elected (past ++ events) { channel.goto i handle pc' with core := core }
      winner error := by
  obtain rfl : i = winner := elected.alone i ((taskAt_iff_of_pc at_pc).mpr winning)
  have unanswered : past.filter Event.closedTrue = [] := by
    rcases elected.answers with ⟨_, none⟩ | ⟨returned, _⟩
    · exact none
    · have same : pc = .finished := (taskAt_iff_of_pc at_pc).mp returned
      subst same
      exact winning.elim
  refine ⟨(taskAt_set_self at_pc).mpr (stage ((taskAt_iff_of_pc at_pc).mp elected.stage)),
    fun k found => elected.alone k (TaskAt.of_set_kept at_pc winning found),
    .inl ⟨(taskAt_set_self at_pc).mpr winning', ?_⟩, ?_, reports⟩
  · rw [List.filter_append, unanswered, List.nil_append, List.filter_eq_nil_iff]
    intro event member
    cases event with
    | closeResult k closed => exact absurd member (silent k closed)
    | _ => exact Bool.false_ne_true
  · intro member
    rcases List.mem_append.mp member with before | now
    · exact elected.undefeated before
    · exact silent _ _ now

theorem Elected.frame (elected : Elected past channel winner error)
    (unchanged : ErrorFrame channel events next)
    (reports : ∀ event ∈ past ++ events, ∀ reported,
      event.reported = some reported → reported = error) :
    Elected (past ++ events) next winner error := by
  have silent : events.filter Event.closedTrue = [] := by
    rw [List.filter_eq_nil_iff]
    intro event member
    rw [unchanged.unanswered event member]
    exact Bool.false_ne_true
  refine ⟨?_, fun i found => elected.alone i (unchanged.winning i found), ?_, ?_, reports⟩
  · obtain ⟨task, at_winner, stage⟩ := elected.stage
    obtain ⟨task', at_winner', same⟩ :=
      unchanged.settled winner task.pc stage.settled ⟨task, at_winner, rfl⟩
    refine ⟨task', at_winner', ?_⟩
    rw [show task'.pc = task.pc from same]
    exact stage.frame unchanged.errored unchanged.error unchanged.enqueueClosed
  · rw [List.filter_append, silent, List.append_nil]
    rcases elected.answers with ⟨⟨task, at_winner, winning⟩, none⟩ | ⟨returned, one⟩
    · obtain ⟨task', at_winner', same⟩ :=
        unchanged.settled winner task.pc (.inl winning) ⟨task, at_winner, rfl⟩
      refine .inl ⟨⟨task', at_winner', ?_⟩, none⟩
      rw [show task'.pc = task.pc from same]
      exact winning
    · exact .inr ⟨unchanged.settled winner _ (.inr rfl) returned, one⟩
  · intro member
    rcases List.mem_append.mp member with before | now
    · exact elected.undefeated before
    · obtain ⟨_, own, losing⟩ := unchanged.losers winner now
      obtain ⟨task, at_winner, stage⟩ := elected.stage
      have same : task.pc = .erroring own := (taskAt_iff_of_pc at_winner).mp losing
      rw [same] at stage
      exact stage

/-- The election is final: every later step keeps its winner. -/
theorem Elected.transition (elected : Elected past channel winner error)
    (transition : Transition width channel events next)
    (erroring : channel.core.state.erroring = true) :
    Elected (past ++ events) next winner error := by
  have reports := elected.reports_step transition
  cases transition.errorStep fun _ => erroring with
  | frame unchanged => exact elected.frame unchanged reports
  | win at_pc first => rw [erroring] at first; cases first
  | write at_pc =>
      refine elected.advance at_pc trivial trivial (by simp) (fun stage => ?_) reports
      exact ⟨by rw [stage.1], stage.2.2⟩
  | publish at_pc =>
      exact elected.advance at_pc trivial rfl (by simp) (fun stage => ⟨stage.1, rfl⟩) reports
  | closeRx at_pc =>
      exact elected.advance at_pc rfl rfl (by simp)
        (fun stage => ⟨stage.1, stage.2, hasClosed_or_closed _⟩) reports
  | closeProdWait at_pc => exact elected.advance at_pc rfl rfl (by simp) id reports
  | closeTx at_pc => exact elected.advance at_pc rfl rfl (by simp) id reports
  | @answer i handle at_pc =>
      have winning : TaskAt channel.tasks i Pc.Winning := (taskAt_iff_of_pc at_pc).mpr rfl
      obtain rfl := elected.alone i winning
      have stage := (taskAt_iff_of_pc at_pc).mp elected.stage
      have unanswered : past.filter Event.closedTrue = [] := by
        rcases elected.answers with ⟨_, none⟩ | ⟨returned, _⟩
        · exact none
        · cases (taskAt_iff_of_pc at_pc).mp returned
      refine ⟨(taskAt_set_self at_pc).mpr stage,
        fun k found => elected.alone k (TaskAt.of_set id found),
        .inr ⟨(taskAt_set_self at_pc).mpr rfl, ?_⟩, ?_, reports⟩
      · rw [List.filter_append, unanswered]
        rfl
      · intro member
        rcases List.mem_append.mp member with before | now
        · exact elected.undefeated before
        · simp at now

/-- One step before the election, or the election itself. -/
theorem Unelected.transition (unelected : Unelected past channel)
    (transition : Transition width channel events next)
    (waiting : channel.core.state.erroring = false) :
    (next.core.state.erroring = false ∧ Unelected (past ++ events) next) ∨
    next.core.state.erroring = true ∧
      (∀ i closed, .closeResult i closed ∉ past ++ events) ∧ ∃ winner error,
        TaskAt channel.tasks winner (· = .erroring error) ∧
        Elected (past ++ events) next winner error := by
  have unreported : ∀ event ∈ past ++ events, event.reported = none := by
    intro event member
    rcases List.mem_append.mp member with before | now
    · exact unelected.unreported event before
    · cases reports : event.reported with
      | none => rfl
      | some error =>
          have read := transition.reported_eq now reports
          rw [Core.closeReason, unelected.errored] at read
          cases read
  have noWinner {i : Nat} {handle : Option Nat} {pc : Pc E}
      (at_pc : channel.tasks[i]? = some ⟨handle, pc⟩) (winning : pc.Winning) : False :=
    unelected.nobody i ((taskAt_iff_of_pc at_pc).mpr winning)
  have step := transition.errorStep fun errored => by
    rw [unelected.errored] at errored
    cases errored
  cases step with
  | frame unchanged =>
      refine .inl ⟨unchanged.erroring.trans waiting,
        unchanged.errored.trans unelected.errored,
        unchanged.error.trans unelected.error,
        fun i found => unelected.nobody i (unchanged.winning i found), ?_, unreported⟩
      intro i closed member
      rcases List.mem_append.mp member with before | now
      · exact unelected.unanswered i closed before
      · cases closed with
        | true => cases unchanged.unanswered _ now
        | false =>
            have erroring := (unchanged.losers i now).1
            rw [waiting] at erroring
            cases erroring
  | @win i handle error at_pc =>
      refine .inr ⟨rfl, by rw [List.append_nil]; exact unelected.unanswered, i, error,
        (taskAt_iff_of_pc at_pc).mpr rfl, ?_⟩
      refine ⟨(taskAt_set_self at_pc).mpr ⟨rfl, unelected.error, unelected.errored⟩,
        ?_, .inl ⟨(taskAt_set_self at_pc).mpr trivial, ?_⟩, ?_, ?_⟩
      · intro k found
        by_contra other
        exact unelected.nobody k ((taskAt_set_ne (Ne.symm other)).mp found)
      · rw [List.append_nil, List.filter_eq_nil_iff]
        intro event member
        cases event with
        | closeResult k closed => exact absurd member (unelected.unanswered k closed)
        | _ => exact Bool.false_ne_true
      · rw [List.append_nil]
        exact unelected.unanswered i false
      · intro event member reported reports
        rw [unreported event member] at reports
        cases reports
  | write at_pc => exact (noWinner at_pc trivial).elim
  | publish at_pc => exact (noWinner at_pc trivial).elim
  | closeRx at_pc => exact (noWinner at_pc rfl).elim
  | closeProdWait at_pc => exact (noWinner at_pc rfl).elim
  | closeTx at_pc => exact (noWinner at_pc rfl).elim
  | answer at_pc => exact (noWinner at_pc rfl).elim

end Preservation

theorem Transition.erroring_kept {channel next : Channel T E} {events : List (Event T E)}
    (transition : Transition width channel events next)
    (erroring : channel.core.state.erroring = true) :
    next.core.state.erroring = true := by
  cases transition.errorStep fun _ => erroring with
  | frame unchanged => exact unchanged.erroring.trans erroring
  | win => rfl
  | write | publish | closeRx | closeProdWait | closeTx | answer => exact erroring

/-- After any history, the channel awaits its first `close_with_error` or has
elected one. -/
inductive Election (history : List (Event T E)) (channel : Channel T E)
    (called : Nat → E → Prop) : Prop
  | pending (waiting : channel.core.state.erroring = false)
      (unelected : Unelected history channel)
  | decided {winner error} (erroring : channel.core.state.erroring = true)
      (made : called winner error) (elected : Elected history channel winner error)

theorem election_run {history : List (Event T E)} {final : Channel T E}
    (run : Run (step width) anyStep (Channel.new width capacity) history final) :
    Election history final
      (Called width (Channel.new width capacity) history final) := by
  have both : Run (step width) anyStep (Channel.new width capacity) history final ∧
      Election history final
        (Called width (Channel.new width capacity) history final) := by
    refine run.invariant (fun history state =>
      Run (step width) anyStep (Channel.new width capacity) history state ∧
        Election history state
          (Called width (Channel.new width capacity) history state))
      ⟨.refl, .pending rfl ⟨rfl, rfl, ?_, by simp, by simp⟩⟩ ?_
    · rintro i ⟨task, at_i, _⟩
      simp [Channel.new] at at_i
    · intro past events state next action holds admitted stepTo
      obtain ⟨before, election⟩ := holds
      have after := Run.tail before admitted stepTo
      have transition := step_transition stepTo
      refine ⟨after, ?_⟩
      cases election with
      | pending waiting unelected =>
          rcases unelected.transition transition waiting with
            ⟨still, unelected'⟩ | ⟨erroring, _, winner, error, calling, elected⟩
          · exact .pending still unelected'
          · exact .decided erroring ⟨past, state, events, rfl, before,
              .single admitted stepTo, calling⟩ elected
      | @decided winner error erroring made elected =>
          have stays := transition.erroring_kept erroring
          obtain ⟨early, middle, later, rfl, first, second, calling⟩ := made
          exact .decided stays
            ⟨early, middle, later ++ events, List.append_assoc .., first,
              .tail second admitted stepTo, calling⟩
            (elected.transition transition erroring)
  exact both.2

/-- The error cell is not written again once it has been written. -/
theorem Elected.error_kept {channel next : Channel T E} {past events : List (Event T E)}
    {winner : Nat} {error : E} (elected : Elected past channel winner error)
    (erroring : channel.core.state.erroring = true)
    (transition : Transition width channel events next)
    (written : channel.core.error = some error) : next.core.error = some error := by
  cases transition.errorStep fun _ => erroring with
  | frame unchanged => exact unchanged.error.trans written
  | @write i handle own at_pc =>
      obtain rfl := elected.alone i ((taskAt_iff_of_pc at_pc).mpr trivial)
      have stage := (taskAt_iff_of_pc at_pc).mp elected.stage
      exact congrArg some stage.1
  | win | publish | closeRx | closeProdWait | closeTx | answer => exact written

/-- What an election leaves decided for the rest of the run. -/
theorem Elected.run {admits : Channel T E → Action T E → Prop}
    {channel final : Channel T E} {past later : List (Event T E)} {winner : Nat}
    {error : E} (elected : Elected past channel winner error)
    (erroring : channel.core.state.erroring = true)
    (run : Run (step width) admits channel later final) :
    Elected (past ++ later) final winner error ∧
      (channel.core.error = some error → final.core.error = some error) := by
  have all : Elected (past ++ later) final winner error ∧
      final.core.state.erroring = true ∧
      (channel.core.error = some error → final.core.error = some error) := by
    refine run.invariant (fun later state => Elected (past ++ later) state winner error ∧
      state.core.state.erroring = true ∧
      (channel.core.error = some error → state.core.error = some error))
      ⟨by rwa [List.append_nil], erroring, id⟩ ?_
    intro before events state next action ⟨holds, raised, kept⟩ _ stepTo
    have transition := step_transition stepTo
    rw [← List.append_assoc]
    exact ⟨holds.transition transition raised, transition.erroring_kept raised,
      fun written => holds.error_kept raised transition (kept written)⟩
  exact ⟨all.1, all.2.2⟩

theorem winning_of_writing {tasks : List (Task E)} {i : Nat} {error : E}
    (writing : TaskAt tasks i (· = .writingError error)) : TaskAt tasks i Pc.Winning := by
  obtain ⟨task, at_i, pc⟩ := writing
  exact ⟨task, at_i, by rw [pc]; trivial⟩

/-- While a call writes the error cell nobody may have read it. -/
theorem Elected.writing {channel : Channel T E} {history : List (Event T E)}
    {winner : Nat} {error own : E} (elected : Elected history channel winner error)
    {i : Nat} (writes : TaskAt channel.tasks i (· = .writingError own)) :
    i = winner ∧ channel.core.error = none ∧ channel.core.state.errored = false := by
  obtain rfl := elected.alone i (winning_of_writing writes)
  obtain ⟨task, at_winner, pc⟩ := writes
  have stage := (taskAt_iff_of_pc at_winner).mp elected.stage
  rw [show task.pc = .writingError own from pc] at stage
  exact ⟨rfl, stage.2⟩

/-- The cell holds the winner's error or has not been written. -/
theorem Elected.cell {channel : Channel T E} {history : List (Event T E)}
    {winner : Nat} {error own : E} (elected : Elected history channel winner error)
    (written : channel.core.error = some own) : own = error := by
  obtain ⟨task, _, stage⟩ := elected.stage
  rcases stage.cell with stored | ⟨unwritten, _⟩
  · rw [stored] at written
    exact (Option.some.inj written).symm
  · rw [unwritten] at written
    cases written

/-- The winner has answered or is about to. -/
theorem Elected.winner_answers {channel : Channel T E} {history : List (Event T E)}
    {winner : Nat} {error : E} (elected : Elected history channel winner error) :
    .closeResult winner true ∈ history ∨ TaskAt channel.tasks winner Pc.Winning := by
  rcases elected.answers with ⟨winning, _⟩ | ⟨_, one⟩
  · exact .inr winning
  · have kept : .closeResult winner true ∈ history.filter Event.closedTrue := by
      rw [one]
      exact List.mem_singleton_self _
    exact .inl (List.mem_filter.mp kept).1

/-- Before an election no call has answered `true`. -/
theorem Unelected.none_closed {channel : Channel T E} {history : List (Event T E)}
    (unelected : Unelected history channel) : history.filter Event.closedTrue = [] := by
  rw [List.filter_eq_nil_iff]
  intro event member
  cases event with
  | closeResult i closed => exact absurd member (unelected.unanswered i closed)
  | _ => exact Bool.false_ne_true

theorem Elected.answered_iff {channel : Channel T E} {history : List (Event T E)}
    {winner : Nat} {error : E} (elected : Elected history channel winner error) {i : Nat}
    (answered : .closeResult i true ∈ history) : i = winner := by
  have kept : .closeResult i true ∈ history.filter Event.closedTrue :=
    List.mem_filter.mpr ⟨answered, rfl⟩
  rcases elected.answers with ⟨_, none⟩ | ⟨_, one⟩
  · rw [none] at kept
    cases kept
  · rw [one] at kept
    simpa using kept

/-- In every run of a channel, at most one `close_with_error` answers `true`,
and exactly one does when some have been called and all have returned.  The
error cell is written by the elected call alone, before `ERRORED` allows
anyone to read it, and never again.  Every `Error` that a sender or the
receiver is given is the error of one call, which has answered `true` or is
about to, and which is the only one that ever does. -/
theorem close_with_error_elects_one {history : List (Event T E)} {final : Channel T E}
    (run : Run (step width) anyStep (Channel.new width capacity) history final) :
    (history.filter Event.closedTrue).length ≤ 1 ∧
    ((∃ i closed, .closeResult i closed ∈ history) →
      (∀ i, ¬ TaskAt final.tasks i Pc.ClosingWithError) →
      (history.filter Event.closedTrue).length = 1) ∧
    (∀ i error, TaskAt final.tasks i (· = .writingError error) →
      final.core.error = none ∧ final.core.state.errored = false ∧
        ∀ k other, TaskAt final.tasks k (· = .writingError other) → k = i) ∧
    (final.core.state.errored = true → ∃ error, final.core.error = some error) ∧
    (∀ error, final.core.error = some error → ∀ later last,
      Run (step width) anyStep final later last →
      last.core.error = some error ∧
        ∀ i other, ¬ TaskAt last.tasks i (· = .writingError other)) ∧
    ∀ event ∈ history, ∀ error, event.reported = some error →
      ∃ winner, Called width (Channel.new width capacity) history final winner error ∧
        (.closeResult winner true ∈ history ∨ TaskAt final.tasks winner Pc.Winning) ∧
        ∀ later last, Run (step width) anyStep final later last →
          .closeResult winner false ∉ history ++ later ∧
          ∀ i, .closeResult i true ∈ history ++ later → i = winner := by
  cases election_run run with
  | pending waiting unelected =>
      refine ⟨by simp [unelected.none_closed], ?_, ?_, ?_, ?_, ?_⟩
      · rintro ⟨i, closed, answered⟩
        exact absurd answered (unelected.unanswered i closed)
      · exact fun i _ writing => absurd (winning_of_writing writing) (unelected.nobody i)
      · intro errored
        rw [unelected.errored] at errored
        cases errored
      · intro error written
        rw [unelected.error] at written
        cases written
      · intro event member error reports
        rw [unelected.unreported event member] at reports
        cases reports
  | @decided winner error erroring made elected =>
      refine ⟨?_, ?_, ?_, ?_, ?_, ?_⟩
      · rcases elected.answers with ⟨_, none⟩ | ⟨_, one⟩
        · simp [none]
        · simp [one]
      · intro _ returned
        rcases elected.answers with ⟨⟨task, at_winner, winning⟩, _⟩ | ⟨_, one⟩
        · exact absurd ⟨task, at_winner, winning.closingWithError⟩ (returned winner)
        · rw [one]
          rfl
      · intro i own writing
        obtain ⟨rfl, unwritten, unpublished⟩ := elected.writing writing
        exact ⟨unwritten, unpublished, fun k _ other => (elected.writing other).1⟩
      · exact fun errored => ⟨error, elected.published errored⟩
      · intro own written later last after
        obtain rfl := elected.cell written
        obtain ⟨still, kept⟩ := elected.run erroring after
        refine ⟨kept written, fun i other writing => ?_⟩
        rw [(still.writing writing).2.1] at kept
        cases kept written
      · intro event member own reports
        obtain rfl := elected.reports event member own reports
        refine ⟨winner, made, elected.winner_answers, fun later last after => ?_⟩
        have still := (elected.run erroring after).1
        exact ⟨still.undefeated, fun i answered => still.answered_iff answered⟩

/-- Two calls race.  The loser answers `false` while the winner is still
writing its error, and a sender that comes later is given the winner's. -/
theorem close_with_error_elects_one_race :
    ∃ (history : List (Event Nat Nat)) (final : Channel Nat Nat),
      (history.filter Event.closedTrue).length ≤ 1 ∧
      .closeResult 1 false ∈ history ∧ .sendClosed 2 (some 5) ∈ history ∧
      ∃ winner, Called .bits64 (Channel.new .bits64 1) history final winner 5 := by
  obtain ⟨history, final, run, seen⟩ :=
    exists_run_of_exec (step .bits64) anyStep (Channel.new .bits64 1 : Channel Nat Nat)
      [.closeWithError none 5, .closeWithError (some 0) 6, .run 0, .run 1, .run 0,
        .run 0, .run 0, .run 0, .run 0, .run 0, .reserve 0 false, .run 2, .run 2]
      Prod.snd
      (show _ = some [.closeResult 1 false, .closeProd, .closeCons, .closeResult 0 true,
        .sendClosed 2 (some 5)] by decide)
  obtain rfl : history = _ := seen
  have elects := close_with_error_elects_one run
  obtain ⟨winner, made, _⟩ :=
    elects.2.2.2.2.2 (.sendClosed 2 (some 5)) (by simp) 5 rfl
  exact ⟨_, final, elects.1, by simp, by simp, winner, made⟩

/-- Whether a step is the return of a `close_with_error` that finds `ERRORING`
set by a call that has not yet set `ERRORED` and closed `enqueue_pos`. -/
def Channel.losesEarly (channel : Channel T E) : Action T E → Bool
  | .run i =>
      match channel.tasks[i]? with
      | some ⟨_, .erroring _⟩ =>
          channel.core.state.erroring &&
            !(channel.core.state.errored && HasClosed channel.core.enqueuePos)
      | _ => false
  | _ => false

/-- No call of `close_with_error` returns before the channel is closed. -/
def LosesLate (channel : Channel T E) (action : Action T E) : Prop :=
  channel.losesEarly action = false

instance (channel : Channel T E) (action : Action T E) :
    Decidable (LosesLate channel action) :=
  inferInstanceAs (Decidable (_ = _))

/-- A channel that `close_with_error` has closed for senders. -/
def Channel.ErrorClosed (channel : Channel T E) : Prop :=
  channel.core.state.errored = true ∧ HasClosed channel.core.enqueuePos

section Returned

variable {channel next : Channel T E} {events : List (Event T E)}

theorem Transition.errorClosed_kept (transition : Transition width channel events next)
    (erroring : channel.core.state.erroring = true)
    (isClosed : channel.ErrorClosed) : next.ErrorClosed := by
  refine ⟨?_, transition.enqueue_closed isClosed.2⟩
  cases transition.errorStep fun _ => erroring with
  | frame unchanged => exact unchanged.errored.trans isClosed.1
  | publish => rfl
  | win | write | closeRx | closeProdWait | closeTx | answer => exact isClosed.1

/-- Under late losers, whoever answers answers in a closed channel. -/
theorem Elected.answered_errorClosed {past : List (Event T E)} {winner : Nat} {error : E}
    {action : Action T E} (elected : Elected past channel winner error)
    (erroring : channel.core.state.erroring = true)
    (stepTo : step width channel action = some (next, events))
    (late : LosesLate channel action) {i : Nat} {closed : Bool}
    (answered : .closeResult i closed ∈ events) : next.ErrorClosed := by
  have transition := step_transition stepTo
  cases transition.errorStep fun _ => erroring with
  | frame unchanged =>
      cases closed with
      | true => cases unchanged.unanswered _ answered
      | false =>
          obtain ⟨_, own, ⟨handle, pc⟩, at_i, rfl⟩ := unchanged.losers i answered
          obtain rfl := run_of_ranBy stepTo answered rfl
          have isClosed : channel.ErrorClosed := by
            simpa [LosesLate, Channel.losesEarly, at_i, erroring, Channel.ErrorClosed]
              using late
          exact transition.errorClosed_kept erroring isClosed
  | answer at_pc =>
      have stage := elected.alone _ ((taskAt_iff_of_pc at_pc).mpr rfl) ▸ elected.stage
      exact ((taskAt_iff_of_pc at_pc).mp stage).2
  | win | write | publish | closeRx | closeProdWait | closeTx => simp at answered

/-- A reservation call that answers has read an open `enqueue_pos`, or reports
what `close_reason` read. -/
theorem Transition.reservation (transition : Transition width channel events next)
    (i : Nat) :
    (∀ idx, .reserved i idx ∈ events → TaskAt channel.tasks i Pc.Allocating) ∧
    (.full i ∈ events → TaskAt channel.tasks i Pc.Allocating) ∧
    ∀ reason, .sendClosed i reason ∈ events → reason = channel.core.closeReason := by
  cases transition with
  | @taskLocal k handle pc pc' _ at_pc move =>
      cases move with
      | full =>
          refine ⟨by simp, fun answered => ?_, by simp⟩
          obtain rfl : i = k := by simpa using answered
          exact (taskAt_iff_of_pc at_pc).mpr trivial
      | reserveError | commitError =>
          exact ⟨by simp, by simp, fun reason answered => by simp at answered; exact answered.2⟩
      | @closeConsWait byError => cases byError <;> simp
      | sawClosed | sawOpen | park | waitClosed | woken | commitCall | loadTail
      | commitSawClosed | panic | claim | reloadTail | claimFailed | wakeReceiver
      | dropPermit | dropReceived | wakeSender | acquireLast => simp
  | @allocate k handle blocking idx at_pc =>
      refine ⟨fun other answered => ?_, by simp, by simp⟩
      obtain ⟨rfl, _⟩ : i = k ∧ other = idx := by simpa using answered
      exact (taskAt_iff_of_pc at_pc).mpr trivial
  | taskState _ move => cases move <;> simp
  | rxLocal _ move => cases move <;> simp
  | call | cloneTx | dropTx | dropRx | free | write | commitWon | store | closeRx
  | closeTx | dequeueWon | release => simp

/-- A reservation call whose answers say only that the channel was closed with an
error. -/
structure RefusedWithError (call : Nat) (events : List (Event T E)) : Prop where
  reserved : ∀ idx, .reserved call idx ∉ events
  full : .full call ∉ events
  error : ∀ reason, .sendClosed call reason ∈ events → ∃ error, reason = some error

theorem RefusedWithError.append {call : Nat} {past : List (Event T E)}
    (before : RefusedWithError call past) (now : RefusedWithError call events) :
    RefusedWithError call (past ++ events) where
  reserved idx member := (List.mem_append.mp member).elim (before.reserved idx) (now.reserved idx)
  full member := (List.mem_append.mp member).elim before.full now.full
  error reason member :=
    (List.mem_append.mp member).elim (before.error reason) (now.error reason)

/-- In a channel that is closed with an error, a call that has not read an open
`enqueue_pos` is refused with the error. -/
theorem Elected.refuses {past : List (Event T E)} {winner call : Nat} {error : E}
    (elected : Elected past channel winner error) (isClosed : channel.ErrorClosed)
    (idle : ¬ TaskAt channel.tasks call Pc.Allocating)
    (transition : Transition width channel events next) : RefusedWithError call events := by
  obtain ⟨reserves, fills, reads⟩ := transition.reservation call
  refine ⟨fun idx now => idle (reserves idx now), fun now => idle (fills now), fun reason now => ?_⟩
  refine ⟨error, ?_⟩
  rw [reads reason now, Core.closeReason, if_pos isClosed.1]
  exact elected.published isClosed.1

end Returned

/-- Under late losers, a returned `close_with_error` leaves a closed channel. -/
theorem errorClosed_of_returned {history : List (Event T E)} {final : Channel T E}
    (run : Run (step width) LosesLate (Channel.new width capacity) history final)
    {i : Nat} {closed : Bool} (returned : .closeResult i closed ∈ history) :
    final.ErrorClosed := by
  have all : Run (step width) anyStep (Channel.new width capacity) history final ∧
      ∀ i closed, .closeResult i closed ∈ history → final.ErrorClosed := by
    refine run.invariant (fun history state =>
      Run (step width) anyStep (Channel.new width capacity) history state ∧
        ∀ i closed, .closeResult i closed ∈ history → state.ErrorClosed)
      ⟨.refl, by simp⟩ ?_
    intro past events state next action ⟨before, closedNow⟩ late stepTo
    refine ⟨.tail before trivial stepTo, fun i closed member => ?_⟩
    have transition := step_transition stepTo
    cases election_run before with
    | pending waiting unelected =>
        rcases unelected.transition transition waiting with
          ⟨_, still⟩ | ⟨_, unanswered, _⟩
        · exact absurd member (still.unanswered i closed)
        · exact absurd member (unanswered i closed)
    | decided erroring _ elected =>
        rcases List.mem_append.mp member with earlier | now
        · exact transition.errorClosed_kept erroring (closedNow i closed earlier)
        · exact elected.answered_errorClosed erroring stepTo late now
  exact all.2 i closed returned

/-- As long as no call loses before the channel is closed, every reservation
call that starts after some `close_with_error` has returned fails with the
error: it obtains no capacity, and is told neither `Full` nor
`Disconnected`. -/
theorem late_losers_close_for_senders {history later : List (Event T E)}
    {middle final : Channel T E}
    (before : Run (step width) LosesLate (Channel.new width capacity) history middle)
    {i : Nat} {closed : Bool} (returned : .closeResult i closed ∈ history)
    (after : Run (step width) LosesLate middle later final) (call : Nat)
    (starts : middle.tasks.length ≤ call) :
    (∀ idx, .reserved call idx ∉ later) ∧ .full call ∉ later ∧
      ∀ reason, .sendClosed call reason ∈ later → ∃ error, reason = some error := by
  have isClosed := errorClosed_of_returned before returned
  have inv : ClosingInv middle := closingInv_run closingInv_new before
  have unstarted : ¬ TaskAt middle.tasks call Pc.Allocating :=
    fun found => absurd found.lt_length (Nat.not_lt.mpr starts)
  have all : (Run (step width) anyStep (Channel.new width capacity)
        (history ++ later) final ∧ final.ErrorClosed ∧ ClosingInv final ∧
        ¬ TaskAt final.tasks call Pc.Allocating) ∧ RefusedWithError call later := by
    refine after.invariant (fun later state =>
      (Run (step width) anyStep (Channel.new width capacity) (history ++ later) state ∧
        state.ErrorClosed ∧ ClosingInv state ∧
        ¬ TaskAt state.tasks call Pc.Allocating) ∧ RefusedWithError call later)
      ⟨⟨by rw [List.append_nil]; exact before.any, isClosed, inv, unstarted⟩,
        by simp, by simp, by simp⟩ ?_
    intro past events state next action holds _ stepTo
    obtain ⟨⟨run, stays, stateInv, idle⟩, refused⟩ := holds
    have transition := step_transition stepTo
    cases election_run run with
    | pending waiting unelected =>
        exact absurd stays.1 (by rw [unelected.errored]; exact Bool.false_ne_true)
    | @decided winner error erroring _ elected =>
        refine ⟨⟨?_, transition.errorClosed_kept erroring stays,
          closingInv_transition stateInv transition,
          fun found => idle ((transition.frozen stateInv stays.2).allocating call found)⟩,
          refused.append (elected.refuses stays idle transition)⟩
        rw [← List.append_assoc]
        exact .tail run trivial stepTo
  exact ⟨all.2.reserved, all.2.full, all.2.error⟩

/-- A later reservation call, after a loser and the winner have returned. -/
theorem late_losers_close_for_senders_race :
    ∃ (middle final : Channel Nat Nat) (later : List (Event Nat Nat)),
      .sendClosed 2 (some 5) ∈ later ∧ .full 2 ∉ later ∧
      Run (step .bits64) LosesLate middle later final := by
  obtain ⟨history, middle, before, seen⟩ :=
    exists_run_of_exec (step .bits64) LosesLate (Channel.new .bits64 1 : Channel Nat Nat)
      [.closeWithError none 5, .closeWithError (some 0) 6, .run 0, .run 0, .run 0, .run 0,
        .run 1, .run 0, .run 0, .run 0]
      (fun reached => (reached.2, reached.1.tasks.length,
        (exec (step .bits64) LosesLate reached.1
          [.reserve 0 false, .run 2, .run 2]).map Prod.snd))
      (show _ = some ([.closeResult 1 false, .closeProd, .closeCons, .closeResult 0 true],
        2, some [.sendClosed 2 (some 5)]) by decide)
  obtain ⟨rfl, length, executed⟩ : history = _ ∧ _ ∧ _ := by
    simpa only [Prod.mk.injEq] using seen
  obtain ⟨⟨final, later⟩, ran, rfl⟩ := Option.map_eq_some_iff.mp executed
  have after := run_of_exec ran
  have lost : .closeResult 1 false ∈ ([.closeResult 1 false, .closeProd, .closeCons,
      .closeResult 0 true] : List (Event Nat Nat)) := by simp
  have closes := late_losers_close_for_senders before lost after 2 (by omega)
  exact ⟨middle, final, _, by simp, closes.2.1, after⟩

/-- A loser returns while the winner has only set `ERRORING`; a reservation
call that starts after it has returned obtains capacity. -/
theorem early_loser_leaves_channel_open :
    ¬ ∀ (width : PointerWidth) (capacity : Nat) (history later : List (Event Nat Nat))
      (middle final : Channel Nat Nat) (i : Nat) (closed : Bool) (call : Nat),
      Run (step width) anyStep (Channel.new width capacity) history middle →
      .closeResult i closed ∈ history →
      Run (step width) anyStep middle later final →
      middle.tasks.length ≤ call →
      (∀ idx, .reserved call idx ∉ later) ∧ .full call ∉ later ∧
        ∀ reason, .sendClosed call reason ∈ later → ∃ error, reason = some error := by
  intro claimed
  obtain ⟨history, middle, before, seen⟩ :=
    exists_run_of_exec (step .bits64) anyStep (Channel.new .bits64 1 : Channel Nat Nat)
      [.closeWithError none 5, .closeWithError (some 0) 6, .run 0, .run 1]
      (fun reached => (reached.2, reached.1.tasks.length,
        (exec (step .bits64) anyStep reached.1
          [.reserve 0 false, .run 2, .allocate 2 0]).map Prod.snd))
      (show _ = some ([.closeResult 1 false], 2, some [.reserved 2 0]) by decide)
  obtain ⟨rfl, length, executed⟩ : history = _ ∧ _ ∧ _ := by
    simpa only [Prod.mk.injEq] using seen
  obtain ⟨later, final, after, rfl⟩ := exists_run_of_exec _ _ _ _ _ executed
  exact (claimed .bits64 1 _ _ middle final 1 false 2 before (by simp) after
    (by omega)).1 0 (by simp)

end ChannelCore

end Mgnp
