import Mgnp.ChannelCore

/-!
# What one step of a channel can do

`step` decides by the program counter of the task that moves.  This file
classifies its outcomes once.  Most steps only read shared words and move a
task or the receiver; each step that writes a shared word is a transition of
its own.  The invariants of the channel are proved over this classification
and never unfold `step`.
-/

namespace Mgnp

namespace ChannelCore

open PositionWord

variable {T E : Type*} {width : PointerWidth}

/-- Moves of task `i` that write no shared word, with the reads and tests that
allow them. -/
inductive LocalMove (width : PointerWidth) (core : Core E) (i : Nat) :
    Pc E → Pc E → List (Event T E) → Prop
  | sawClosed {blocking} (isClosed : core.enqueuePos &&& closed = closed) :
      LocalMove width core i (.reserving blocking) .reserveClosed []
  | sawOpen {blocking} (isOpen : core.enqueuePos &&& closed ≠ closed) :
      LocalMove width core i (.reserving blocking) (.allocating blocking) []
  | reserveError :
      LocalMove width core i .reserveClosed .finished
        [.sendClosed i core.closeReason]
  | park : LocalMove width core i (.allocating true) .waiting []
  | full : LocalMove width core i (.allocating false) .finished [.full i]
  | waitClosed (isClosed : core.prodWaitClosed = true) :
      LocalMove width core i .waiting .reserveClosed []
  | woken : LocalMove width core i .waiting (.reserving true) []
  | commitCall {idx} : LocalMove width core i (.permit idx) (.committing idx) []
  | loadTail {idx} :
      LocalMove width core i (.committing idx) (.examining idx core.enqueuePos) []
  | commitSawClosed {idx tail} (isClosed : tail &&& closed = closed) :
      LocalMove width core i (.examining idx tail) (.commitClosed idx) []
  | panic {idx tail} (isOpen : tail &&& closed ≠ closed)
      (behind : core.commitOrder width tail = .lt) :
      LocalMove width core i (.examining idx tail) (.retired idx) [.panicked i]
  | claim {idx tail} (isOpen : tail &&& closed ≠ closed)
      (vacant : core.commitOrder width tail = .eq) :
      LocalMove width core i (.examining idx tail) (.claiming idx tail) []
  | reloadTail {idx tail} (isOpen : tail &&& closed ≠ closed)
      (ahead : core.commitOrder width tail = .gt) :
      LocalMove width core i (.examining idx tail) (.committing idx) []
  | claimFailed {idx tail} :
      LocalMove width core i (.claiming idx tail)
        (.examining idx core.enqueuePos) []
  | commitError {idx} :
      LocalMove width core i (.commitClosed idx) (.retired idx)
        [.sendClosed i core.closeReason]
  | wakeReceiver :
      LocalMove width core i .waking .finished [.wakeCons, .sendOk i]
  | dropPermit {idx} :
      LocalMove width core i (.permit idx) (.freeing false idx) []
  | dropReceived {idx} :
      LocalMove width core i (.received idx) (.freeing true idx) []
  | wakeSender : LocalMove width core i .freed .finished [.wakeProd]
  | closeConsWait {byError} :
      LocalMove width core i (.closingConsWait byError) .finished
        (.closeCons :: if byError then [.closeResult i true] else [])
  | acquireLast :
      LocalMove width core i .lastTxDropped (.closingTx false) []

/-- Moves of task `i` that write only `state`, `error` or the wait queue. -/
inductive StateMove (core : Core E) (i : Nat) :
    Pc E → Pc E → Core E → List (Event T E) → Prop
  | loseError {error} (late : (core.state.erroring || core.state.errored) = true) :
      StateMove core i (.erroring error) .finished
        { core with state := { core.state with erroring := true } }
        [.closeResult i false]
  | winError {error}
      (first : (core.state.erroring || core.state.errored) = false) :
      StateMove core i (.erroring error) (.writingError error)
        { core with state := { core.state with erroring := true } } []
  | writeError {error} :
      StateMove core i (.writingError error) .settingErrored
        { core with error := some error } []
  | setErrored :
      StateMove core i .settingErrored (.closingRx true)
        { core with state := { core.state with errored := true } } []
  | closeProdWait {thenTx : Bool} :
      StateMove core i (.closingProdWait thenTx)
        (if thenTx then .closingTx true else .finished)
        { core with prodWaitClosed := true } [.closeProd]
  | dropTx :
      StateMove core i .droppingTx
        (if core.state.txCnt = 1 then .lastTxDropped else .finished)
        { core with
          state := { core.state with txCnt := core.state.txCnt - 1 } } []

/-- Moves of the receiver that write no shared word. -/
inductive RxMove (width : PointerWidth) (core : Core E) :
    RxPc → RxPc → List (Event T E) → Prop
  | call : RxMove width core .idle .loading []
  | loadHead : RxMove width core .loading (.examining core.dequeuePos) []
  | sawClosed {head} (behind : core.dequeueOrder width head = .lt)
      (isClosed : head &&& closed ≠ 0) :
      RxMove width core (.examining head) .closing []
  | sawEmpty {head} (behind : core.dequeueOrder width head = .lt)
      (isOpen : head &&& closed = 0) :
      RxMove width core (.examining head) .idle [.empty]
  | claim {head} (ready : core.dequeueOrder width head = .eq) :
      RxMove width core (.examining head)
        (.claiming head (core.queue (slotOf width (head >>> posShift width)))) []
  | reloadHead {head} (ahead : core.dequeueOrder width head = .gt) :
      RxMove width core (.examining head) .loading []
  | claimFailed {head val} :
      RxMove width core (.claiming head val) (.examining core.dequeuePos) []
  | answerClosed :
      RxMove width core .closing .idle [.recvClosed core.closeReason]

/-- The start of a call: the handle it borrows and its first step. -/
inductive Call (channel : Channel T E) : Task E → Prop
  | reserve {handle} (blocking : Bool) (live : handle ∈ channel.handles) :
      Call channel ⟨some handle, .reserving blocking⟩
  | closeByTx {handle} (error : E) (live : handle ∈ channel.handles) :
      Call channel ⟨some handle, .erroring error⟩
  | closeByRx (error : E) (live : channel.rx ≠ .dropped) :
      Call channel ⟨none, .erroring error⟩

/-- The outcomes of one step. -/
inductive Transition (width : PointerWidth) (channel : Channel T E) :
    List (Event T E) → Channel T E → Prop
  | call {task} (called : Call channel task) :
      Transition width channel [] (channel.spawn task)
  | cloneTx {handle copy} (live : handle ∈ channel.handles)
      (fresh : copy ∉ channel.handles) :
      Transition width channel []
        { channel with
          core := { channel.core with
            state := { channel.core.state with
              txCnt := channel.core.state.txCnt + 1 } }
          handles := channel.handles ++ [copy] }
  | dropTx {handle} (live : handle ∈ channel.handles)
      (unborrowed : ∀ task ∈ channel.tasks, task.borrows ≠ some handle) :
      Transition width channel []
        { channel.spawn ⟨none, .droppingTx⟩ with
          handles := channel.handles.erase handle }
  | dropRx (idle : channel.rx = .idle)
      (unborrowed : ∀ task ∈ channel.tasks, task.pc.borrowsRx = false) :
      Transition width channel []
        { channel.spawn ⟨none, .closingRx false⟩ with rx := .dropped }
  | taskLocal {i handle pc next events} (at_pc : channel.tasks[i]? = some ⟨handle, pc⟩)
      (move : LocalMove width channel.core i pc next events) :
      Transition width channel events (channel.goto i handle next)
  | taskState {i handle pc next core events}
      (at_pc : channel.tasks[i]? = some ⟨handle, pc⟩)
      (move : StateMove channel.core i pc next core events) :
      Transition width channel events { channel.goto i handle next with core := core }
  | allocate {i handle blocking idx}
      (at_pc : channel.tasks[i]? = some ⟨handle, .allocating blocking⟩)
      (free : idx ∈ channel.core.indices) :
      Transition width channel [.reserved i idx]
        { channel.goto i handle (.permit idx) with
          core := { channel.core with indices := channel.core.indices.erase idx } }
  | free {i handle fromReceiver idx}
      (at_pc : channel.tasks[i]? = some ⟨handle, .freeing fromReceiver idx⟩) :
      Transition width channel []
        { channel.goto i handle .freed with
          core := { channel.core with indices := idx :: channel.core.indices } }
  | write {i : Nat} {handle idx} (value : T)
      (at_pc : channel.tasks[i]? = some ⟨handle, .permit idx⟩) :
      Transition width channel []
        { channel with
          elements := Function.update channel.elements idx (some value) }
  | commitWon {i handle idx tail}
      (at_pc : channel.tasks[i]? = some ⟨handle, .claiming idx tail⟩)
      (current : channel.core.enqueuePos = tail) :
      Transition width channel [.committed i idx (channel.elements idx)]
        { channel.goto i handle (.storing idx (tail >>> posShift width)) with
          core := { channel.core with enqueuePos := tail + posOne width } }
  | store {i handle idx pos}
      (at_pc : channel.tasks[i]? = some ⟨handle, .storing idx pos⟩) :
      Transition width channel [.stored i]
        { channel.goto i handle .waking with
          core := { channel.core with
            queue := Function.update channel.core.queue (slotOf width pos)
              (UInt16.ofNat idx ||| (pos + 1) <<< posShift width) } }
  | closeRx {i handle thenTx}
      (at_pc : channel.tasks[i]? = some ⟨handle, .closingRx thenTx⟩) :
      Transition width channel []
        { channel.goto i handle (.closingProdWait thenTx) with
          core := { channel.core with
            enqueuePos := channel.core.enqueuePos ||| closed } }
  | closeTx {i handle byError}
      (at_pc : channel.tasks[i]? = some ⟨handle, .closingTx byError⟩) :
      Transition width channel []
        { channel.goto i handle (.closingConsWait byError) with
          core := { channel.core with
            dequeuePos := channel.core.dequeuePos ||| closed } }
  | rxLocal {rx next events} (at_rx : channel.rx = rx)
      (move : RxMove width channel.core rx next events) :
      Transition width channel events { channel with rx := next }
  | dequeueWon {head val} (at_rx : channel.rx = .claiming head val)
      (current : channel.core.dequeuePos = head) :
      Transition width channel []
        { channel with
          core := { channel.core with dequeuePos := head + posOne width }
          rx := .releasing head val }
  | release {head val} (at_rx : channel.rx = .releasing head val) :
      Transition width channel
        [.received (val &&& mask width).toNat
          (channel.elements (val &&& mask width).toNat)]
        { channel.spawn ⟨none, .received (val &&& mask width).toNat⟩ with
          core := { channel.core with
            queue := Function.update channel.core.queue
              (slotOf width (head >>> posShift width)) (val + lapOne width) }
          rx := .idle }

/-- A move that writes `state`, `error` or the wait queue leaves the queue
itself alone. -/
theorem StateMove.queue_unchanged {core next : Core E} {i : Nat} {pc pc' : Pc E}
    {events : List (Event T E)} (move : StateMove core i pc pc' next events) :
    next.dequeuePos = core.dequeuePos ∧ next.enqueuePos = core.enqueuePos ∧
      next.indices = core.indices ∧ next.queue = core.queue := by
  cases move <;> simp

theorem runTask_transition {channel next : Channel T E} {i : Nat}
    {task : Task E} {events : List (Event T E)}
    (at_pc : channel.tasks[i]? = some task)
    (ran : runTask width channel i task = some (next, events)) :
    Transition width channel events next := by
  obtain ⟨handle, pc⟩ := task
  cases pc
  case reserving blocking =>
    simp only [runTask] at ran
    split at ran
    · rename_i isClosed
      cases ran
      exact .taskLocal at_pc (.sawClosed isClosed)
    · rename_i isOpen
      cases ran
      exact .taskLocal at_pc (.sawOpen isOpen)
  case reserveClosed =>
    cases ran
    exact .taskLocal at_pc .reserveError
  case allocating blocking =>
    simp only [runTask] at ran
    cases blocking <;> split at ran <;> cases ran
    · exact .taskLocal at_pc .full
    · exact .taskLocal at_pc .park
  case waiting =>
    simp only [runTask] at ran
    split at ran <;> cases ran
    rename_i isClosed
    exact .taskLocal at_pc (.waitClosed isClosed)
  case committing idx =>
    cases ran
    exact .taskLocal at_pc .loadTail
  case examining idx tail =>
    simp only [runTask] at ran
    split at ran
    · rename_i isClosed
      cases ran
      exact .taskLocal at_pc (.commitSawClosed isClosed)
    · rename_i isOpen
      split at ran <;> rename_i order <;> cases ran
      · exact .taskLocal at_pc (.panic isOpen order)
      · exact .taskLocal at_pc (.claim isOpen order)
      · exact .taskLocal at_pc (.reloadTail isOpen order)
  case claiming idx tail =>
    simp only [runTask] at ran
    split at ran <;> cases ran
    · rename_i current
      exact .commitWon at_pc current
    · exact .taskLocal at_pc .claimFailed
  case commitClosed idx =>
    cases ran
    exact .taskLocal at_pc .commitError
  case storing idx pos =>
    cases ran
    exact .store at_pc
  case waking =>
    cases ran
    exact .taskLocal at_pc .wakeReceiver
  case freeing fromReceiver idx =>
    cases ran
    exact .free at_pc
  case freed =>
    cases ran
    exact .taskLocal at_pc .wakeSender
  case erroring error =>
    simp only [runTask] at ran
    split at ran <;> rename_i decided <;> cases ran
    · exact .taskState at_pc (.loseError decided)
    · exact .taskState at_pc (.winError (by simpa using decided))
  case writingError error =>
    cases ran
    exact .taskState at_pc .writeError
  case settingErrored =>
    cases ran
    exact .taskState at_pc .setErrored
  case closingRx thenTx =>
    cases ran
    exact .closeRx at_pc
  case closingProdWait thenTx =>
    cases ran
    exact .taskState at_pc .closeProdWait
  case closingTx byError =>
    cases ran
    exact .closeTx at_pc
  case closingConsWait byError =>
    cases ran
    exact .taskLocal at_pc .closeConsWait
  case droppingTx =>
    cases ran
    exact .taskState at_pc .dropTx
  case lastTxDropped =>
    cases ran
    exact .taskLocal at_pc .acquireLast
  case permit | received | retired | finished => cases ran

theorem runRx_transition {channel next : Channel T E}
    {events : List (Event T E)}
    (ran : runRx width channel = some (next, events)) :
    Transition width channel events next := by
  cases at_rx : channel.rx <;> simp only [runRx, at_rx] at ran
  case loading =>
    cases ran
    exact .rxLocal at_rx .loadHead
  case examining head =>
    split at ran
    · rename_i behind
      split at ran <;> rename_i decided <;> cases ran
      · exact .rxLocal at_rx (.sawClosed behind decided)
      · exact .rxLocal at_rx (.sawEmpty behind (by simpa using decided))
    · rename_i ready
      cases ran
      exact .rxLocal at_rx (.claim ready)
    · rename_i ahead
      cases ran
      exact .rxLocal at_rx (.reloadHead ahead)
  case claiming head val =>
    split at ran <;> cases ran
    · rename_i current
      exact .dequeueWon at_rx current
    · exact .rxLocal at_rx .claimFailed
  case releasing head val =>
    cases ran
    exact .release at_rx
  case closing =>
    cases ran
    exact .rxLocal at_rx .answerClosed
  case idle | dropped => cases ran

/-- Every step of the channel is one of the classified transitions. -/
theorem step_transition {channel next : Channel T E} {action : Action T E}
    {events : List (Event T E)}
    (stepTo : step width channel action = some (next, events)) :
    Transition width channel events next := by
  cases action <;> simp only [step] at stepTo
  case reserve handle blocking =>
    split at stepTo <;> cases stepTo
    rename_i live
    exact .call (.reserve blocking live)
  case closeWithError handle error =>
    cases handle <;> simp only at stepTo <;> split at stepTo <;> cases stepTo <;>
      rename_i live
    · exact .call (.closeByRx error live)
    · exact .call (.closeByTx error live)
  case cloneTx handle copy =>
    split at stepTo <;> cases stepTo
    rename_i live
    exact .cloneTx live.1 live.2
  case dropTx handle =>
    split at stepTo <;> cases stepTo
    rename_i live
    exact .dropTx live.1 live.2
  case dropRx =>
    split at stepTo
    · rename_i idle
      split at stepTo <;> cases stepTo
      rename_i unborrowed
      exact .dropRx idle unborrowed
    · cases stepTo
  case tryRecv =>
    split at stepTo <;> cases stepTo
    rename_i idle
    exact .rxLocal idle .call
  case run i =>
    split at stepTo
    · rename_i at_pc
      exact runTask_transition at_pc stepTo
    · cases stepTo
  case allocate i idx =>
    split at stepTo
    · rename_i at_pc
      split at stepTo <;> cases stepTo
      rename_i free
      exact .allocate at_pc free
    · cases stepTo
  case spurious i =>
    split at stepTo <;> cases stepTo
    rename_i at_pc
    exact .taskLocal at_pc .claimFailed
  case woken i =>
    split at stepTo <;> cases stepTo
    rename_i at_pc
    exact .taskLocal at_pc .woken
  case write i value =>
    split at stepTo <;> cases stepTo
    rename_i at_pc
    exact .write value at_pc
  case commit i =>
    split at stepTo <;> cases stepTo
    rename_i at_pc
    exact .taskLocal at_pc .commitCall
  case release i =>
    split at stepTo <;> cases stepTo
    · rename_i at_pc
      exact .taskLocal at_pc .dropPermit
    · rename_i at_pc
      exact .taskLocal at_pc .dropReceived
  case runRx => exact runRx_transition stepTo
  case spuriousRx =>
    split at stepTo <;> cases stepTo
    rename_i at_rx
    exact .rxLocal at_rx .claimFailed

section Answers

variable {channel next : Channel T E} {events : List (Event T E)}

/-- The task whose own step reports an event, for the events that no choice of
the environment reports. -/
def Event.ranBy : Event T E → Option Nat
  | .full i | .sendClosed i _ | .committed i _ _ | .stored i | .sendOk i | .panicked i
  | .closeResult i _ => some i
  | _ => none

theorem runTask_ranBy {i k : Nat} {task : Task E}
    (ran : runTask width channel i task = some (next, events)) :
    ∀ event ∈ events, event.ranBy = some k → i = k := by
  obtain ⟨handle, pc⟩ := task
  cases pc <;> simp only [runTask] at ran
  all_goals
    repeat' split at ran
    all_goals cases ran <;> simp [Event.ranBy]

theorem runRx_ranBy (ran : runRx width channel = some (next, events)) :
    ∀ event ∈ events, event.ranBy = none := by
  cases at_rx : channel.rx <;> simp only [runRx, at_rx] at ran
  all_goals
    repeat' split at ran
    all_goals cases ran <;> simp [Event.ranBy]

/-- Such an event is reported when its task is chosen to run. -/
theorem run_of_ranBy {action : Action T E}
    (stepTo : step width channel action = some (next, events)) {event : Event T E}
    (member : event ∈ events) {k : Nat} (byTask : event.ranBy = some k) :
    action = .run k := by
  cases action with
  | run i =>
      simp only [step] at stepTo
      split at stepTo
      · rw [runTask_ranBy stepTo event member byTask]
      · cases stepTo
  | runRx =>
      rw [runRx_ranBy stepTo event member] at byTask
      cases byTask
  | _ =>
      simp only [step] at stepTo
      repeat' split at stepTo
      all_goals cases stepTo
      all_goals simp at member
      all_goals
        subst member
        cases byTask

/-- A message is received when the receiver hands its slot on. -/
theorem releasing_of_received {action : Action T E}
    (stepTo : step width channel action = some (next, events)) {idx : Nat}
    {message : Option T} (received : .received idx message ∈ events) :
    action = .runRx ∧ ∃ head val, channel.rx = .releasing head val := by
  cases action with
  | run i =>
      simp only [step] at stepTo
      split at stepTo
      · rename_i task _
        obtain ⟨handle, pc⟩ := task
        cases pc <;> simp only [runTask] at stepTo
        all_goals
          repeat' split at stepTo
          all_goals cases stepTo <;> simp at received
      · cases stepTo
  | runRx =>
      refine ⟨rfl, ?_⟩
      cases at_rx : channel.rx with
      | releasing head val => exact ⟨head, val, rfl⟩
      | _ =>
          simp only [step, runRx, at_rx] at stepTo
          repeat' split at stepTo
          all_goals cases stepTo <;> simp at received
  | _ =>
      simp only [step] at stepTo
      repeat' split at stepTo
      all_goals cases stepTo
      all_goals simp at received

end Answers

end ChannelCore

end Mgnp
