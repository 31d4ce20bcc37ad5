import Mgnp.ChannelQueueing

/-!
# Whether senders are served in the order of the queue

An index goes to whoever allocates it first.  So a call that waits in `prod_wait` loses
the index that was freed for it to a call that has not waited, or to one that was woken
later, and when it is woken and finds no index it goes back to the end of the queue.  In
runs without these steps nobody is served before a call that waited when theirs was made.
-/

namespace Mgnp

namespace ChannelCore

open LabelledRuns PositionWord

variable {T E Queue : Type*} {width : PointerWidth} {capacity : Nat}
  {ops : WaitQueue Queue Nat}

/-- The call that an event answers. -/
def Event.answers : Event T E → Option Nat
  | .reserved i _ | .sendClosed i _ => some i
  | _ => none

/-- The call is in the loop of `reserve`, and has not been answered. -/
def Pc.asks : Pc E → Bool
  | .reserving _ | .allocating _ | .waiting => true
  | _ => false

theorem Pc.asks_of_waits {pc : Pc E} (waits : pc.waits = true) : pc.asks = true := by
  cases pc with
  | waiting => rfl
  | _ => cases waits

section Steps

variable {channel next : Channel T E} {events : List (Event T E)} {i : Nat}

theorem LocalMove.asks {core : Core E} {pc pc' : Pc E}
    (move : LocalMove width core i pc pc' events) (asks : pc'.asks = true) :
    pc.asks = true ∧ ∀ event ∈ events, event.answers = none := by
  cases move with
  | sawOpen | park | woken => exact ⟨rfl, by simp⟩
  | _ => cases asks

theorem StateMove.not_asks {core core' : Core E} {pc pc' : Pc E}
    (move : StateMove core i pc pc' core' events) : pc'.asks = false := by
  cases move with
  | @closeProdWait thenTx => cases thenTx <;> rfl
  | dropTx => split_ifs <;> rfl
  | _ => rfl

theorem asks_of_set {tasks : List (Task E)} {k : Nat} {old new : Task E}
    (at_k : tasks[k]? = some old) (kept : new.pc.asks = true → old.pc.asks = true)
    (asks : TaskAt (tasks.set k new) i fun pc => pc.asks = true) :
    TaskAt tasks i fun pc => pc.asks = true := by
  by_cases had : old.pc.asks = true
  · exact asks.of_set_kept at_k had
  · exact asks.of_set fun isNew => had (kept isNew)

/-- No step takes a call back into the loop. -/
theorem Transition.asks (transition : Transition width channel events next)
    (made : i < channel.tasks.length)
    (asks : TaskAt next.tasks i fun pc => pc.asks = true) :
    TaskAt channel.tasks i fun pc => pc.asks = true := by
  have old {task : Task E} (asks : TaskAt (channel.tasks ++ [task]) i fun pc => pc.asks = true) :
      TaskAt channel.tasks i fun pc => pc.asks = true := by
    rcases taskAt_append.mp asks with before | ⟨isNew, -⟩
    · exact before
    · omega
  cases transition with
  | call | dropTx | dropRx | release => exact old asks
  | cloneTx | write | rxLocal | dequeueWon => exact asks
  | taskLocal at_pc move => exact asks_of_set at_pc (fun isNew => (move.asks isNew).1) asks
  | taskState at_pc move =>
      exact asks_of_set at_pc (fun isNew => by cases move.not_asks.symm.trans isNew) asks
  | allocate at_pc | free at_pc | commitWon at_pc | store at_pc | closeRx at_pc
  | closeTx at_pc => exact asks_of_set at_pc (fun isNew => by cases isNew) asks

theorem LocalMove.answers {core : Core E} {pc pc' : Pc E}
    (move : LocalMove width core i pc pc' events) :
    ∀ event ∈ events, ∀ k, event.answers = some k → k = i ∧ pc.waits = false := by
  cases move with
  | @closeConsWait byError => cases byError <;> simp [Event.answers]
  | _ => simp [Event.answers, Pc.waits]

/-- A call that is answered does not wait. -/
theorem Transition.answers (transition : Transition width channel events next)
    {event : Event T E} (member : event ∈ events) (answered : event.answers = some i) :
    ¬ TaskAt channel.tasks i fun pc => pc.waits = true := by
  intro waits
  cases transition with
  | taskLocal at_pc move =>
      obtain ⟨rfl, awake⟩ := move.answers event member i answered
      rw [taskAt_iff_of_pc at_pc, awake] at waits
      cases waits
  | taskState _ move =>
      cases move <;> simp at member <;> subst member <;> cases answered
  | rxLocal _ move =>
      cases move <;> simp at member <;> subst member <;> cases answered
  | allocate at_pc =>
      simp only [List.mem_singleton] at member
      subst member
      cases answered
      cases (taskAt_iff_of_pc at_pc).mp waits
  | commitWon | store | release =>
      simp only [List.mem_singleton] at member
      subst member
      cases answered
  | _ => simp at member

/-- A call that is answered leaves the loop. -/
theorem Transition.answered (transition : Transition width channel events next)
    {event : Event T E} (member : event ∈ events) (answered : event.answers = some i) :
    ¬ TaskAt next.tasks i fun pc => pc.asks = true := by
  intro asks
  cases transition with
  | taskLocal at_pc move =>
      obtain ⟨rfl, -⟩ := move.answers event member i answered
      cases ((move.asks ((taskAt_set_self at_pc).mp asks)).2 event member).symm.trans answered
  | taskState _ move =>
      cases move <;> simp at member <;> subst member <;> cases answered
  | rxLocal _ move =>
      cases move <;> simp at member <;> subst member <;> cases answered
  | allocate at_pc =>
      simp only [List.mem_singleton] at member
      subst member
      cases answered
      cases (taskAt_set_self at_pc).mp asks
  | commitWon | store | release =>
      simp only [List.mem_singleton] at member
      subst member
      cases answered
  | _ => simp at member

theorem runTask_not_reserved {task : Task E} {k idx : Nat}
    (ran : runTask width channel i task = some (next, events)) :
    .reserved k idx ∉ events := by
  obtain ⟨handle, pc⟩ := task
  cases pc <;> simp only [runTask] at ran
  all_goals
    repeat' split at ran
    all_goals cases ran
    all_goals simp

/-- An index is reserved when the allocator answers. -/
theorem allocate_of_reserved {action : Action T E} {idx : Nat}
    (stepTo : step width channel action = some (next, events))
    (reserved : .reserved i idx ∈ events) :
    action = .allocate i idx ∧ events = [.reserved i idx] := by
  cases action with
  | run k =>
      simp only [step] at stepTo
      split at stepTo
      · exact absurd reserved (runTask_not_reserved stepTo)
      · cases stepTo
  | runRx =>
      simp only [step, runRx] at stepTo
      repeat' split at stepTo
      all_goals cases stepTo
      all_goals simp at reserved
  | _ =>
      simp only [step] at stepTo
      repeat' split at stepTo
      all_goals cases stepTo
      all_goals simp at reserved
      all_goals simp [reserved]

theorem step_length_le {action : Action T E}
    (stepTo : step width channel action = some (next, events)) :
    channel.tasks.length ≤ next.tasks.length := by
  cases step_transition stepTo <;> simp [Channel.spawn, Channel.goto]

end Steps

namespace Senders

variable {senders next : Senders T E Queue} {events history : List (Event T E)}

/-- The calls that were woken and have not been answered since, in the order in which
they were woken.  The queue is first-in first-out, so that is the order of the line. -/
def looking (ops : WaitQueue Queue Nat) (senders : Senders T E Queue) : List Nat :=
  senders.line.filter fun i => decide (i ∉ senders.waiters ops)

/-- The step does not let a call take an index that was freed for another. -/
def TakesTurns (ops : WaitQueue Queue Nat) (senders : Senders T E Queue) :
    SendersAction T E → Prop
  | .base (.allocate i _) =>
      -- The first of the woken calls takes the index, or anyone while nobody waits.
      match senders.looking ops with
      | first :: _ => i = first
      | [] => senders.waiters ops = []
  | .await i =>
      -- A woken call that found no index goes back only when nobody is behind it.
      ((ops.view senders.queue).stored || (ops.view senders.queue).closed) = false →
        i ∈ senders.looking ops → senders.line.getLast? = some i
  | _ => True

instance (ops : WaitQueue Queue Nat) (senders : Senders T E Queue)
    (action : SendersAction T E) : Decidable (senders.TakesTurns ops action) :=
  match action with
  | .base (.allocate i _) =>
      match found : senders.looking ops with
      | first :: _ =>
          decidable_of_iff (i = first) (by simp only [TakesTurns, found])
      | [] =>
          decidable_of_iff (senders.waiters ops = []) (by simp only [TakesTurns, found])
  | .await _ => inferInstanceAs (Decidable (_ = _ → _ ∈ _ → _ = _))
  | .base (.reserve _ _) | .base (.closeWithError _ _) | .base (.cloneTx _ _)
  | .base (.dropTx _) | .base .dropRx | .base .tryRecv | .base (.run _) | .base (.spurious _)
  | .base (.woken _) | .base (.write _ _) | .base (.commit _) | .base (.release _)
  | .base .runRx | .base .spuriousRx | .resume _ => isTrue trivial

/-- Call `x` is before call `y` in the line. -/
def Before (senders : Senders T E Queue) (x y : Nat) : Prop :=
  [x, y].Sublist senders.line

/-- The calls in the queue are the last ones in the line, and whoever waited when
a call was made is before it. -/
structure InLine (ops : WaitQueue Queue Nat) (senders : Senders T E Queue) : Prop where
  nodup : senders.line.Nodup
  suffix : senders.waiters ops <:+ senders.line
  made : ∀ i ∈ senders.line, i < senders.channel.tasks.length
  older : ∀ y, ∀ x ∈ senders.ahead y, x < y
  ordered : ∀ y ∈ senders.line, ∀ x ∈ senders.ahead y, x ∈ senders.line → senders.Before x y

theorem inLine_new (lawful : ops.Lawful) :
    InLine ops (Senders.new ops width capacity : Senders T E Queue) := by
  have nobody : (Senders.new ops width capacity : Senders T E Queue).waiters ops = [] := by
    simp only [waiters, Senders.new, lawful.new]
    rfl
  refine ⟨.nil, ?_, ?_, ?_, ?_⟩
  · rw [nobody]
    exact List.nil_suffix
  all_goals simp [Senders.new]

theorem suffix_erase {waiters line : List Nat} {i : Nat} (suffix : waiters <:+ line)
    (absent : i ∉ waiters) : waiters <:+ line.erase i := by
  obtain ⟨turn, rfl⟩ := suffix
  by_cases member : i ∈ turn
  · rw [List.erase_append_left _ member]
    exact List.suffix_append _ _
  · rw [List.erase_append_right _ member, List.erase_of_not_mem absent]
    exact List.suffix_append _ _

/-- A call leaves the line. -/
theorem InLine.erase (inLine : InLine ops senders) {i : Nat}
    (absent : i ∉ senders.waiters ops) :
    InLine ops { senders with line := senders.line.erase i } where
  nodup := inLine.nodup.erase i
  suffix := suffix_erase inLine.suffix absent
  made k member := inLine.made k (List.mem_of_mem_erase member)
  older := inLine.older
  ordered y member x waited xMember := by
    have before := inLine.ordered y (List.mem_of_mem_erase member) x waited
      (List.mem_of_mem_erase xMember)
    have others : i ∉ [x, y] := by
      simp only [List.mem_cons, List.not_mem_nil, or_false, not_or]
      constructor
      · rintro rfl
        exact inLine.nodup.not_mem_erase xMember
      · rintro rfl
        exact inLine.nodup.not_mem_erase member
    have erased := List.Sublist.erase i before
    rwa [List.erase_of_not_mem others] at erased

/-- An event of the channel can only take the first waiters out of the queue. -/
theorem hear_waiters (lawful : ops.Lawful) (event : Event T E) :
    (senders.hear ops event).waiters ops <:+ senders.waiters ops := by
  cases event with
  | wakeProd =>
      simp only [waiters, Senders.hear, lawful.view_wake]
      cases woke : (ops.view senders.queue).wake.2 with
      | some key =>
          rw [(QueueView.wake_some woke).1]
          exact List.suffix_cons _ _
      | none =>
          rw [(QueueView.wake_none woke).2.1]
          exact List.nil_suffix
  | closeProd =>
      simp only [waiters, Senders.hear, lawful.close]
      exact List.nil_suffix
  | _ => exact List.suffix_refl _

/-- An event of the channel keeps the calls in line. -/
theorem InLine.hear (lawful : ops.Lawful) (inLine : InLine ops senders) {event : Event T E}
    (answered : ∀ i, event.answers = some i → i ∉ senders.waiters ops) :
    InLine ops (senders.hear ops event) := by
  cases event with
  | wakeProd | closeProd =>
      exact ⟨inLine.nodup, (hear_waiters lawful _).trans inLine.suffix, inLine.made,
        inLine.older, inLine.ordered⟩
  | reserved i idx => exact inLine.erase (answered i rfl)
  | sendClosed i reason => exact inLine.erase (answered i rfl)
  | _ => exact inLine

theorem InLine.hear_all (lawful : ops.Lawful) (inLine : InLine ops senders)
    (answered : ∀ event ∈ events, ∀ i, event.answers = some i → i ∉ senders.waiters ops) :
    InLine ops (events.foldl (Senders.hear ops) senders) := by
  induction events generalizing senders with
  | nil => exact inLine
  | cons event later ih =>
      obtain ⟨now, rest⟩ := List.forall_mem_cons.mp answered
      rw [List.foldl_cons]
      refine ih (inLine.hear lawful now) fun after member i found waiting => ?_
      exact rest after member i found ((hear_waiters lawful event).subset waiting)

/-- A call leaves the line when it is answered. -/
theorem hear_line (ops : WaitQueue Queue Nat) {events : List (Event T E)} {x : Nat}
    (member : x ∈ senders.line) :
    x ∈ (events.foldl (hear ops) senders).line ∨ ∃ event ∈ events, event.answers = some x := by
  induction events generalizing senders with
  | nil => exact .inl member
  | cons event later ih =>
      rw [List.foldl_cons]
      by_cases answered : event.answers = some x
      · exact .inr ⟨event, List.mem_cons_self, answered⟩
      · have stays : x ∈ (senders.hear ops event).line := by
          cases event with
          | reserved i idx | sendClosed i reason =>
              refine (List.mem_erase_of_ne ?_).mpr member
              rintro rfl
              exact answered rfl
          | _ => exact member
        refine (ih stays).imp_right fun ⟨found, later, answers⟩ => ?_
        exact ⟨found, List.mem_cons_of_mem _ later, answers⟩

/-- A step of the channel keeps the calls in line. -/
theorem InLine.run (lawful : ops.Lawful) {action : Action T E} (inLine : InLine ops senders)
    (placed : Placed ops senders)
    (ran : senders.run ops width action = some (next, events)) : InLine ops next := by
  obtain ⟨after, stepTo, rfl⟩ := run_step ran
  have moved : InLine ops { senders with channel := after } :=
    ⟨inLine.nodup, inLine.suffix,
      fun i member => lt_of_lt_of_le (inLine.made i member) (step_length_le stepTo),
      inLine.older, inLine.ordered⟩
  refine moved.hear_all lawful fun event member i answered waiting => ?_
  exact (step_transition stepTo).answers member answered
    (placed.waits i (List.mem_append_left _ waiting))

/-- A call joins the line, at its end. -/
theorem InLine.register (inLine : InLine ops senders) {i : Nat} {queue : Queue}
    (waits : TaskAt senders.channel.tasks i fun pc => pc.waits = true)
    (absent : i ∉ senders.waiters ops)
    (grown : (ops.view queue).waiters = senders.waiters ops ++ [i])
    (behind : ∀ y ∈ senders.line, i ∉ senders.ahead y) :
    InLine ops { senders with queue := queue, line := senders.line.erase i ++ [i] } where
  nodup := by
    refine List.nodup_append.mpr ⟨inLine.nodup.erase i, by simp, fun k member other added => ?_⟩
    rw [List.mem_singleton.mp added]
    rintro rfl
    exact inLine.nodup.not_mem_erase member
  suffix := by
    obtain ⟨turn, split⟩ := suffix_erase inLine.suffix absent
    exact ⟨turn, by rw [waiters, grown, ← List.append_assoc, split]⟩
  made k member := by
    rcases List.mem_append.mp member with before | added
    · exact inLine.made k (List.mem_of_mem_erase before)
    · rw [List.mem_singleton.mp added]
      exact waits.lt_length
  older := inLine.older
  ordered y member x waited xMember := by
    have earlier (ne : x ≠ i) : x ∈ senders.line.erase i := by
      rcases List.mem_append.mp xMember with before | added
      · exact before
      · exact absurd (List.mem_singleton.mp added) ne
    rcases List.mem_append.mp member with before | added
    · have later := List.mem_of_mem_erase before
      have ne : x ≠ i := by
        rintro rfl
        exact behind y later waited
      have kept := (inLine.erase absent).ordered y before x waited (earlier ne)
      exact kept.trans (List.sublist_append_left _ _)
    · obtain rfl := List.mem_singleton.mp added
      have ne : x ≠ y := (inLine.older y x waited).ne
      exact (List.singleton_sublist.mpr (earlier ne)).append (List.Sublist.refl [y])

/-- A call is made, behind everybody in the queue. -/
theorem InLine.call (inLine : InLine ops senders) (blocking : Bool) :
    InLine ops (senders.recordCall (senders.waiters ops) blocking) where
  nodup := inLine.nodup
  suffix := inLine.suffix
  made := inLine.made
  older y x waited := by
    by_cases new : y = senders.channel.tasks.length
    · subst new
      simp only [recordCall, Function.update_self] at waited
      cases blocking with
      | true => exact inLine.made x (inLine.suffix.subset waited)
      | false => cases waited
    · simp only [recordCall, Function.update_of_ne new] at waited
      exact inLine.older y x waited
  ordered y member x waited xMember := by
    have old : y ≠ senders.channel.tasks.length := (inLine.made y member).ne
    simp only [recordCall, Function.update_of_ne old] at waited
    exact inLine.ordered y member x waited xMember

/-- Whoever waited when a call was made stays in the line until it is answered. -/
structure Recorded (senders : Senders T E Queue) : Prop where
  made : ∀ y, ∀ x ∈ senders.ahead y, x < senders.channel.tasks.length
  inLine : ∀ y, ∀ x ∈ senders.ahead y,
    (TaskAt senders.channel.tasks x fun pc => pc.asks = true) → x ∈ senders.line

theorem recorded_new :
    Recorded (Senders.new ops width capacity : Senders T E Queue) := by
  constructor <;> simp [Senders.new]

/-- A step of the channel takes a call out of the line when it answers the call. -/
theorem Recorded.run {action : Action T E} (recorded : Recorded senders)
    (ran : senders.run ops width action = some (next, events)) : Recorded next := by
  obtain ⟨after, stepTo, rfl⟩ := run_step ran
  refine ⟨fun y x waited => ?_, fun y x waited asks => ?_⟩
  · rw [hear_all.2] at waited
    rw [hear_all.1]
    exact lt_of_lt_of_le (recorded.made y x waited) (step_length_le stepTo)
  · rw [hear_all.2] at waited
    rw [hear_all.1] at asks
    have asked := (step_transition stepTo).asks (recorded.made y x waited) asks
    have inLine : x ∈ ({ senders with channel := after } : Senders T E Queue).line :=
      recorded.inLine y x waited asked
    rcases hear_line ops inLine with stays | ⟨event, member, answered⟩
    · exact stays
    · exact absurd asks ((step_transition stepTo).answered member answered)

theorem Recorded.step (lawful : ops.Lawful) {action : SendersAction T E}
    (recorded : Recorded senders) (inLine : InLine ops senders)
    (stepTo : senders.step ops width action = some (next, events)) : Recorded next := by
  cases step_move lawful stepTo with
  | @registers i queue =>
      refine ⟨recorded.made, fun y x waited asks => ?_⟩
      by_cases same : x = i
      · exact List.mem_append_right _ (List.mem_singleton.mpr same)
      · exact List.mem_append_left _
          ((List.mem_erase_of_ne same).mpr (recorded.inLine y x waited asks))
  | @consumes i queue _ _ _ _ _ _ _ ran =>
      have before : Recorded { senders with queue := queue } := ⟨recorded.made, recorded.inLine⟩
      exact before.run ran
  | @seesClosed i queue _ _ _ _ _ ran =>
      have before : Recorded { senders with queue := queue } := ⟨recorded.made, recorded.inLine⟩
      exact before.run ran
  | @resumes i _ _ _ ran =>
      have before : Recorded { senders with woken := senders.woken.erase i } :=
        ⟨recorded.made, recorded.inLine⟩
      exact before.run ran
  | @calls handle blocking _ _ ran =>
      have queued {y x : Nat}
          (waited : x ∈ (senders.recordCall (senders.waiters ops) blocking).ahead y) :
          x ∈ senders.ahead y ∨ x ∈ senders.line := by
        by_cases new : y = senders.channel.tasks.length
        · subst new
          simp only [recordCall, Function.update_self] at waited
          cases blocking with
          | true => exact .inr (inLine.suffix.subset waited)
          | false => cases waited
        · simp only [recordCall, Function.update_of_ne new] at waited
          exact .inl waited
      have before : Recorded (senders.recordCall (senders.waiters ops) blocking) := by
        refine ⟨fun y x waited => ?_, fun y x waited asks => ?_⟩
        · exact (queued waited).elim (recorded.made y x) (inLine.made x)
        · exact (queued waited).elim (fun old => recorded.inLine y x old asks) id
      exact before.run ran
  | moves _ _ ran => exact recorded.run ran

/-- A woken call that goes back to the queue in its turn has nobody behind it. -/
theorem InLine.nobody_behind (inLine : InLine ops senders) (recorded : Recorded senders)
    {i : Nat} (inTurn : senders.TakesTurns ops (.await i))
    (waits : TaskAt senders.channel.tasks i fun pc => pc.waits = true)
    (absent : i ∉ senders.waiters ops)
    (plain : ((ops.view senders.queue).stored || (ops.view senders.queue).closed) = false) :
    ∀ y ∈ senders.line, i ∉ senders.ahead y := by
  intro y member waited
  have asks : TaskAt senders.channel.tasks i fun pc => pc.asks = true := by
    obtain ⟨task, at_i, isWaiting⟩ := waits
    exact ⟨task, at_i, Pc.asks_of_waits isWaiting⟩
  have inLineToo := recorded.inLine y i waited asks
  have looks : i ∈ senders.looking ops :=
    List.mem_filter.mpr ⟨inLineToo, decide_eq_true absent⟩
  obtain ⟨front, split⟩ := List.getLast?_eq_some_iff.mp (inTurn plain looks)
  have before := inLine.ordered y member i waited inLineToo
  have nodup := inLine.nodup
  rw [split] at nodup
  rw [Before, split, List.sublist_append_iff] at before
  obtain ⟨first, second, pair, inFront, atEnd⟩ := before
  cases first with
  | nil =>
      rw [List.nil_append] at pair
      subst pair
      exact absurd atEnd.length_le (by simp)
  | cons head rest =>
      obtain ⟨rfl, _⟩ := List.cons.inj pair
      exact (List.nodup_append.mp nodup).2.2 i (inFront.subset List.mem_cons_self) i
        List.mem_cons_self rfl

theorem InLine.step (lawful : ops.Lawful) {action : SendersAction T E}
    (inLine : InLine ops senders) (placed : Placed ops senders) (recorded : Recorded senders)
    (inTurn : senders.TakesTurns ops action)
    (stepTo : senders.step ops width action = some (next, events)) : InLine ops next := by
  cases step_move lawful stepTo with
  | @registers i queue waits absent plain grown =>
      have notWaiting : i ∉ senders.waiters ops :=
        fun member => absent (List.mem_append_left _ member)
      exact inLine.register waits notWaiting grown
        (inLine.nobody_behind recorded inTurn waits notWaiting plain)
  | @consumes i queue _ _ _ _ kept _ _ ran =>
      have before : InLine ops { senders with queue := queue } :=
        ⟨inLine.nodup, by rw [waiters, kept]; exact inLine.suffix, inLine.made, inLine.older,
          inLine.ordered⟩
      exact before.run lawful (placed.requeue kept) ran
  | @seesClosed i queue _ _ _ _ kept ran =>
      have same : (ops.view queue).waiters = senders.waiters ops := by rw [kept]; rfl
      have before : InLine ops { senders with queue := queue } :=
        ⟨inLine.nodup, by rw [waiters, same]; exact inLine.suffix, inLine.made, inLine.older,
          inLine.ordered⟩
      exact before.run lawful (placed.requeue same) ran
  | @resumes i _ _ member ran =>
      have before : InLine ops { senders with woken := senders.woken.erase i } :=
        ⟨inLine.nodup, inLine.suffix, inLine.made, inLine.older, inLine.ordered⟩
      exact before.run lawful (placed.resume i) ran
  | @calls handle blocking _ _ ran =>
      exact (inLine.call blocking).run lawful ⟨placed.waits, placed.nodup⟩ ran
  | moves _ _ ran => exact inLine.run lawful placed ran

/-- Call `x` waited when call `y` was made.  It is in line or has been answered. -/
structure Follows (x y : Nat) (history : List (Event T E)) (senders : Senders T E Queue) :
    Prop where
  ahead : x ∈ senders.ahead y
  made : y < senders.channel.tasks.length
  waits : x ∈ senders.line ∨ ∃ event ∈ history, event.answers = some x

section Follows

variable {x y : Nat}

theorem Follows.run {before : Senders T E Queue} {action : Action T E}
    (follows : Follows x y history senders)
    (ran : before.run ops width action = some (next, events))
    (channel : before.channel = senders.channel) (ahead : before.ahead y = senders.ahead y)
    (line : before.line = senders.line) : Follows x y (history ++ events) next := by
  obtain ⟨after, stepTo, rfl⟩ := run_step ran
  rw [channel] at stepTo
  refine ⟨?_, ?_, ?_⟩
  · rw [Senders.hear_all.2]
    exact ahead ▸ follows.ahead
  · rw [Senders.hear_all.1]
    exact lt_of_lt_of_le follows.made (step_length_le stepTo)
  · rcases follows.waits with inLine | ⟨event, member, answers⟩
    · have waits : x ∈ ({ before with channel := after } : Senders T E Queue).line := line ▸ inLine
      rcases hear_line ops waits with stays | found
      · exact .inl stays
      · obtain ⟨event, member, answers⟩ := found
        exact .inr ⟨event, List.mem_append_right _ member, answers⟩
    · exact .inr ⟨event, List.mem_append_left _ member, answers⟩

theorem Follows.step (lawful : ops.Lawful) {action : SendersAction T E}
    (follows : Follows x y history senders)
    (stepTo : senders.step ops width action = some (next, events)) :
    Follows x y (history ++ events) next := by
  cases step_move lawful stepTo with
  | @registers i =>
      refine ⟨follows.ahead, follows.made, ?_⟩
      rw [List.append_nil]
      refine follows.waits.imp_left fun inLine => ?_
      by_cases same : x = i
      · simp [same]
      · exact List.mem_append_left _ ((List.mem_erase_of_ne same).mpr inLine)
  | consumes _ _ _ _ _ ran => exact follows.run ran rfl rfl rfl
  | seesClosed _ _ _ ran => exact follows.run ran rfl rfl rfl
  | resumes _ ran => exact follows.run ran rfl rfl rfl
  | calls ran =>
      exact follows.run ran rfl (Function.update_of_ne follows.made.ne _ _) rfl
  | moves _ _ ran => exact follows.run ran rfl rfl rfl

end Follows

/-- The invariants of a run in which every call takes its turn. -/
structure Orderly (ops : WaitQueue Queue Nat) (senders : Senders T E Queue) : Prop where
  placed : Placed ops senders
  inLine : InLine ops senders
  recorded : Recorded senders

theorem orderly_new (lawful : ops.Lawful) :
    Orderly ops (Senders.new ops width capacity : Senders T E Queue) :=
  ⟨placed_new lawful, inLine_new lawful, recorded_new⟩

theorem Orderly.step (lawful : ops.Lawful) {action : SendersAction T E}
    (orderly : Orderly ops senders) (inTurn : senders.TakesTurns ops action)
    (stepTo : senders.step ops width action = some (next, events)) : Orderly ops next where
  placed := orderly.placed.step lawful stepTo
  inLine := orderly.inLine.step lawful orderly.placed orderly.recorded inTurn stepTo
  recorded := orderly.recorded.step lawful orderly.inLine stepTo

/-- Nobody in the queue is before a call in line that has left the queue. -/
theorem InLine.not_before (inLine : InLine ops senders) {x y : Nat}
    (waiting : x ∈ senders.waiters ops) (left : y ∉ senders.waiters ops) :
    ¬ senders.Before x y := by
  intro before
  obtain ⟨turn, split⟩ := inLine.suffix
  have nodup := inLine.nodup
  rw [Before, ← split, List.sublist_append_iff] at before
  rw [← split] at nodup
  obtain ⟨first, second, pair, inTurn, inQueue⟩ := before
  cases first with
  | nil =>
      rw [List.nil_append] at pair
      subst pair
      exact left (inQueue.subset (by simp))
  | cons head rest =>
      obtain ⟨rfl, _⟩ := List.cons.inj pair
      exact (List.nodup_append.mp nodup).2.2 x (inTurn.subset (by simp)) x waiting rfl

/-- The first of the woken calls has nobody before it in line. -/
theorem InLine.not_before_first (inLine : InLine ops senders) {x y : Nat} {rest : List Nat}
    (looking : senders.looking ops = y :: rest) (ne : x ≠ y) :
    ¬ senders.Before x y := by
  intro before
  have first : y ∈ senders.looking ops := looking ▸ List.mem_cons_self
  have left : y ∉ senders.waiters ops := of_decide_eq_true (List.mem_filter.mp first).2
  have awake : x ∉ senders.waiters ops := fun waiting => inLine.not_before waiting left before
  have nodup : (senders.looking ops).Nodup := inLine.nodup.filter _
  have sublist : [x, y].Sublist (senders.looking ops) := by
    have kept := List.Sublist.filter (fun i => decide (i ∉ senders.waiters ops)) before
    rwa [List.filter_eq_self.mpr (by simp [awake, left])] at kept
  rw [looking] at nodup sublist
  cases sublist with
  | cons _ later => exact (List.nodup_cons.mp nodup).1 (later.subset (by simp))
  | cons_cons => exact ne rfl

/-- A call that gets an index in its turn has nobody before it in line. -/
theorem Orderly.nobody_before (lawful : ops.Lawful) {action : SendersAction T E} {y idx : Nat}
    (orderly : Orderly ops senders) (inTurn : senders.TakesTurns ops action)
    (stepTo : senders.step ops width action = some (next, events))
    (reserved : .reserved y idx ∈ events) :
    events = [.reserved y idx] ∧ ∀ x ∈ senders.ahead y, x ∉ senders.line := by
  cases step_move lawful stepTo with
  | registers => cases reserved
  | consumes _ _ _ _ _ ran => cases (allocate_of_reserved (run_channel ran rfl) reserved).1
  | seesClosed _ _ _ ran => cases (allocate_of_reserved (run_channel ran rfl) reserved).1
  | resumes _ ran => cases (allocate_of_reserved (run_channel ran rfl) reserved).1
  | calls ran => cases (allocate_of_reserved (run_channel ran rfl) reserved).1
  | moves _ _ ran =>
      obtain ⟨rfl, rfl⟩ := allocate_of_reserved (run_channel ran rfl) reserved
      refine ⟨rfl, fun x waited inLine => ?_⟩
      have inLines := orderly.inLine
      cases found : senders.looking ops with
      | nil =>
          -- Nobody waits and nobody was woken, so the line is empty.
          simp only [TakesTurns, found] at inTurn
          have waiting := List.filter_eq_nil_iff.mp found x inLine
          simp [inTurn] at waiting
      | cons first rest =>
          simp only [TakesTurns, found] at inTurn
          subst inTurn
          have member : y ∈ senders.looking ops := found ▸ List.mem_cons_self
          have before :=
            inLines.ordered y (List.mem_of_mem_filter member) x waited inLine
          exact inLines.not_before_first found (inLines.older y x waited).ne before

end Senders

/-- A call that waits in the queue when another is made is answered before the other
gets an index. -/
def ServesInOrder (T E : Type*) (ops : WaitQueue Queue Nat) (width : PointerWidth)
    (capacity : Nat) (admits : Senders T E Queue → SendersAction T E → Prop) : Prop :=
  ∀ (earlier : List (Event T E)) (before : Senders T E Queue) (handle x idx : Nat)
    (made : Senders T E Queue) (events : List (Event T E)) (past later : List (Event T E))
    (final : Senders T E Queue),
    Run (Senders.step ops width) admits (Senders.new ops width capacity) earlier before →
    x ∈ before.waiters ops →
    before.step ops width (.base (.reserve handle true)) = some (made, events) →
    Run (Senders.step ops width) admits made
      (past ++ .reserved before.channel.tasks.length idx :: later) final →
    ∃ event ∈ past, event.answers = some x

section Runs

variable {history : List (Event T E)}

theorem orderly_run (lawful : ops.Lawful) {before final : Senders T E Queue}
    (orderly : Senders.Orderly ops before)
    (run : Run (Senders.step ops width) (Senders.TakesTurns ops) before history final) :
    Senders.Orderly ops final :=
  run.stateInvariant (Senders.Orderly ops) orderly
    fun orderly inTurn stepTo => orderly.step lawful inTurn stepTo

/-- A new call follows everybody in the queue. -/
theorem follows_of_call {before made : Senders T E Queue}
    {events : List (Event T E)} {handle x : Nat} (inLine : Senders.InLine ops before)
    (waiting : x ∈ before.waiters ops)
    (called : before.step ops width (.base (.reserve handle true)) = some (made, events)) :
    Senders.Follows x before.channel.tasks.length ([] : List (Event T E)) made := by
  obtain ⟨after, stepTo, rfl⟩ := Senders.run_step called
  simp only [step] at stepTo
  split at stepTo <;> cases stepTo
  refine ⟨?_, ?_, .inl (inLine.suffix.subset waiting)⟩
  · simp only [List.foldl_nil, Senders.recordCall, Function.update_self, if_true]
    exact waiting
  · simp [Senders.recordCall, Channel.spawn]

/-- When every call takes its turn the calls of one channel are served in order. -/
theorem served_in_order (T E : Type*) (lawful : ops.Lawful) (width : PointerWidth)
    (capacity : Nat) : ServesInOrder T E ops width capacity (Senders.TakesTurns ops) := by
  intro earlier before handle x idx made events past later final first waiting called second
  have orderly := orderly_run lawful (Senders.orderly_new lawful) first
  have follows := follows_of_call orderly.inLine waiting called
  have orderlyMade : Senders.Orderly ops made := by
    refine orderly.step lawful ?_ called
    trivial
  obtain ⟨pre, _, _, _, state, action, after, rfl, _, prefixRun, inTurn, stepTo, _⟩ :=
    second.split_event rfl
  have followed : Senders.Follows x before.channel.tasks.length pre state :=
    prefixRun.invariant (Senders.Follows x before.channel.tasks.length) follows
      fun holds _ stepTo => holds.step lawful stepTo
  obtain ⟨alone, nobody⟩ := (orderly_run lawful orderlyMade prefixRun).nobody_before lawful
    inTurn stepTo (List.mem_append_right _ List.mem_cons_self)
  rcases followed.waits with inLine | ⟨event, member, answers⟩
  · exact absurd inLine (nobody x followed.ahead)
  · exact ⟨event, List.mem_append_left _ member, answers⟩

end Runs

/-- The second call for the only index waits in the queue. -/
def secondWaits : List (SendersAction Nat Nat) :=
  [.base (.reserve 0 true), .base (.run 0), .base (.allocate 0 0),
    .base (.reserve 0 true), .base (.run 1), .base (.run 1), .await 1]

/-- The third call waits as well.  The index is dropped, the second call is woken, gets it
and drops it, and the third call is woken and gets it. -/
def secondThenThird : List (SendersAction Nat Nat) :=
  [.base (.run 2), .base (.run 2), .await 2, .base (.release 0), .base (.run 0),
    .base (.run 0), .resume 1, .base (.run 1), .base (.allocate 1 0), .base (.release 1),
    .base (.run 1), .base (.run 1), .resume 2, .base (.run 2), .base (.allocate 2 0)]

/-- The index is dropped, and the third call finds it free. -/
def thirdFirst : List (SendersAction Nat Nat) :=
  [.base (.release 0), .base (.run 0), .base (.run 2), .base (.allocate 2 0)]

theorem served_in_order_secondThenThird :
    ServesInOrder Nat Nat (WaitQueue.plain Nat) .bits64 1
        (Senders.TakesTurns (WaitQueue.plain Nat)) ∧
      ∃ (before made final : Senders Nat Nat (QueueView Nat))
        (earlier events : List (Event Nat Nat)),
        Run (Senders.step (WaitQueue.plain Nat) .bits64) (Senders.TakesTurns (WaitQueue.plain Nat))
          (Senders.new (WaitQueue.plain Nat) .bits64 1) earlier before ∧
        before.waiters (WaitQueue.plain Nat) = [1] ∧
        before.step (WaitQueue.plain Nat) .bits64 (.base (.reserve 0 true)) =
          some (made, events) ∧
        Run (Senders.step (WaitQueue.plain Nat) .bits64) (Senders.TakesTurns (WaitQueue.plain Nat))
          made [.wakeProd, .reserved 1 0, .wakeProd, .reserved 2 0] final := by
  refine ⟨served_in_order Nat Nat (WaitQueue.plain_lawful Nat) .bits64 1, ?_⟩
  obtain ⟨earlier, before, run, seen⟩ :=
    exists_run_of_exec (Senders.step (WaitQueue.plain Nat) .bits64)
      (Senders.TakesTurns (WaitQueue.plain Nat)) (Senders.new (WaitQueue.plain Nat) .bits64 1)
      secondWaits
      (fun reached => (reached.1.waiters (WaitQueue.plain Nat),
        (reached.1.step (WaitQueue.plain Nat) .bits64 (.base (.reserve 0 true))).bind
          fun made => (exec (Senders.step (WaitQueue.plain Nat) .bits64)
            (Senders.TakesTurns (WaitQueue.plain Nat)) made.1 secondThenThird).map (·.2)))
      (show _ = some ([1], some [.wakeProd, .reserved 1 0, .wakeProd, .reserved 2 0])
        by decide +kernel)
  obtain ⟨waiters, continued⟩ := Prod.mk.injEq .. ▸ seen
  obtain ⟨⟨made, events⟩, called, executed⟩ := Option.bind_eq_some_iff.mp continued
  obtain ⟨⟨final, later⟩, ran, rfl⟩ := Option.map_eq_some_iff.mp executed
  exact ⟨before, made, final, earlier, events, run, waiters, called, run_of_exec ran⟩

/-- A new call takes the index that was freed for the one in the queue. -/
theorem not_servesInOrder_thirdFirst :
    ¬ ServesInOrder Nat Nat (WaitQueue.plain Nat) .bits64 1 anyStep := by
  intro inOrder
  obtain ⟨earlier, before, run, seen⟩ :=
    exists_run_of_exec (Senders.step (WaitQueue.plain Nat) .bits64) anyStep
      (Senders.new (WaitQueue.plain Nat) .bits64 1 : Senders Nat Nat (QueueView Nat)) secondWaits
      (fun reached => (reached.1.waiters (WaitQueue.plain Nat), reached.1.channel.tasks.length,
        (reached.1.step (WaitQueue.plain Nat) .bits64 (.base (.reserve 0 true))).bind
          fun made => (exec (Senders.step (WaitQueue.plain Nat) .bits64) anyStep made.1
            thirdFirst).map (·.2)))
      (show _ = some ([1], 2, some [.reserved 2 0]) by decide +kernel)
  simp only [Prod.mk.injEq] at seen
  obtain ⟨waiters, third, continued⟩ := seen
  obtain ⟨⟨made, events⟩, called, executed⟩ := Option.bind_eq_some_iff.mp continued
  obtain ⟨⟨final, later⟩, ran, laterEq⟩ := Option.map_eq_some_iff.mp executed
  have second := run_of_exec ran
  rw [show later = [] ++ .reserved before.channel.tasks.length 0 :: [] by
    rw [third]; exact laterEq] at second
  obtain ⟨event, member, _⟩ := inOrder earlier before 0 1 0 made events [] [] final run
    (by simp [waiters]) called second
  cases member

end ChannelCore

end Mgnp
