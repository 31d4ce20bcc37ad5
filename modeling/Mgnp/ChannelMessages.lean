import Mgnp.ChannelFifo

/-!
# The messages that sends carry

Between the write of a message and the commit of its send, the message lies in
the cell of an index that only the sending task holds, so it is the message
that is committed.
-/

namespace Mgnp

namespace ChannelCore

open LabelledRuns PositionWord

variable {T E : Type*} {width : PointerWidth} {capacity : Nat}
  {channel next : Channel T E} {history events : List (Event T E)}

/-- The index of a `commit_send` that has not been decided yet. -/
def Pc.carrying : Pc E → Option Nat
  | .committing idx | .examining idx _ | .claiming idx _ => some idx
  | _ => none

/-- The task has begun its `commit_send`, after which it writes no cell. -/
def Pc.sent : Pc E → Bool
  | .committing _ | .examining _ _ | .claiming _ _ | .commitClosed _ | .storing _ _
  | .waking | .retired _ | .finished => true
  | _ => false

theorem Pc.holding_of_carrying {pc : Pc E} {idx : Nat} (carries : pc.carrying = some idx) :
    pc.holding = some (.sending, idx) := by
  cases pc <;> simp_all [carrying, holding]

theorem LocalMove.sent {core : Core E} {i : Nat} {pc pc' : Pc E}
    (move : LocalMove width core i pc pc' events) (begun : pc.sent = true) :
    pc'.sent = true := by
  cases move with
  | loadTail | commitSawClosed | panic | claim | reloadTail | claimFailed | commitError
  | wakeReceiver => rfl
  | sawClosed | sawOpen | reserveError | park | full | waitClosed | woken | commitCall
  | dropPermit | dropReceived | wakeSender | closeConsWait | acquireLast => cases begun

/-- Once its `commit_send` has begun, a task carries the same index until it is
decided. -/
theorem LocalMove.carrying {core : Core E} {i idx : Nat} {pc pc' : Pc E}
    (move : LocalMove width core i pc pc' events) (begun : pc.sent = true)
    (carries : pc'.carrying = some idx) : pc.carrying = some idx := by
  cases move with
  | loadTail | claim | reloadTail | claimFailed => exact carries
  | commitSawClosed | panic | commitError | wakeReceiver => cases carries
  | sawClosed | sawOpen | reserveError | park | full | waitClosed | woken | commitCall
  | dropPermit | dropReceived | wakeSender | closeConsWait | acquireLast => cases begun

theorem StateMove.not_sent {core core' : Core E} {i : Nat} {pc pc' : Pc E}
    (move : StateMove core i pc pc' core' events) : pc.sent = false := by
  cases move <;> rfl

/-- A step writes only the cell of a task that still has its permit. -/
theorem Transition.elements_eq (owned : Owned width capacity channel)
    (transition : Transition width channel events next) {i idx : Nat} {role : Role}
    {task : Task E} (at_i : channel.tasks[i]? = some task)
    (holds : task.pc.holding = some (role, idx)) (notPermit : ∀ other, task.pc ≠ .permit other) :
    next.elements idx = channel.elements idx := by
  cases transition with
  | @write k handle other value at_k =>
      apply Function.update_of_ne
      rintro rfl
      have here : TaskHolds channel.tasks i role idx := ⟨task, at_i, holds⟩
      have there : Holds width channel idx (.held .sending k) := ⟨_, at_k, rfl⟩
      have same := owned.held_unique here there
      cases same
      cases at_i.symm.trans at_k
      exact notPermit _ rfl
  | call | cloneTx | dropTx | dropRx | taskLocal | taskState | allocate | free | commitWon
  | store | closeRx | closeTx | rxLocal | dequeueWon | release => rfl

/-- The task has begun to send this message: the message lies in its cell while
it is carried, and no other message is committed for the task. -/
structure Carries (history : List (Event T E)) (channel : Channel T E) (i : Nat)
    (message : Option T) : Prop where
  begun : TaskAt channel.tasks i fun pc => pc.sent = true
  carried : ∀ idx, TaskAt channel.tasks i (fun pc => pc.carrying = some idx) →
    channel.elements idx = message
  committed : ∀ idx other, (i, idx, other) ∈ committed history → other = message

theorem mem_committed {i idx : Nat} {message : Option T} :
    (i, idx, message) ∈ committed history ↔ .committed i idx message ∈ history := by
  rw [committed, List.mem_filterMap]
  constructor
  · rintro ⟨event, member, isCommitted⟩
    cases event <;> cases isCommitted
    exact member
  · intro member
    exact ⟨_, member, rfl⟩

section Carries

variable {i : Nat} {message : Option T}

/-- A step of the channel in which the sending task stays where it is, or in
which nothing is committed and it goes on with its commit. -/
theorem Carries.frame (carries : Carries history channel i message)
    (owned : Owned width capacity channel) (transition : Transition width channel events next)
    (begun : TaskAt next.tasks i fun pc => pc.sent = true)
    (carrying : ∀ idx, TaskAt next.tasks i (fun pc => pc.carrying = some idx) →
      TaskAt channel.tasks i fun pc => pc.carrying = some idx)
    (own : ∀ idx other, .committed i idx other ∈ events → other = message) :
    Carries (history ++ events) next i message := by
  refine ⟨begun, ?_, ?_⟩
  · intro idx there
    obtain ⟨task, at_i, carries'⟩ := carrying idx there
    rw [transition.elements_eq owned at_i (Pc.holding_of_carrying carries')]
    · exact carries.carried idx ⟨task, at_i, carries'⟩
    · intro other isPermit
      rw [isPermit] at carries'
      cases carries'
  · intro idx other member
    rw [mem_committed, List.mem_append] at member
    rcases member with old | new
    · exact carries.committed idx other (mem_committed.mpr old)
    · exact own idx other new

theorem Carries.transition (carries : Carries history channel i message)
    (owned : Owned width capacity channel)
    (transition : Transition width channel events next) :
    Carries (history ++ events) next i message := by
  obtain ⟨⟨handle, pc⟩, at_i, begun⟩ := carries.begun
  have inside := (List.getElem?_eq_some_iff.mp at_i).1
  -- A spawned task is not this one.
  have append : ∀ (task : Task E) (P : Pc E → Prop),
      TaskAt (channel.tasks ++ [task]) i P ↔ TaskAt channel.tasks i P := by
    intro task P
    rw [taskAt_append]
    constructor
    · rintro (before | ⟨rfl, -⟩)
      · exact before
      · exact absurd inside (Nat.lt_irrefl _)
    · exact .inl
  have spawned : ∀ (task : Task E), next.tasks = channel.tasks ++ [task] →
      (∀ idx other, .committed i idx other ∉ events) →
      Carries (history ++ events) next i message := by
    intro task tasks silent
    apply carries.frame owned transition
    · rw [tasks, append]
      exact carries.begun
    · intro idx there
      rwa [tasks, append] at there
    · intro idx other member
      exact absurd member (silent idx other)
  have kept : next.tasks = channel.tasks → (∀ idx other, .committed i idx other ∉ events) →
      Carries (history ++ events) next i message := by
    intro tasks silent
    apply carries.frame owned transition
    · rw [tasks]
      exact carries.begun
    · intro idx there
      rwa [tasks] at there
    · intro idx other member
      exact absurd member (silent idx other)
  have moved : ∀ {k : Nat} {handle' : Option Nat} {old new : Pc E},
      channel.tasks[k]? = some ⟨handle', old⟩ →
      next.tasks = channel.tasks.set k ⟨handle', new⟩ →
      (old.sent = true → new.sent = true) →
      (∀ idx, old.sent = true → new.carrying = some idx → old.carrying = some idx) →
      (∀ idx other, .committed i idx other ∈ events → other = message) →
      Carries (history ++ events) next i message := by
    intro k handle' old new at_k tasks keepsSent keepsIndex own
    apply carries.frame owned transition
    · rw [tasks]
      by_cases same : k = i
      · subst same
        cases at_i.symm.trans at_k
        exact (taskAt_set_self at_k).mpr (keepsSent begun)
      · exact (taskAt_set_ne same).mpr carries.begun
    · intro idx there
      rw [tasks] at there
      by_cases same : k = i
      · subst same
        cases at_i.symm.trans at_k
        have newCarries := (taskAt_set_self at_k).mp there
        exact ⟨_, at_k, keepsIndex idx begun newCarries⟩
      · exact (taskAt_set_ne same).mp there
    · exact own
  cases transition with
  | call => exact spawned _ rfl (by simp)
  | dropTx => exact spawned _ rfl (by simp)
  | dropRx => exact spawned _ rfl (by simp)
  | release => exact spawned _ rfl (by simp)
  | cloneTx => exact kept rfl (by simp)
  | write => exact kept rfl (by simp)
  | rxLocal at_rx move => exact kept rfl (by cases move <;> simp)
  | dequeueWon => exact kept rfl (by simp)
  | taskLocal at_k move =>
      refine moved at_k rfl move.sent (fun idx => move.carrying) ?_
      cases move with
      | @closeConsWait byError => cases byError <;> simp
      | _ => simp
  | taskState at_k move =>
      refine moved at_k rfl ?_ ?_ ?_
      · simp [move.not_sent]
      · simp [move.not_sent]
      · cases move <;> simp
  | allocate at_k => exact moved at_k rfl (by simp [Pc.sent]) (by simp [Pc.sent]) (by simp)
  | free at_k => exact moved at_k rfl (by simp [Pc.sent]) (by simp [Pc.sent]) (by simp)
  | closeRx at_k => exact moved at_k rfl (by simp [Pc.sent]) (by simp [Pc.sent]) (by simp)
  | closeTx at_k => exact moved at_k rfl (by simp [Pc.sent]) (by simp [Pc.sent]) (by simp)
  | store at_k => exact moved at_k rfl (by simp [Pc.sent]) (by simp [Pc.carrying]) (by simp)
  | @commitWon k handle' idx tail at_k current =>
      refine moved at_k rfl (by simp [Pc.sent]) (by simp [Pc.carrying]) ?_
      intro index other member
      obtain ⟨rfl, rfl, rfl⟩ := by simpa using member
      exact carries.carried _ ⟨_, at_k, rfl⟩

/-- The write and the start of the commit. -/
theorem Carries.begin {idx : Nat} {handle : Option Nat}
    (represents : Represents width capacity history channel)
    (at_i : channel.tasks[i]? = some ⟨handle, .permit idx⟩) (value : T) :
    Carries history
      { channel.goto i handle (.committing idx) with
        elements := Function.update channel.elements idx (some value) } i (some value) := by
  obtain ⟨ledger, replays, inv, -⟩ := represents
  refine ⟨(taskAt_set_self at_i).mpr rfl, ?_, ?_⟩
  · intro other there
    obtain rfl : idx = other := by
      simpa [Pc.carrying] using (taskAt_set_self at_i).mp there
    exact Function.update_self ..
  · intro other message member
    rw [← issues_ledgerOps, ← replays.issued_eq] at member
    have unissued : i ∉ ledger.issued.map Prod.fst := inv.tasks i _ at_i
    exact absurd (List.mem_map_of_mem member) unissued

theorem Carries.run {start final : Channel T E} {later : List (Event T E)}
    {admits : Channel T E → Action T E → Prop}
    (carries : Carries history start i message)
    (represents : Represents width capacity history start)
    (capacityLe : capacity ≤ maxCapacity width)
    (run : Run (step width) admits start later final) :
    Carries (history ++ later) final i message := by
  have kept : Represents width capacity (history ++ later) final ∧
      Carries (history ++ later) final i message := by
    apply run.invariant fun past channel =>
      Represents width capacity (history ++ past) channel ∧
        Carries (history ++ past) channel i message
    · simpa using ⟨represents, carries⟩
    · intro past events channel next action holds _ stepTo
      have transition := step_transition stepTo
      obtain ⟨ledger, replays, inv, owned⟩ := holds.1
      rw [← List.append_assoc]
      exact ⟨holds.1.transition capacityLe transition, holds.2.transition owned transition⟩
  exact kept.2

end Carries

end ChannelCore

end Mgnp
