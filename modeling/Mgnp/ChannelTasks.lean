import Mgnp.ChannelTransitions
import Mathlib.Data.List.Lemmas
import Mathlib.Data.List.Perm.Subperm

/-!
# Facts about the pool of tasks

A step replaces one task or appends one.  The lemmas of this file carry facts
about every task, and the identity of the tasks that have a property, across
both.
-/

namespace Mgnp

namespace ChannelCore

variable {E : Type*}

theorem forall_mem_append_singleton {α : Type*} {P : α → Prop} {list : List α}
    {value : α} (all : ∀ element ∈ list, P element) (new : P value) :
    ∀ element ∈ list ++ [value], P element := by
  intro element member
  rcases List.mem_append.mp member with old | added
  · exact all element old
  · exact List.mem_singleton.mp added ▸ new

/-- The task with index `i` exists and its program counter satisfies `P`. -/
def TaskAt (tasks : List (Task E)) (i : Nat) (P : Pc E → Prop) : Prop :=
  ∃ task, tasks[i]? = some task ∧ P task.pc

section TaskAt

variable {tasks : List (Task E)} {i k : Nat} {P : Pc E → Prop} {old new : Task E}

theorem TaskAt.lt_length (found : TaskAt tasks i P) : i < tasks.length := by
  obtain ⟨task, at_i, _⟩ := found
  exact (List.getElem?_eq_some_iff.mp at_i).1

theorem taskAt_iff_of_pc (at_k : tasks[k]? = some old) :
    TaskAt tasks k P ↔ P old.pc := by
  simp [TaskAt, at_k]

theorem taskAt_set_self (at_k : tasks[k]? = some old) :
    TaskAt (tasks.set k new) k P ↔ P new.pc := by
  obtain ⟨inside, _⟩ := List.getElem?_eq_some_iff.mp at_k
  simp [TaskAt, inside]

theorem taskAt_set_ne (ne : k ≠ i) :
    TaskAt (tasks.set k new) i P ↔ TaskAt tasks i P := by
  simp [TaskAt, List.getElem?_set_ne ne]

theorem taskAt_append :
    TaskAt (tasks ++ [new]) i P ↔
      TaskAt tasks i P ∨ (i = tasks.length ∧ P new.pc) := by
  rcases lt_trichotomy i tasks.length with inside | rfl | outside
  · simp [TaskAt, List.getElem?_append_left inside, Nat.ne_of_lt inside]
  · simp [TaskAt]
  · have noTask : tasks[i]? = none := List.getElem?_eq_none_iff.mpr (by omega)
    have nowhere : (tasks ++ [new])[i]? = none := by
      rw [List.getElem?_eq_none_iff, List.length_append, List.length_singleton]
      omega
    simp [TaskAt, noTask, nowhere, Nat.ne_of_gt outside]

/-- Replacing a task creates no new task with a property that the new program
counter lacks. -/
theorem TaskAt.of_set (lacks : ¬ P new.pc) (found : TaskAt (tasks.set k new) i P) :
    TaskAt tasks i P := by
  by_cases same : k = i
  · subst same
    obtain ⟨task, at_k, holds⟩ := found
    rw [List.getElem?_set_self'] at at_k
    obtain ⟨_, _, rfl⟩ := Option.map_eq_some_iff.mp at_k
    exact absurd holds lacks
  · exact (taskAt_set_ne same).mp found

/-- A property that the moving task had before its move is not new either. -/
theorem TaskAt.of_set_kept (at_k : tasks[k]? = some old) (had : P old.pc)
    (found : TaskAt (tasks.set k new) i P) : TaskAt tasks i P := by
  by_cases same : k = i
  · subst same
    exact (taskAt_iff_of_pc at_k).mpr had
  · exact (taskAt_set_ne same).mp found

/-- A task with a property stays when a task without it moves. -/
theorem exists_taskAt_set (at_k : tasks[k]? = some old) (lacked : ¬ P old.pc)
    (found : ∃ i, TaskAt tasks i P) : ∃ i, TaskAt (tasks.set k new) i P := by
  obtain ⟨i, at_i⟩ := found
  refine ⟨i, (taskAt_set_ne fun same => ?_).mpr at_i⟩
  subst same
  exact lacked ((taskAt_iff_of_pc at_k).mp at_i)

theorem exists_taskAt_append (added : List (Task E)) (found : ∃ i, TaskAt tasks i P) :
    ∃ i, TaskAt (tasks ++ added) i P := by
  obtain ⟨i, task, at_i, holds⟩ := found
  refine ⟨i, task, ?_, holds⟩
  rw [List.getElem?_append_left (List.getElem?_eq_some_iff.mp at_i).1, at_i]

theorem TaskAt.of_append (lacks : ¬ P new.pc)
    (found : TaskAt (tasks ++ [new]) i P) : TaskAt tasks i P := by
  rcases taskAt_append.mp found with before | ⟨_, added⟩
  · exact before
  · exact absurd added lacks

end TaskAt

section Count

variable {tasks : List (Task E)} {k : Nat} {old new : Task E}

/-- Replacing a task exchanges its contribution to a count. -/
theorem countP_set (P : Pc E → Bool) (at_k : tasks[k]? = some old) (new : Task E) :
    (tasks.set k new).countP (fun task => P task.pc) + (P old.pc).toNat =
      tasks.countP (fun task => P task.pc) + (P new.pc).toNat := by
  obtain ⟨inside, atEq⟩ := List.getElem?_eq_some_iff.mp at_k
  rw [List.countP_set inside, atEq]
  have counted : P old.pc = true → 0 < tasks.countP (fun task => P task.pc) := fun holds =>
    List.countP_pos_iff.mpr ⟨old, List.mem_of_getElem? at_k, holds⟩
  cases before : P old.pc <;> cases after : P new.pc <;> simp_all

/-- Different tasks with a property are counted each. -/
theorem length_le_countP {P : Pc E → Bool} {list : List Nat} (nodup : list.Nodup)
    (all : ∀ i ∈ list, TaskAt tasks i (fun pc => P pc = true)) :
    list.length ≤ tasks.countP (fun task => P task.pc) := by
  rw [← List.length_findIdxs (s := 0)]
  refine (List.subperm_of_subset nodup fun i member => ?_).length_le
  obtain ⟨task, at_i, holds⟩ := all i member
  obtain ⟨inside, rfl⟩ := List.getElem?_eq_some_iff.mp at_i
  exact List.mem_findIdxs_iff_exists_getElem_pos.mpr ⟨inside, holds⟩

end Count

section Facts

variable {tasks : List (Task E)} {k : Nat} {new : Task E}
  {before after : Nat → Pc E → Prop}

/-- Facts about every task, once the task that moves and the others have been
looked at. -/
theorem forall_tasks_set
    (facts : ∀ i task, tasks[i]? = some task → before i task.pc)
    (others : ∀ i pc, i ≠ k → before i pc → after i pc) (moved : after k new.pc) :
    ∀ i task, (tasks.set k new)[i]? = some task → after i task.pc := by
  intro i task at_i
  by_cases same : k = i
  · subst same
    rw [List.getElem?_set_self'] at at_i
    obtain ⟨_, _, rfl⟩ := Option.map_eq_some_iff.mp at_i
    exact moved
  · rw [List.getElem?_set_ne same] at at_i
    exact others i task.pc (Ne.symm same) (facts i task at_i)

theorem forall_tasks_append
    (facts : ∀ i task, tasks[i]? = some task → before i task.pc)
    (others : ∀ i pc, i < tasks.length → before i pc → after i pc)
    (spawned : after tasks.length new.pc) :
    ∀ i task, (tasks ++ [new])[i]? = some task → after i task.pc := by
  intro i task at_i
  rcases lt_or_ge i tasks.length with inside | outside
  · rw [List.getElem?_append_left inside] at at_i
    exact others i task.pc inside (facts i task at_i)
  · rw [List.getElem?_append_right outside, List.getElem?_singleton] at at_i
    split at at_i
    · obtain rfl : i = tasks.length := by omega
      cases at_i
      exact spawned
    · cases at_i

end Facts

section Others

variable {T : Type*} {width : PositionWord.PointerWidth} {channel next : Channel T E}
  {events : List (Event T E)} {k : Nat} {kept : Task E}

/-- The task that an action moves. -/
def Action.task : Action T E → Option Nat
  | .run i | .allocate i _ | .spurious i | .woken i | .write i _ | .commit i | .release i =>
      some i
  | _ => none

theorem runTask_others {i : Nat} {moved : Task E}
    (ran : runTask width channel i moved = some (next, events)) (ne : i ≠ k) :
    next.tasks[k]? = channel.tasks[k]? := by
  obtain ⟨handle, pc⟩ := moved
  cases pc <;> simp only [runTask] at ran
  all_goals
    repeat' split at ran
    all_goals cases ran
    all_goals exact List.getElem?_set_ne ne

/-- A step moves no task but that of its action. -/
theorem step_others {action : Action T E}
    (stepTo : step width channel action = some (next, events)) (ne : action.task ≠ some k)
    (at_k : channel.tasks[k]? = some kept) : next.tasks[k]? = some kept := by
  have spawned (new : Task E) : (channel.tasks ++ [new])[k]? = some kept := by
    rw [List.getElem?_append_left (List.getElem?_eq_some_iff.mp at_k).1, at_k]
  cases action with
  | run i =>
      simp only [step] at stepTo
      split at stepTo
      · rw [runTask_others stepTo fun same => ne (congrArg some same), at_k]
      · cases stepTo
  | runRx =>
      simp only [step, runRx] at stepTo
      repeat' split at stepTo
      all_goals cases stepTo
      all_goals first | exact at_k | exact spawned _
  | allocate i | spurious i | woken i | write i | commit i | release i =>
      have others (new : Task E) : (channel.tasks.set i new)[k]? = some kept := by
        rw [List.getElem?_set_ne fun same => ne (congrArg some same), at_k]
      simp only [step] at stepTo
      repeat' split at stepTo
      all_goals cases stepTo
      all_goals first | exact others _ | exact at_k
  | _ =>
      simp only [step] at stepTo
      repeat' split at stepTo
      all_goals cases stepTo
      all_goals first | exact at_k | exact spawned _

end Others

end ChannelCore

end Mgnp
