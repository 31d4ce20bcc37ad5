import Mgnp.LabelledRuns
import Mgnp.PlugTail

/-!
# The handles of an `ArcPlugTail`

This file translates `clone`, `drop`, `storage`, `leak` and `unleak` of `ArcPlugTail`.
Every access to the block is one step, so a run is an interleaving of the handles of any
number of threads.  Only the `drop` that finds the count at one goes on, through the steps
of the slow path.

A handle is a number, and so is a leaked pointer.  Taking a leaked pointer back consumes
it, so each is taken back at most once.
-/

namespace Mgnp

namespace PlugTail

open LabelledRuns

/-- Where the slow path of a `drop` stands.  Each constructor but the last names its next
access to the block. -/
inductive SlowDrop
  /-- Before `self.storage()`. -/
  | storage
  /-- Before `body_drop` of the slice that `storage` formed. -/
  | bodyDrop (len : Nat)
  /-- Before `drop_in_place`, with the length of the slice. -/
  | dropInPlace (n : Nat)
  | dealloc (n : Nat)
  | done
  deriving DecidableEq

/-- The allocated block with everything that refers to it. -/
structure Block where
  strong : Nat
  len : Nat
  /-- Whether the block has been deallocated. -/
  freed : Bool
  /-- The live handles. -/
  handles : List Nat
  /-- The pointers returned by `leak` and not taken back. -/
  leaked : List Nat
  /-- The slow paths that have been entered. -/
  drops : List SlowDrop

inductive Event
  | bodyDropped (len : Nat)
  /-- The destructor of the header has run. -/
  | hdrDropped
  /-- The block has been deallocated with `layout(n)`. -/
  | deallocated (n : Nat)
  /-- An access to the block after it was deallocated. -/
  | touchedFreed
  deriving DecidableEq

inductive Action
  | clone (handle copy : Nat)
  | drop (handle : Nat)
  /-- The next step of a slow path. -/
  | runDrop (index : Nat)
  | leak (handle : Nat)
  | unleak (pointer : Nat)
  /-- `storage` of a handle, or an access through the `PlugDat` that it returned. -/
  | storage (handle : Nat)

/-- `ArcPlugTail::new` with a tail of `n` items. -/
def Block.new (n : Nat) : Block where
  strong := 1
  len := n
  freed := false
  handles := [0]
  leaked := []
  drops := []

/-- What an access to the block reveals by itself. -/
def Block.touch (block : Block) : List Event :=
  if block.freed then [.touchedFreed] else []

/-- The next step of a slow path. -/
def Block.runDrop (block : Block) : SlowDrop → Option (SlowDrop × Block × List Event)
  | .storage => some (.bodyDrop block.len, block, block.touch)
  | .bodyDrop len => some (.dropInPlace len, block, block.touch ++ [.bodyDropped len])
  | .dropInPlace n => some (.dealloc n, block, block.touch ++ [.hdrDropped])
  | .dealloc n => some (.done, { block with freed := true }, block.touch ++ [.deallocated n])
  | .done => none

/-- One step of the block under the chosen action, with a count of `bits` bits. -/
def step (bits : Nat) (block : Block) : Action → Option (Block × List Event)
  | .clone handle copy =>
      if handle ∈ block.handles ∧ copy ∉ block.handles ∧ copy ∉ block.leaked then
        some ({ block with
          strong := (block.strong + 1) % 2 ^ bits
          handles := block.handles ++ [copy] }, block.touch)
      else none
  | .drop handle =>
      if handle ∈ block.handles then
        let next := { block with
          strong := (block.strong + (2 ^ bits - 1)) % 2 ^ bits
          handles := block.handles.erase handle }
        if block.strong > 1 then some (next, block.touch)
        else some ({ next with drops := block.drops ++ [.storage] }, block.touch)
      else none
  | .runDrop index =>
      match block.drops[index]? with
      | some pc =>
          (block.runDrop pc).map fun (pc, next, events) =>
            ({ next with drops := block.drops.set index pc }, events)
      | none => none
  | .leak handle =>
      if handle ∈ block.handles then
        some ({ block with
          handles := block.handles.erase handle
          leaked := block.leaked ++ [handle] }, [])
      else none
  | .unleak pointer =>
      if pointer ∈ block.leaked then
        some ({ block with
          handles := block.handles ++ [pointer]
          leaked := block.leaked.erase pointer }, [])
      else none
  | .storage handle =>
      if handle ∈ block.handles then some (block, block.touch) else none

/-- The handles and the leaked pointers, each of which holds one count. -/
def Block.outstanding (block : Block) : Nat :=
  block.handles.length + block.leaked.length

/-- The count does not overflow: a clone leaves fewer than `2 ^ bits` outstanding. -/
def outstandingFits (bits : Nat) (block : Block) : Action → Prop
  | .clone _ _ => block.outstanding + 1 < 2 ^ bits
  | _ => True

instance (bits : Nat) (block : Block) (action : Action) :
    Decidable (outstandingFits bits block action) :=
  match action with
  | .clone _ _ => inferInstanceAs (Decidable (_ < _))
  | .drop _ | .runDrop _ | .leak _ | .unleak _ | .storage _ => isTrue trivial

def Event.tearsDown : Event → Bool
  | .touchedFreed => false
  | _ => true

/-- What has happened to the contents and the memory of the block. -/
def teardown (history : List Event) : List Event :=
  history.filter Event.tearsDown

/-- How far the slow path has come, what it has done and whether the block is freed. -/
inductive Stage (n : Nat) : SlowDrop → List Event → Bool → Prop
  | storage : Stage n .storage [] false
  | bodyDrop : Stage n (.bodyDrop n) [] false
  | dropInPlace : Stage n (.dropInPlace n) [.bodyDropped n] false
  | dealloc : Stage n (.dealloc n) [.bodyDropped n, .hdrDropped] false
  | done : Stage n .done [.bodyDropped n, .hdrDropped, .deallocated n] true

/-- The block of somebody who holds a count, or the one slow path of a block without. -/
structure Counted (bits n : Nat) (history : List Event) (block : Block) : Prop where
  len : block.len = n
  strong : block.strong = block.outstanding
  fits : block.outstanding < 2 ^ bits
  untouched : .touchedFreed ∉ history
  phase : (0 < block.outstanding ∧ block.drops = [] ∧ teardown history = [] ∧
      block.freed = false) ∨
    (block.outstanding = 0 ∧ ∃ pc, block.drops = [pc] ∧
      Stage n pc (teardown history) block.freed)

section Counting

variable {bits n : Nat} {block next : Block} {history events : List Event}

theorem counted_new (bitsPos : 0 < bits) : Counted bits n [] (Block.new n) where
  len := rfl
  strong := rfl
  fits := Nat.one_lt_two_pow bitsPos.ne'
  untouched := List.not_mem_nil
  phase := .inl ⟨Nat.one_pos, rfl, rfl, rfl⟩

/-- Whoever holds a count finds the block as it was allocated. -/
theorem Counted.alive (counted : Counted bits n history block)
    (holds : 0 < block.outstanding) :
    block.drops = [] ∧ teardown history = [] ∧ block.freed = false := by
  rcases counted.phase with ⟨-, alive⟩ | ⟨none, -⟩
  · exact alive
  · omega

theorem Block.outstanding_pos_of_handle {handle : Nat} (live : handle ∈ block.handles) :
    0 < block.outstanding :=
  Nat.add_pos_left (List.length_pos_of_mem live) _

theorem Counted.touch_eq_nil (counted : Counted bits n history block)
    (holds : 0 < block.outstanding) : block.touch = [] := by
  simp [Block.touch, (counted.alive holds).2.2]

/-- A step of somebody who holds a count, after which `count` are held. -/
theorem Counted.keep (counted : Counted bits n history block)
    (holds : 0 < block.outstanding) {count : Nat} (outstanding : next.outstanding = count)
    (strong : next.strong = count) (positive : 0 < count) (fits : count < 2 ^ bits)
    (len : next.len = block.len) (drops : next.drops = block.drops)
    (freed : next.freed = block.freed) : Counted bits n history next := by
  obtain ⟨noDrops, intact, alive⟩ := counted.alive holds
  subst outstanding
  exact ⟨len.trans counted.len, strong, fits, counted.untouched,
    .inl ⟨positive, drops.trans noDrops, intact, freed.trans alive⟩⟩

/-- The last count is given up, and its `drop` takes the slow path. -/
theorem Counted.last (counted : Counted bits n history block)
    (holds : 0 < block.outstanding) (len : next.len = block.len)
    (strong : next.strong = 0) (none : next.outstanding = 0)
    (drops : next.drops = block.drops ++ [.storage]) (freed : next.freed = block.freed) :
    Counted bits n history next := by
  obtain ⟨noDrops, intact, alive⟩ := counted.alive holds
  refine ⟨len.trans counted.len, strong.trans none.symm, ?_, counted.untouched,
    .inr ⟨none, .storage, ?_, ?_⟩⟩
  · rw [none]
    exact Nat.two_pow_pos bits
  · rw [drops, noDrops]
    rfl
  · rw [intact, freed, alive]
    exact .storage

theorem length_erase_add_one {names : List Nat} {name : Nat} (member : name ∈ names) :
    (names.erase name).length + 1 = names.length := by
  have some := List.length_pos_of_mem member
  rw [List.length_erase_of_mem member]
  omega

/-- `fetch_sub` on a count that is held. -/
theorem fetchSub_eq {count : Nat} (positive : 0 < count) (fits : count < 2 ^ bits) :
    (count + (2 ^ bits - 1)) % 2 ^ bits = count - 1 := by
  have wraps : count + (2 ^ bits - 1) = count - 1 + 2 ^ bits := by omega
  rw [wraps, Nat.add_mod_right, Nat.mod_eq_of_lt (by omega)]

theorem Counted.drop (counted : Counted bits n history block) {handle : Nat}
    (stepTo : step bits block (.drop handle) = some (next, events)) :
    Counted bits n (history ++ events) next := by
  simp only [step] at stepTo
  split at stepTo
  · rename_i live
    have holds := Block.outstanding_pos_of_handle live
    have fits := counted.fits
    have left : (block.handles.erase handle).length + block.leaked.length =
        block.outstanding - 1 := by
      have erased := length_erase_add_one live
      simp only [Block.outstanding]
      omega
    have fetchSub : (block.strong + (2 ^ bits - 1)) % 2 ^ bits = block.outstanding - 1 := by
      rw [counted.strong]
      exact fetchSub_eq holds fits
    rw [counted.touch_eq_nil holds] at stepTo
    split at stepTo
    · rename_i others
      rw [counted.strong] at others
      cases stepTo
      rw [List.append_nil]
      exact counted.keep holds left fetchSub (by omega) (by omega) rfl rfl rfl
    · rename_i only
      rw [counted.strong] at only
      have none : block.outstanding - 1 = 0 := by omega
      cases stepTo
      rw [List.append_nil]
      exact counted.last holds rfl (fetchSub.trans none) (left.trans none) rfl rfl
  · cases stepTo

/-- A step of the slow path touches a block that is not freed and does the next thing. -/
theorem Stage.runDrop {pc after : SlowDrop}
    (stage : Stage n pc (teardown history) block.freed) (len : block.len = n)
    (ran : block.runDrop pc = some (after, next, events)) :
    Stage n after (teardown (history ++ events)) next.freed ∧ .touchedFreed ∉ events ∧
      ∃ freed, next = { block with freed := freed } := by
  have appended : teardown (history ++ events) = teardown history ++ teardown events :=
    List.filter_append ..
  have quiet : block.freed = false → block.touch = [] := fun alive => by
    simp [Block.touch, alive]
  subst len
  rw [appended]
  generalize teardown history = past at stage
  generalize freedEq : block.freed = freed at stage
  cases stage with
  | storage =>
      cases ran
      rw [quiet freedEq, freedEq]
      exact ⟨.bodyDrop, List.not_mem_nil, block.freed, rfl⟩
  | bodyDrop =>
      cases ran
      rw [quiet freedEq, freedEq]
      exact ⟨.dropInPlace, by simp, block.freed, rfl⟩
  | dropInPlace =>
      cases ran
      rw [quiet freedEq, freedEq]
      exact ⟨.dealloc, by simp, block.freed, rfl⟩
  | dealloc =>
      cases ran
      rw [quiet freedEq]
      exact ⟨.done, by simp, true, rfl⟩
  | done => cases ran

theorem Counted.runDrop (counted : Counted bits n history block) {index : Nat}
    (stepTo : step bits block (.runDrop index) = some (next, events)) :
    Counted bits n (history ++ events) next := by
  simp only [step] at stepTo
  split at stepTo
  · rename_i pc at_index
    obtain ⟨⟨after, moved, reported⟩, ran, same⟩ := Option.map_eq_some_iff.mp stepTo
    cases same
    rcases counted.phase with ⟨-, noDrops, -⟩ | ⟨none, only, drops, stage⟩
    · rw [noDrops] at at_index
      cases at_index
    · rw [drops] at at_index
      obtain ⟨rfl, rfl⟩ : index = 0 ∧ only = pc := by
        simpa [List.getElem?_singleton] using at_index
      obtain ⟨goesOn, quiet, freed, rfl⟩ := stage.runDrop counted.len ran
      refine ⟨counted.len, counted.strong, counted.fits, ?_, .inr ⟨none, after, ?_, goesOn⟩⟩
      · rw [List.mem_append, not_or]
        exact ⟨counted.untouched, quiet⟩
      · rw [drops]
        rfl
  · cases stepTo

theorem Counted.clone (counted : Counted bits n history block) {handle copy : Nat}
    (room : block.outstanding + 1 < 2 ^ bits)
    (stepTo : step bits block (.clone handle copy) = some (next, events)) :
    Counted bits n (history ++ events) next := by
  simp only [step] at stepTo
  split at stepTo
  · rename_i live
    have holds := Block.outstanding_pos_of_handle live.1
    have cloned : (block.handles ++ [copy]).length + block.leaked.length =
        block.outstanding + 1 := by
      simp only [Block.outstanding, List.length_append, List.length_singleton]
      omega
    have fetchAdd : (block.strong + 1) % 2 ^ bits = block.outstanding + 1 := by
      rw [counted.strong, Nat.mod_eq_of_lt room]
    rw [counted.touch_eq_nil holds] at stepTo
    cases stepTo
    rw [List.append_nil]
    exact counted.keep holds cloned fetchAdd (Nat.succ_pos _) room rfl rfl rfl
  · cases stepTo

/-- `leak` and `unleak` pass the count on between a handle and a pointer. -/
theorem Counted.passOn (counted : Counted bits n history block) {handles leaked : List Nat}
    (holds : 0 < block.outstanding)
    (moved : handles.length + leaked.length = block.outstanding) :
    Counted bits n (history ++ []) { block with handles := handles, leaked := leaked } := by
  rw [List.append_nil]
  exact counted.keep holds moved counted.strong holds counted.fits rfl rfl rfl

/-- Every step keeps the count and the order of the teardown. -/
theorem Counted.step (counted : Counted bits n history block) {action : Action}
    (admitted : outstandingFits bits block action)
    (stepTo : step bits block action = some (next, events)) :
    Counted bits n (history ++ events) next := by
  cases action with
  | clone handle copy => exact counted.clone admitted stepTo
  | drop handle => exact counted.drop stepTo
  | runDrop index => exact counted.runDrop stepTo
  | leak handle =>
      simp only [PlugTail.step] at stepTo
      split at stepTo
      · rename_i live
        cases stepTo
        refine counted.passOn (Block.outstanding_pos_of_handle live) ?_
        have erased := length_erase_add_one live
        simp only [Block.outstanding, List.length_append, List.length_singleton]
        omega
      · cases stepTo
  | unleak pointer =>
      simp only [PlugTail.step] at stepTo
      split at stepTo
      · rename_i leaked
        cases stepTo
        refine counted.passOn (Nat.add_pos_right _ (List.length_pos_of_mem leaked)) ?_
        have erased := length_erase_add_one leaked
        simp only [Block.outstanding, List.length_append, List.length_singleton]
        omega
      · cases stepTo
  | storage handle =>
      simp only [PlugTail.step] at stepTo
      split at stepTo
      · rename_i live
        rw [counted.touch_eq_nil (Block.outstanding_pos_of_handle live)] at stepTo
        cases stepTo
        rw [List.append_nil]
        exact counted
      · cases stepTo

/-- The slow path does these things, in this order. -/
theorem Stage.done_isPrefix {pc : SlowDrop} {done : List Event} {freed : Bool}
    (stage : Stage n pc done freed) :
    done <+: [.bodyDropped n, .hdrDropped, .deallocated n] := by
  cases stage with
  | storage | bodyDrop => exact List.nil_prefix
  | dropInPlace => exact ⟨[.hdrDropped, .deallocated n], rfl⟩
  | dealloc => exact ⟨[.deallocated n], rfl⟩
  | done => exact List.prefix_rfl

end Counting

/-- In every run in which the count does not overflow, `strong` is the number of live
handles and leaked pointers.  The items are dropped, the header is dropped and the block is
deallocated in this order, each at most once, with the length that the block was allocated
with, and only while no handle or leaked pointer is left.  No freed block is touched. -/
theorem block_torn_down_once (platform : Platform) {n : Nat} {history : List Event}
    {final : Block}
    (run : Run (step platform.bits) (outstandingFits platform.bits) (Block.new n)
      history final) :
    final.strong = final.handles.length + final.leaked.length ∧
      teardown history <+: [.bodyDropped n, .hdrDropped, .deallocated n] ∧
      (teardown history ≠ [] → final.handles = [] ∧ final.leaked = []) ∧
      .touchedFreed ∉ history := by
  have counted : Counted platform.bits n history final :=
    run.invariant (Counted platform.bits n) (counted_new platform.bits_pos)
      fun holds admitted stepTo => holds.step admitted stepTo
  refine ⟨counted.strong, ?_, ?_, counted.untouched⟩
  · rcases counted.phase with ⟨-, -, intact, -⟩ | ⟨-, pc, -, stage⟩
    · rw [intact]
      exact List.nil_prefix
    · exact stage.done_isPrefix
  · intro begun
    rcases counted.phase with ⟨-, -, intact, -⟩ | ⟨none, -⟩
    · exact absurd intact begun
    · simp only [Block.outstanding, Nat.add_eq_zero_iff, List.length_eq_zero_iff] at none
      exact none

/-- A handle is cloned, the clone is leaked and the first handle is dropped.  The leaked
pointer is taken back, used and dropped. -/
theorem block_torn_down_once_unleaked :
    ∃ (history : List Event) (final : Block),
      Run (step platform64.bits) (outstandingFits platform64.bits) (Block.new 3)
        history final ∧
      history = [.bodyDropped 3, .hdrDropped, .deallocated 3] ∧
      final.strong = final.handles.length + final.leaked.length ∧
      final.handles = [] ∧ final.leaked = [] := by
  obtain ⟨history, final, run, rfl⟩ :=
    exists_run_of_exec (step platform64.bits) (outstandingFits platform64.bits)
      (Block.new 3) [.clone 0 1, .storage 1, .leak 1, .drop 0, .unleak 1, .storage 1, .drop 1,
        .runDrop 0, .runDrop 0, .runDrop 0, .runDrop 0]
      Prod.snd
      (show _ = some [.bodyDropped 3, .hdrDropped, .deallocated 3] by decide +kernel)
  obtain ⟨strong, -, emptied, -⟩ := block_torn_down_once platform64 run
  exact ⟨_, final, run, rfl, strong, emptied (by decide)⟩

end PlugTail

end Mgnp
