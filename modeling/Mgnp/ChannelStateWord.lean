import Mgnp.ChannelDisconnect
import Mgnp.PipeHandles

/-!
# The state word of a channel

The channel of `ChannelCore` has its `state` as two flags and a number.  In the source
they are packed into a `usize`, whose counter has three bits less.  The operations on the
word do what the channel says as long as the counter has room for the sender handles.
-/

namespace Mgnp

namespace ChannelCore

open LabelledRuns PositionWord PackedCounter PipeHandles

variable {T E : Type*} {width : PointerWidth} {capacity : Nat} {claimed : Bool}
  {channel next : Channel T E} {word : BitVec (usizeBits width)} {events : List (Event T E)}

/-- `RX_CLAIMED`, `ERRORING` and `ERRORED`. -/
def stateFlags (claimed erroring errored : Bool) : Nat :=
  claimed.toNat + 2 * erroring.toNat + 4 * errored.toNat

theorem stateFlags_claimed : ∀ claimed : Bool,
    0 ||| claimed.toNat = stateFlags claimed false false := by
  decide

theorem stateFlags_erroring : ∀ claimed erroring errored : Bool,
    stateFlags claimed erroring errored ||| 2 = stateFlags claimed true errored := by
  decide

theorem stateFlags_errored : ∀ claimed erroring errored : Bool,
    stateFlags claimed erroring errored ||| 4 = stateFlags claimed erroring true := by
  decide

/-- The word holds the flags and the count.  No step of the channel uses `RX_CLAIMED`. -/
def StateBits.InWord (claimed : Bool) (bits : StateBits) (word : BitVec (usizeBits width)) :
    Prop :=
  Packs txShift word (stateFlags claimed bits.erroring bits.errored) bits.txCnt

/-- What the step of a task does to the word. -/
def Pc.onWord (width : PointerWidth) (word : BitVec (usizeBits width)) :
    Pc E → BitVec (usizeBits width)
  | .droppingTx => word - txOne width
  | .erroring _ => word ||| PipeHandles.erroring width
  | .settingErrored => word ||| PipeHandles.errored width
  | _ => word

/-- What a step does to the word. -/
def Channel.onWord (channel : Channel T E) (word : BitVec (usizeBits width)) :
    Action T E → BitVec (usizeBits width)
  | .cloneTx _ _ => word + txOne width
  | .run i =>
      match channel.tasks[i]? with
      | some task => task.pc.onWord width word
      | none => word
  | _ => word

/-- A step of a channel whose state is in a word. -/
def wordStep (width : PointerWidth) (state : Channel T E × BitVec (usizeBits width))
    (action : Action T E) :
    Option ((Channel T E × BitVec (usizeBits width)) × List (Event T E)) :=
  (step width state.1 action).map fun outcome =>
    ((outcome.1, state.1.onWord state.2 action), outcome.2)

/-- The sender handles, with those whose `drop_tx` has not subtracted yet. -/
def Channel.countedTx (channel : Channel T E) : Nat :=
  channel.handles.length + channel.tasks.countP (·.pc.dropsTx)

/-- A sender is cloned only while `TX_CNT` has room for one more. -/
def HasRoom (width : PointerWidth) (state : Channel T E × BitVec (usizeBits width)) :
    Action T E → Prop
  | .cloneTx _ _ => state.1.countedTx + 1 < 2 ^ (usizeBits width - txShift)
  | _ => True

instance (width : PointerWidth) (state : Channel T E × BitVec (usizeBits width))
    (action : Action T E) : Decidable (HasRoom width state action) :=
  match action with
  | .cloneTx _ _ => inferInstanceAs (Decidable (_ < _))
  | .reserve _ _ | .closeWithError _ _ | .dropTx _ | .dropRx | .tryRecv | .run _
  | .allocate _ _ | .spurious _ | .woken _ | .write _ _ | .commit _ | .release _ | .runRx
  | .spuriousRx => isTrue trivial

section Words

theorem inWord_new (claimed : Bool) :
    (Core.new width capacity : Core E).state.InWord claimed
      (txOne width ||| BitVec.ofNat _ claimed.toNat) := by
  have fits : txShift < usizeBits width := by cases width <;> decide
  have set := (packs_one fits).or fits claimed.toNat (by cases claimed <;> decide)
  rwa [stateFlags_claimed] at set

/-- `fetch_or(ERRORING)`. -/
theorem StateBits.InWord.setErroring {bits : StateBits} (inWord : bits.InWord claimed word) :
    { bits with erroring := true }.InWord claimed (word ||| PipeHandles.erroring width) := by
  have set := Packs.or inWord (by cases width <;> decide) 2 (by decide)
  rwa [stateFlags_erroring] at set

/-- `fetch_or(ERRORED)`. -/
theorem StateBits.InWord.setErrored {bits : StateBits} (inWord : bits.InWord claimed word) :
    { bits with errored := true }.InWord claimed (word ||| PipeHandles.errored width) := by
  have set := Packs.or inWord (by cases width <;> decide) 4 (by decide)
  rwa [stateFlags_errored] at set

/-- `drop_tx` sees that it drops the last sender. -/
theorem StateBits.InWord.last_iff {bits : StateBits} (inWord : bits.InWord claimed word) :
    (word >>> txShift).toNat = 1 ↔ bits.txCnt = 1 := by
  rw [Packs.shift_toNat inWord]

theorem runTask_onWord {task : Task E} {i : Nat}
    (inWord : channel.core.state.InWord claimed word)
    (counted : task.pc.dropsTx = true → 0 < channel.core.state.txCnt)
    (ran : runTask width channel i task = some (next, events)) :
    next.core.state.InWord claimed (task.pc.onWord width word) := by
  have fits : txShift < usizeBits width := by cases width <;> decide
  obtain ⟨handle, pc⟩ := task
  cases pc with
  | droppingTx =>
      obtain ⟨count, isSucc⟩ := Nat.exists_eq_succ_of_ne_zero (counted rfl).ne'
      simp only [runTask] at ran
      cases ran
      unfold StateBits.InWord at inWord ⊢
      rw [isSucc] at inWord
      change Packs txShift (word - txOne width) _ (channel.core.state.txCnt - 1)
      rw [isSucc]
      exact Packs.sub_one inWord fits
  | erroring error =>
      simp only [runTask] at ran
      split at ran <;> cases ran <;> exact inWord.setErroring
  | settingErrored =>
      simp only [runTask] at ran
      cases ran
      exact inWord.setErrored
  | _ =>
      simp only [runTask] at ran
      repeat' split at ran
      all_goals cases ran
      all_goals exact inWord

theorem runRx_state (ran : runRx width channel = some (next, events)) :
    next.core.state = channel.core.state := by
  simp only [runRx] at ran
  repeat' split at ran
  all_goals cases ran
  all_goals rfl

theorem SenderInv.counted (senders : SenderInv channel) {i : Nat} {task : Task E}
    (at_i : channel.tasks[i]? = some task) (drops : task.pc.dropsTx = true) :
    0 < channel.core.state.txCnt := by
  have member := List.mem_of_getElem? at_i
  have positive : 0 < channel.tasks.countP (·.pc.dropsTx) :=
    List.countP_pos_iff.mpr ⟨task, member, drops⟩
  rw [senders.count]
  omega

/-- A step does to the word what it does to the channel. -/
theorem step_onWord {action : Action T E} (inWord : channel.core.state.InWord claimed word)
    (senders : SenderInv channel) (room : HasRoom width (channel, word) action)
    (stepTo : step width channel action = some (next, events)) :
    next.core.state.InWord claimed (channel.onWord word action) := by
  cases action with
  | cloneTx handle copy =>
      have counted : channel.core.state.txCnt + 1 < 2 ^ (usizeBits width - txShift) := by
        rw [senders.count]
        exact room
      simp only [step] at stepTo
      split at stepTo <;> cases stepTo
      exact Packs.add_one inWord (by cases width <;> decide) counted
  | run i =>
      simp only [step] at stepTo
      split at stepTo
      · rename_i task at_i
        simp only [Channel.onWord, at_i]
        exact runTask_onWord inWord (senders.counted at_i) stepTo
      · cases stepTo
  | runRx =>
      simp only [Channel.onWord]
      rw [runRx_state stepTo]
      exact inWord
  | _ =>
      simp only [step] at stepTo
      repeat' split at stepTo
      all_goals cases stepTo
      all_goals exact inWord

/-- In every run whose clones leave room in `TX_CNT`, the word holds the state of the
channel, and its counter is the number of senders. -/
theorem state_in_word {history : List (Event T E)} {final : Channel T E × BitVec (usizeBits width)}
    (run : Run (wordStep width) (HasRoom width)
      (Channel.new width capacity, txOne width ||| BitVec.ofNat _ claimed.toNat) history final) :
    final.1.core.state.InWord claimed final.2 ∧
      (final.2 >>> txShift).toNat = final.1.countedTx := by
  have kept : (ClosingInv final.1 ∧ SenderInv final.1) ∧
      final.1.core.state.InWord claimed final.2 := by
    refine run.stateInvariant (fun state => (ClosingInv state.1 ∧ SenderInv state.1) ∧
      state.1.core.state.InWord claimed state.2)
      ⟨⟨closingInv_new, senderInv_new⟩, inWord_new claimed⟩ ?_
    intro events state next action invariant room stepTo
    obtain ⟨⟨closing, senders⟩, inWord⟩ := invariant
    obtain ⟨outcome, stepsTo, found⟩ := Option.map_eq_some_iff.mp stepTo
    cases found
    have transition := step_transition stepsTo
    exact ⟨⟨closingInv_transition closing transition,
      senderInv_transition closing senders transition⟩,
      step_onWord inWord senders room stepsTo⟩
  exact ⟨kept.2, (Packs.shift_toNat kept.2).trans kept.1.2.count⟩

end Words

end ChannelCore

end Mgnp
