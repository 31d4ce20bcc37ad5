import Mgnp.PipeTransitions

/-!
# The two counts of a tricky-pipe

The strong count of a heap-backed pipe's `Arc` counts its handles, and the
`TX_CNT` field of its state word counts the handles that send.  The first
relies on every downcast naming the right type, since `typed` drops the pointer
that it rejects.  The second relies on nobody asking a static pipe for a
deserializing sender, which it does not count.
-/

namespace Mgnp

namespace PipeHandles

open PositionWord PackedCounter LabelledRuns

variable {width : PointerWidth} {Ty E : Type*} {pipe next : Pipe width Ty E}
  {action : Action Ty E} {history events : List Event}

section StrongCount

/-- What the strong count of a heap-backed pipe has left of its handles. -/
structure Pipe.Balanced (history : List Event) (pipe : Pipe width Ty E) : Prop where
  heap : pipe.backing = .arc
  balance : pipe.strong + history.count .downcastFailed = pipe.handles.length
  freed : pipe.freed = true ↔ pipe.strong = 0

theorem balanced_new (typeId : Ty) :
    (Pipe.new .arc typeId : Pipe width Ty E).Balanced [] where
  heap := rfl
  balance := rfl
  freed := by simp [Pipe.new]

theorem Pipe.Balanced.setCore (before : pipe.Balanced history) (core : Core width E) :
    ({ pipe with core := core } : Pipe width Ty E).Balanced history :=
  ⟨before.heap, before.balance, before.freed⟩

/-- Events other than a failed downcast do not matter. -/
theorem Pipe.Balanced.report (before : pipe.Balanced history)
    (silent : events.count .downcastFailed = 0) : pipe.Balanced (history ++ events) where
  heap := before.heap
  balance := by rw [List.count_append, silent, Nat.add_zero, before.balance]
  freed := before.freed

theorem Pipe.Balanced.grant (before : pipe.Balanced history) (live : pipe.freed = false)
    (kind : Handle) : (pipe.grant kind).Balanced history where
  heap := by simp [Pipe.grant, Pipe.erasedClone, before.heap]
  balance := by
    have balance := before.balance
    simp only [Pipe.grant, Pipe.erasedClone, before.heap, List.length_append,
      List.length_singleton]
    omega
  freed := by simp [Pipe.grant, Pipe.erasedClone, before.heap, live]

theorem Pipe.Balanced.convert (before : pipe.Balanced history) (handle : Nat) (into : Handle) :
    (pipe.convert handle into).Balanced history where
  heap := before.heap
  balance := by
    simp only [Pipe.convert, List.length_set]
    exact before.balance
  freed := before.freed

/-- A pipe that has not been freed has a reference. -/
theorem Pipe.Balanced.strong_pos (before : pipe.Balanced history) (live : pipe.freed = false) :
    0 < pipe.strong := by
  rw [Nat.pos_iff_ne_zero]
  intro none
  rw [before.freed.mpr none] at live
  contradiction

theorem Pipe.Balanced.release (before : pipe.Balanced history) (live : pipe.freed = false)
    {handle : Nat} {kind : Handle} (found : pipe.handles[handle]? = some kind) :
    (pipe.release handle).Balanced history where
  heap := by simp [Pipe.release, Pipe.erasedDrop, before.heap]
  balance := by
    have balance := before.balance
    have strongPos := before.strong_pos live
    obtain ⟨inside, -⟩ := List.getElem?_eq_some_iff.mp found
    simp only [Pipe.release, Pipe.erasedDrop, before.heap, List.length_eraseIdx_of_lt inside]
    omega
  freed := by
    have strongPos := before.strong_pos live
    simp only [Pipe.release, Pipe.erasedDrop, before.heap, beq_iff_eq]
    omega

theorem Pipe.Balanced.downcastFailed (before : pipe.Balanced history)
    (live : pipe.freed = false) :
    pipe.erasedDrop.Balanced (history ++ [.downcastFailed]) where
  heap := by simp [Pipe.erasedDrop, before.heap]
  balance := by
    have balance := before.balance
    have strongPos := before.strong_pos live
    simp only [Pipe.erasedDrop, before.heap, List.count_append, List.count_singleton_self]
    omega
  freed := by
    have strongPos := before.strong_pos live
    simp only [Pipe.erasedDrop, before.heap, beq_iff_eq]
    omega

theorem Pipe.Balanced.move (before : pipe.Balanced history) (live : pipe.freed = false)
    (move : pipe.Move action next events) : next.Balanced (history ++ events) := by
  cases move with
  | added kind sends adds reached =>
      exact ((before.setCore pipe.core.addTx).grant live kind).report rfl
  | uncounted through called isStatic =>
      rw [before.heap] at isStatic
      contradiction
  | claimed kind receives =>
      dsimp only [Pipe.claimReceiver]
      split
      · exact ((before.setCore pipe.core.tryClaimRx.1).grant live kind).report rfl
      · exact (before.setCore pipe.core.tryClaimRx.1).report rfl
  | converted handle old into found same => exact (before.convert handle into).report rfl
  | downcastFailed handle typ called mismatch => exact before.downcastFailed live
  | erred error =>
      refine (before.setCore (pipe.core.closeWithError error).1).report ?_
      dsimp only [Pipe.closeWithError]
      split <;> rfl
  | droppedSender handle kind found sends =>
      refine ((before.setCore pipe.core.dropTx.1).release live found).report ?_
      dsimp only [Pipe.dropSender]
      split <;> rfl
  | droppedReceiver handle kind found receives =>
      exact ((before.setCore pipe.core.closeRx).release live found).report rfl

/-- No call downcasts a handle to a type that the pipe does not carry. -/
def Pipe.NamesType (pipe : Pipe width Ty E) : Action Ty E → Prop
  | .downcast _ typ => typ = pipe.typeId
  | _ => True

/-- A call that names the right type does not fail. -/
theorem Pipe.Move.not_failed (move : pipe.Move action next events)
    (names : pipe.NamesType action) : .downcastFailed ∉ events := by
  cases move with
  | downcastFailed handle typ called mismatch =>
      subst called
      exact absurd names mismatch
  | claimed kind receives =>
      dsimp only [Pipe.claimReceiver]
      split <;> simp
  | erred error =>
      dsimp only [Pipe.closeWithError]
      split <;> simp
  | droppedSender handle kind found sends =>
      dsimp only [Pipe.dropSender]
      split <;> simp
  | _ => exact List.not_mem_nil

variable [DecidableEq Ty]

/-- In every run, failed downcasts are all that separates the strong count from
the number of handles. -/
theorem Pipe.balanced_of_run {typeId : Ty} {final : Pipe width Ty E}
    {admits : Pipe width Ty E → Action Ty E → Prop}
    (run : Run Pipe.step admits (Pipe.new .arc typeId) history final) :
    final.Balanced history := by
  refine run.invariant Pipe.Balanced (balanced_new typeId) fun before _ stepTo => ?_
  obtain ⟨live, move⟩ := Pipe.step_move stepTo
  exact before.move live move

instance (pipe : Pipe width Ty E) (action : Action Ty E) : Decidable (pipe.NamesType action) :=
  match action with
  | .downcast _ typ => inferInstanceAs (Decidable (typ = pipe.typeId))
  | .sender _ | .deserSender _ | .receiver _ | .serReceiver _ | .clone _ | .intoSerde _
  | .intoErased _ | .closeWithError _ _ | .drop _ => inferInstanceAs (Decidable True)

/-- The strong count is the number of live handles, and the shared state is
freed exactly when there is none. -/
def Pipe.FreedWithLast (pipe : Pipe width Ty E) : Prop :=
  pipe.strong = pipe.handles.length ∧ (pipe.freed = true ↔ pipe.handles = [])

/-- Where no downcast names a wrong type, the strong count of a heap-backed
pipe is the number of its handles, so its state is freed with the last. -/
theorem strong_count_of_handles {typeId : Ty} {final : Pipe width Ty E}
    (run : Run Pipe.step Pipe.NamesType (Pipe.new .arc typeId) history final) :
    final.FreedWithLast := by
  have balanced := Pipe.balanced_of_run run
  have unfailed : .downcastFailed ∉ history := by
    refine run.invariant (fun past _ => .downcastFailed ∉ past) List.not_mem_nil
      fun {past} _ _ _ _ none names stepTo => ?_
    have fresh := (Pipe.step_move stepTo).2.not_failed names
    simp [none, fresh]
  have balance := balanced.balance
  rw [List.count_eq_zero.mpr unfailed, Nat.add_zero] at balance
  refine ⟨balance, ?_⟩
  rw [balanced.freed, balance, List.length_eq_zero_iff]

/-- Four handles are made, converted both ways and dropped, and the last one
frees the state. -/
theorem strong_count_allDropped :
    ∃ history final,
      Run Pipe.step Pipe.NamesType (Pipe.new .arc 0 : Pipe .bits64 Nat Unit) history final ∧
      (final.freed, final.strong) = (true, 0) ∧ final.FreedWithLast := by
  obtain ⟨history, final, run, ends⟩ := exists_run_of_exec Pipe.step Pipe.NamesType
    (Pipe.new .arc 0 : Pipe .bits64 Nat Unit)
    [.sender (some 0), .clone 1, .intoSerde 1, .downcast 1 0, .intoErased 2,
      .serReceiver (some 0), .downcast 3 0, .drop 0, .drop 0, .drop 0, .drop 0]
    (fun (final, _) => (final.freed, final.strong)) (show _ = some (true, 0) by decide +kernel)
  exact ⟨history, final, run, ends, strong_count_of_handles run⟩

/-- A receiver survives a failed downcast without a reference, and dropping the
`TrickyPipe` then frees the state under it. -/
theorem not_freedWithLast_wrongDowncast :
    ¬ ∀ history final,
      Run Pipe.step anyStep (Pipe.new .arc 0 : Pipe .bits64 Nat Unit) history final →
        final.FreedWithLast := by
  intro always
  obtain ⟨history, final, run, ends⟩ := exists_run_of_exec Pipe.step anyStep
    (Pipe.new .arc 0 : Pipe .bits64 Nat Unit)
    [.serReceiver (some 0), .downcast 1 1, .drop 0]
    (fun (final, _) => (final.freed, final.handles))
    (show _ = some (true, [Handle.serReceiver]) by decide +kernel)
  have isFreed : final.freed = true := congrArg Prod.fst ends
  have handlesEq : final.handles = [Handle.serReceiver] := congrArg Prod.snd ends
  have none := (always history final run).2.mp isFreed
  rw [handlesEq] at none
  contradiction

end StrongCount

section SenderCount

/-- The flags of a pipe whose receiver may have been claimed and which may have
been closed with an error. -/
def flagBits (claimed erred : Bool) : Nat :=
  claimed.toNat + 6 * erred.toNat

theorem txShift_lt (width : PointerWidth) : txShift < usizeBits width := by
  cases width <;> decide

variable {core : Core width E} {claimed erred : Bool} {count : Nat}

/-- The state word has these flags and this many senders. -/
def Core.Counts (core : Core width E) (claimed erred : Bool) (count : Nat) : Prop :=
  Packs txShift core.state (flagBits claimed erred) count

theorem core_new_counts : (Core.new : Core width E).Counts false false 1 :=
  packs_one (txShift_lt width)

theorem Core.Counts.txCnt_eq (counts : core.Counts claimed erred count) :
    core.txCnt = count :=
  counts.shift_toNat

theorem Core.Counts.and_eq_zero_iff (counts : core.Counts claimed erred count) {bits : Nat}
    (bitsLt : bits < 2 ^ txShift) :
    core.state &&& BitVec.ofNat _ bits = 0 ↔ flagBits claimed erred &&& bits = 0 :=
  Packs.and_eq_zero_iff counts (txShift_lt width) bitsLt

theorem Core.Counts.or (counts : core.Counts claimed erred count) (bits : Nat)
    (bitsLt : bits < 2 ^ txShift) :
    Packs txShift (core.state ||| BitVec.ofNat _ bits) (flagBits claimed erred ||| bits) count :=
  Packs.or counts (txShift_lt width) bits bitsLt

theorem Core.Counts.rxClaimed_iff (counts : core.Counts claimed erred count) :
    core.state &&& rxClaimed width = 0 ↔ claimed = false := by
  refine (counts.and_eq_zero_iff (by decide)).trans ?_
  cases claimed <;> cases erred <;> decide

theorem Core.Counts.erroring_iff (counts : core.Counts claimed erred count) :
    core.state &&& erroring width = 0 ↔ erred = false := by
  refine (counts.and_eq_zero_iff (by decide)).trans ?_
  cases claimed <;> cases erred <;> decide

theorem Core.Counts.errored_iff (counts : core.Counts claimed erred count) :
    core.state &&& errored width = 0 ↔ erred = false := by
  refine (counts.and_eq_zero_iff (by decide)).trans ?_
  cases claimed <;> cases erred <;> decide

theorem erroring_or_errored (width : PointerWidth) :
    erroring width ||| errored width = BitVec.ofNat _ 6 := by
  cases width <;> rfl

/-- `try_claim_rx` succeeds once. -/
theorem Core.Counts.tryClaimRx (counts : core.Counts claimed erred count) :
    core.tryClaimRx.1.Counts true erred count ∧ core.tryClaimRx.2 = !claimed := by
  constructor
  · have set := counts.or 1 (by decide)
    rwa [show flagBits claimed erred ||| 1 = flagBits true erred from by
      cases claimed <;> cases erred <;> rfl] at set
  · rw [Core.tryClaimRx, Bool.eq_iff_iff, beq_iff_eq, counts.rxClaimed_iff, Bool.not_eq_true']

/-- `close_with_error` succeeds once, and then closes the channel. -/
theorem Core.Counts.closeWithError (counts : core.Counts claimed erred count) (error : E) :
    (core.closeWithError error).1.Counts claimed true count ∧
      (core.closeWithError error).2 = !erred ∧
      (core.closeWithError error).1.dequeueClosed = (core.dequeueClosed || !erred) := by
  have cantError : core.state &&& (erroring width ||| errored width) = 0 ↔ erred = false := by
    rw [erroring_or_errored]
    refine (counts.and_eq_zero_iff (by decide)).trans ?_
    cases claimed <;> cases erred <;> decide
  have refuses : (core.state &&& (erroring width ||| errored width) != 0) = erred := by
    rw [Bool.eq_iff_iff, bne_iff_ne, ne_eq, cantError, Bool.not_eq_false]
  have claims := counts.or 2 (by decide)
  rw [Core.closeWithError, refuses]
  cases erred with
  | true =>
      refine ⟨?_, rfl, (Bool.or_false _).symm⟩
      rwa [show flagBits claimed true ||| 2 = flagBits claimed true from by
        cases claimed <;> rfl] at claims
  | false =>
      refine ⟨?_, rfl, (Bool.or_true _).symm⟩
      have sets := claims.or (txShift_lt width) 4 (by decide)
      rwa [show flagBits claimed false ||| 2 ||| 4 = flagBits claimed true from by
        cases claimed <;> rfl] at sets

theorem Core.Counts.addTx (counts : core.Counts claimed erred count)
    (room : count + 1 < 2 ^ (usizeBits width - txShift)) :
    core.addTx.Counts claimed erred (count + 1) :=
  Packs.add_one counts (txShift_lt width) room

/-- `drop_tx` counts down, and closes the channel when it reaches zero. -/
theorem Core.Counts.dropTx (counts : core.Counts claimed erred (count + 1)) :
    core.dropTx.1.Counts claimed erred count ∧ core.dropTx.2 = (count == 0) ∧
      core.dropTx.1.dequeueClosed = (core.dequeueClosed || count == 0) := by
  have one : (1 : BitVec (usizeBits width)).toNat = 1 := by cases width <;> rfl
  have last : (core.state >>> txShift == 1) = (count == 0) := by
    rw [Bool.eq_iff_iff, beq_iff_eq, beq_iff_eq, ← BitVec.toNat_inj, one,
      Packs.shift_toNat counts]
    omega
  have dropped := Packs.sub_one counts (txShift_lt width)
  rw [Core.dropTx, last]
  cases count == 0 with
  | true => exact ⟨dropped, rfl, (Bool.or_true _).symm⟩
  | false => exact ⟨dropped, rfl, (Bool.or_false _).symm⟩

/-- The count, the flags and the closings of a pipe after a history. -/
structure Pipe.Tracked (history : List Event) (pipe : Pipe width Ty E) : Prop where
  counts : pipe.core.Counts (decide (.claimed ∈ history)) (decide (.erred ∈ history)) pipe.senders
  closed : pipe.core.dequeueClosed = (pipe.senders == 0 || decide (.erred ∈ history))
  closedTx : history.count .closedTx = if pipe.senders = 0 then 1 else 0

theorem tracked_new (backing : Backing) (typeId : Ty) :
    (Pipe.new backing typeId : Pipe width Ty E).Tracked [] := by
  have one : (Pipe.new backing typeId : Pipe width Ty E).senders = 1 := by
    cases backing <;> rfl
  constructor
  · rw [one]
    exact core_new_counts
  · rw [one]
    rfl
  · rw [one]
    rfl

/-- A move that leaves the state word, the closed flag and the senders. -/
theorem Pipe.Tracked.silent (before : pipe.Tracked history)
    (sameState : next.core.state = pipe.core.state)
    (sameClosed : next.core.dequeueClosed = pipe.core.dequeueClosed)
    (sameSenders : next.senders = pipe.senders)
    (quiet : ∀ event ∈ events, event = .downcastFailed) : next.Tracked (history ++ events) := by
  have unreported : ∀ event, event ≠ .downcastFailed → event ∉ events :=
    fun event ne reported => ne (quiet event reported)
  have claimed := unreported .claimed (by decide)
  have erred := unreported .erred (by decide)
  have closedTx := unreported .closedTx (by decide)
  constructor
  · simpa [Core.Counts, sameState, sameSenders, claimed, erred] using before.counts
  · simpa [sameClosed, sameSenders, erred] using before.closed
  · simpa [sameSenders, List.count_eq_zero.mpr closedTx] using before.closedTx

/-- The count has room for one more sender. -/
def Pipe.RoomForSender (pipe : Pipe width Ty E) : Prop :=
  pipe.senders + 1 < 2 ^ (usizeBits width - txShift)

theorem Pipe.Tracked.addSender (before : pipe.Tracked history) {kind : Handle}
    (sends : kind.sends = true) (room : pipe.RoomForSender) (reached : 0 < pipe.senders) :
    (pipe.addSender kind).Tracked history := by
  have senders : (pipe.addSender kind).senders = pipe.senders + 1 := by
    rw [Pipe.addSender, Pipe.senders_grant, sends]
    rfl
  have core : (pipe.addSender kind).core = pipe.core.addTx := Pipe.grant_core _ kind
  have nonzero : (pipe.senders == 0) = false := beq_eq_false_iff_ne.mpr reached.ne'
  have closed := before.closed
  have closedTx := before.closedTx
  constructor
  · rw [senders, core]
    exact before.counts.addTx room
  · rw [senders, core]
    simpa [Core.addTx, nonzero] using closed
  · rw [senders]
    simpa [reached.ne'] using closedTx

theorem Pipe.Tracked.claimReceiver (before : pipe.Tracked history) {kind : Handle}
    (receives : kind.sends = false) :
    (pipe.claimReceiver kind).1.Tracked (history ++ (pipe.claimReceiver kind).2) := by
  obtain ⟨counts, granted⟩ := before.counts.tryClaimRx
  dsimp only [Pipe.claimReceiver]
  rw [granted]
  by_cases already : .claimed ∈ history
  · have untouched : ({ pipe with core := pipe.core.tryClaimRx.1 } : Pipe width Ty E).Tracked
        history := by
      refine ⟨?_, before.closed, before.closedTx⟩
      simpa [already] using counts
    simpa [already] using untouched
  · have senders : (({ pipe with core := pipe.core.tryClaimRx.1 } : Pipe width Ty E).grant
        kind).senders = pipe.senders := by
      rw [Pipe.senders_grant, receives]
      rfl
    simp only [already, decide_false, Bool.not_false, if_true]
    constructor
    · rw [senders, Pipe.grant_core]
      simpa using counts
    · rw [senders, Pipe.grant_core]
      simpa [Core.tryClaimRx] using before.closed
    · rw [senders]
      simpa using before.closedTx

theorem Pipe.Tracked.closeWithError (before : pipe.Tracked history) (error : E) :
    (pipe.closeWithError error).1.Tracked (history ++ (pipe.closeWithError error).2) := by
  obtain ⟨counts, accepted, closes⟩ := before.counts.closeWithError error
  have closed := before.closed
  dsimp only [Pipe.closeWithError]
  rw [accepted]
  by_cases already : .erred ∈ history
  · have untouched : ({ pipe with core := (pipe.core.closeWithError error).1 } :
        Pipe width Ty E).Tracked history := by
      refine ⟨?_, ?_, before.closedTx⟩
      · simpa [already] using counts
      · simpa [closes, already] using closed
    simpa [already] using untouched
  · simp only [already, decide_false, Bool.not_false, if_true]
    constructor
    · simpa using counts
    · simp [closes, already]
    · rw [List.count_append]
      exact before.closedTx

theorem Pipe.Tracked.dropSender (before : pipe.Tracked history) {handle : Nat} {kind : Handle}
    (found : pipe.handles[handle]? = some kind) (sends : kind.sends = true) :
    (pipe.dropSender handle).1.Tracked (history ++ (pipe.dropSender handle).2) := by
  have senders : (pipe.dropSender handle).1.senders + 1 = pipe.senders := by
    have released : (pipe.dropSender handle).1.senders + kind.sends.toNat = pipe.senders :=
      Pipe.senders_release found
    rwa [sends] at released
  have counts := before.counts
  rw [← senders] at counts
  obtain ⟨counts, last, closes⟩ := counts.dropTx
  have core : (pipe.dropSender handle).1.core = pipe.core.dropTx.1 := Pipe.release_core _ handle
  have events : (pipe.dropSender handle).2 = if pipe.core.dropTx.2 then [.closedTx] else [] := rfl
  have closed := before.closed
  have closedTx := before.closedTx
  rw [← senders] at closed closedTx
  rw [events, last]
  generalize (pipe.dropSender handle).1 = dropped at *
  by_cases none : dropped.senders = 0
  · simp only [none, beq_self_eq_true, if_true]
    constructor
    · rw [core]
      simpa [none] using counts
    · simp [core, closes, none]
    · simpa [none] using closedTx
  · have nonzero : (dropped.senders == 0) = false := beq_eq_false_iff_ne.mpr none
    simp only [nonzero, Bool.false_eq_true, if_false, List.append_nil]
    constructor
    · rwa [core]
    · simpa [core, closes, nonzero] using closed
    · simpa [none] using closedTx

/-- A call that adds a sender finds room for it, and is not `deser_sender` of a
static pipe, which forgets to count. -/
def Pipe.CountsSender (pipe : Pipe width Ty E) (action : Action Ty E) : Prop :=
  match action with
  | .deserSender _ => pipe.backing = .arc ∧ pipe.RoomForSender
  | .sender _ | .clone _ => pipe.RoomForSender
  | _ => True

theorem Pipe.CountsSender.room (counted : pipe.CountsSender action)
    (adds : action.addsSender = true) : pipe.RoomForSender := by
  cases action with
  | deserSender through => exact counted.2
  | sender through => exact counted
  | clone handle => exact counted
  | _ => contradiction

theorem Pipe.Tracked.move (before : pipe.Tracked history) (counted : pipe.CountsSender action)
    (move : pipe.Move action next events) : next.Tracked (history ++ events) := by
  cases move with
  | added kind sends adds reached =>
      rw [List.append_nil]
      exact before.addSender sends (counted.room adds) reached
  | uncounted through called isStatic =>
      subst called
      rw [counted.1] at isStatic
      contradiction
  | claimed kind receives => exact before.claimReceiver receives
  | converted handle old into found same =>
      exact before.silent rfl rfl (Pipe.senders_convert found same) (by simp)
  | downcastFailed handle typ called mismatch =>
      refine before.silent ?_ ?_ ?_ (by simp)
      · rw [Pipe.erasedDrop_core]
      · rw [Pipe.erasedDrop_core]
      · simp [Pipe.senders]
  | erred error => exact before.closeWithError error
  | droppedSender handle kind found sends => exact before.dropSender found sends
  | droppedReceiver handle kind found receives =>
      have senders : (pipe.dropReceiver handle).1.senders + kind.sends.toNat = pipe.senders :=
        Pipe.senders_release found
      rw [receives] at senders
      refine before.silent ?_ ?_ senders (by simp [Pipe.dropReceiver])
      · rw [Pipe.dropReceiver, Pipe.release_core]
        rfl
      · rw [Pipe.dropReceiver, Pipe.release_core]
        rfl

/-- What a pipe's state word and its closed flag say about its handles and its
past. -/
structure Pipe.Accounted (history : List Event) (pipe : Pipe width Ty E) : Prop where
  txCnt : pipe.core.txCnt = pipe.senders
  rxClaimed : pipe.core.state &&& PipeHandles.rxClaimed width ≠ 0 ↔ .claimed ∈ history
  erroring : pipe.core.state &&& PipeHandles.erroring width ≠ 0 ↔ .erred ∈ history
  errored : pipe.core.state &&& PipeHandles.errored width ≠ 0 ↔ .erred ∈ history
  closed : pipe.core.dequeueClosed = true ↔ pipe.senders = 0 ∨ .erred ∈ history
  closedTx : history.count .closedTx = if pipe.senders = 0 then 1 else 0

theorem Pipe.Tracked.accounted (tracked : pipe.Tracked history) : pipe.Accounted history where
  txCnt := tracked.counts.txCnt_eq
  rxClaimed := by rw [ne_eq, tracked.counts.rxClaimed_iff, decide_eq_false_iff_not, not_not]
  erroring := by rw [ne_eq, tracked.counts.erroring_iff, decide_eq_false_iff_not, not_not]
  errored := by rw [ne_eq, tracked.counts.errored_iff, decide_eq_false_iff_not, not_not]
  closed := by rw [tracked.closed, Bool.or_eq_true, beq_iff_eq, decide_eq_true_iff]
  closedTx := tracked.closedTx

variable [DecidableEq Ty]

instance (pipe : Pipe width Ty E) : Decidable pipe.RoomForSender :=
  inferInstanceAs (Decidable (pipe.senders + 1 < 2 ^ (usizeBits width - txShift)))

instance (pipe : Pipe width Ty E) (action : Action Ty E) :
    Decidable (pipe.CountsSender action) :=
  match action with
  | .deserSender _ => inferInstanceAs (Decidable (pipe.backing = .arc ∧ pipe.RoomForSender))
  | .sender _ | .clone _ => inferInstanceAs (Decidable pipe.RoomForSender)
  | .receiver _ | .serReceiver _ | .intoSerde _ | .intoErased _ | .downcast _ _
  | .closeWithError _ _ | .drop _ => inferInstanceAs (Decidable True)

/-- Where every new sender is counted, `TX_CNT` is the number of handles that
send, the flags below it record the past, and the last sender closes. -/
theorem tx_cnt_of_senders {backing : Backing} {typeId : Ty} {final : Pipe width Ty E}
    (run : Run Pipe.step Pipe.CountsSender (Pipe.new backing typeId) history final) :
    final.Accounted history := by
  have tracked : final.Tracked history :=
    run.invariant Pipe.Tracked (tracked_new backing typeId) fun before counted stepTo =>
      before.move counted (Pipe.step_move stepTo).2
  exact tracked.accounted

/-- A heap-backed pipe hands out senders of each kind, is closed with an error,
fails a downcast and drops its last sender. -/
theorem tx_cnt_allDropped :
    ∃ history final,
      Run Pipe.step Pipe.CountsSender (Pipe.new .arc 0 : Pipe .bits64 Nat Unit)
        history final ∧
      history = [Event.claimed, .downcastFailed, .erred, .closedTx] ∧
      final.Accounted history := by
  obtain ⟨history, final, run, ends⟩ := exists_run_of_exec Pipe.step Pipe.CountsSender
    (Pipe.new .arc 0 : Pipe .bits64 Nat Unit)
    [.sender (some 0), .deserSender (some 0), .clone 2, .intoErased 1,
      .serReceiver (some 0), .downcast 3 1, .drop 0, .drop 0, .drop 0,
      .closeWithError 1 (), .drop 0]
    (fun (_, history) => history)
    (show _ = some [Event.claimed, .downcastFailed, .erred, .closedTx] by decide +kernel)
  exact ⟨history, final, run, ends, tx_cnt_of_senders run⟩

/-- Two deserializing senders of a static pipe are dropped, and the channel
closes while the pipe and a counted sender are left. -/
theorem not_accounted_staticDeserSender :
    ¬ ∀ history final,
      Run Pipe.step anyStep (Pipe.new .static 0 : Pipe .bits64 Nat Unit) history final →
        final.Accounted history := by
  intro always
  obtain ⟨history, final, run, ends⟩ := exists_run_of_exec Pipe.step anyStep
    (Pipe.new .static 0 : Pipe .bits64 Nat Unit)
    [.sender none, .deserSender none, .deserSender none, .drop 1, .drop 1]
    (fun (final, history) => (final.senders, history))
    (show _ = some (2, [Event.closedTx]) by decide +kernel)
  have senders : final.senders = 2 := congrArg Prod.fst ends
  have historyEq : history = [Event.closedTx] := congrArg Prod.snd ends
  have closedTx := (always history final run).closedTx
  rw [senders, historyEq] at closedTx
  contradiction

end SenderCount

end PipeHandles

end Mgnp
