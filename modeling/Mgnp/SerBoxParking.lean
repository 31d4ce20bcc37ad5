import Mgnp.SerBoxHeap
import Mgnp.WaitCell

/-!
# A sharer that waits for its box

`Sharer::share` tries to share its value and, while the box is taken, waits in
`sharer_ready`.  The destructor of a `Consumer` gives the box up before it wakes the
sharer, so a sharer that has just found the box taken may find the wakeup already
given.  The state of this file is a heap box with its wait cell and the call of `share`.
-/

namespace Mgnp

namespace SerBox

open LabelledRuns WaitCell

variable {T Cell : Type*} {ops : WaitCell Cell}

/-- A heap box whose sharer may be in a call of `share`, with the value of that call. -/
structure Share (T Cell : Type*) where
  sharing : Sharing T
  waiter : Waiter Cell
  value : Option T

def Share.new (ops : WaitCell Cell) (T : Type*) : Share T Cell where
  sharing := .boxed
  waiter := .new ops
  value := none

inductive ShareAction (T : Type*)
  /-- `share` is called, and its future is polled. -/
  | share (value : T)
  /-- The loop of `share` calls `try_share`. -/
  | tryShare
  /-- The loop of `share` polls `sharer_ready.wait()`. -/
  | pollWait
  /-- The pending future is polled again. -/
  | poll
  /-- The pending future is dropped. -/
  | cancel
  /-- A step of the box by itself. -/
  | base (action : Action T)

namespace Share

/-- A call of `share` borrows the sharer. -/
def allows (share : Share T Cell) : Action T → Bool
  | .tryShare _ _ | .dropSharer _ => share.value.isNone
  | _ => true

/-- The last access of a consumer's destructor is its `sharer_ready.wake()`. -/
def hear (ops : WaitCell Cell) (share : Share T Cell) : Action T → Waiter Cell
  | .runConsumer consumer =>
      if share.sharing.consumers[consumer]? = some .waking then share.waiter.wake ops
      else share.waiter
  | _ => share.waiter

def step (ops : WaitCell Cell) (share : Share T Cell) :
    ShareAction T → Option (Share T Cell × List (Event T))
  | .share value =>
      match share.sharing.sharers, share.value with
      | [.alive], none =>
          some ({ share with waiter := share.waiter.poll, value := some value }, [])
      | _, _ => none
  | .tryShare =>
      match share.value, share.waiter.stage with
      | some value, .checking =>
          let shares := share.sharing.box.state = hasSharer
          (SerBox.step .heap share.sharing (.tryShare 0 value)).map fun (next, events) =>
            (if shares then ⟨next, { share.waiter with stage := .away }, none⟩
              else ⟨next, { share.waiter with stage := .registering }, some value⟩, events)
      | _, _ => none
  | .pollWait =>
      match share.waiter.stage with
      | .registering => some ({ share with waiter := share.waiter.register ops }, [])
      | .away | .checking | .pending => none
  | .poll =>
      match share.waiter.stage with
      | .pending => some ({ share with waiter := share.waiter.repoll }, [])
      | .away | .checking | .registering => none
  | .cancel =>
      match share.waiter.stage with
      | .pending =>
          some ({ share with waiter := { share.waiter with stage := .away }, value := none }, [])
      | .away | .checking | .registering => none
  | .base action =>
      if share.allows action then
        (SerBox.step .heap share.sharing action).map fun (next, events) =>
          ({ share with sharing := next, waiter := share.hear ops action }, events)
      else none

end Share

/-- The sharer has not entered its destructor. -/
def Sharer.live : Sharer T → Bool
  | .alive | .writing _ => true
  | .dropping | .droppingData | .droppingShared | .dropped => false

/-- A consumer has yet to wake the sharer. -/
def Sharing.OwesWake (sharing : Sharing T) : Prop := .waking ∈ sharing.consumers

section Live

variable {sharing next : Sharing T} {history events : List (Event T)}
  {settled : List Consumer} {current : Option Consumer} {sharer : Sharer T}

/-- A sharer that has entered its destructor does not come back. -/
theorem sharers_of_step {action : Action T} (sharers : sharing.sharers = [sharer])
    (stepTo : step .heap sharing action = some (next, events)) :
    ∃ after : Sharer T, next.sharers = [after] ∧ (after.live = true → sharer.live = true) := by
  cases action with
  | staticSharer => cases stepTo
  | tryShare i value =>
      simp only [step, sharers] at stepTo
      split at stepTo
      · rename_i at_i
        obtain ⟨rfl, rfl⟩ := sharer_unique at_i
        split at stepTo <;> cases stepTo
        · exact ⟨.writing value, rfl, fun _ => rfl⟩
        · exact ⟨.alive, sharers, id⟩
      · cases stepTo
  | dropSharer i =>
      simp only [step, sharers] at stepTo
      split at stepTo <;> cases stepTo
      rename_i at_i
      obtain ⟨rfl, rfl⟩ := sharer_unique at_i
      exact ⟨.dropping, rfl, by simp [Sharer.live]⟩
  | runSharer i =>
      simp only [step, sharers] at stepTo
      split at stepTo
      · rename_i value at_i
        cases stepTo
        obtain ⟨rfl, rfl⟩ := sharer_unique at_i
        exact ⟨.alive, rfl, fun _ => rfl⟩
      · rename_i found _ at_i
        obtain ⟨rfl, rfl⟩ := sharer_unique at_i
        split at stepTo <;> cases stepTo
        rename_i after dropped
        refine ⟨after, rfl, fun live => ?_⟩
        cases found with
        | alive | writing => rfl
        | dropping =>
            cases dropped
            repeat' split at live
            all_goals cases live
        | droppingData | droppingShared =>
            cases dropped
            cases live
        | dropped => cases dropped
      · cases stepTo
  | serialize | dropConsumer =>
      simp only [step] at stepTo
      split at stepTo <;> cases stepTo
      exact ⟨sharer, sharers, id⟩
  | runConsumer =>
      simp only [step] at stepTo
      split at stepTo
      · split at stepTo <;> cases stepTo
        exact ⟨sharer, sharers, id⟩
      · cases stepTo

/-- While the sharer lives, the destructors are kept apart. -/
theorem HeapInv.dropsApart (inv : HeapInv history sharing settled current sharer)
    (live : sharer.live = true) (action : Action T) : dropsApart sharing action := by
  cases action with
  | runSharer i =>
      simp only [SerBox.dropsApart, inv.sharers]
      split <;> try trivial
      all_goals
        rename_i at_i
        obtain ⟨rfl, rfl⟩ := sharer_unique at_i
        cases live
  | runConsumer share =>
      simp only [SerBox.dropsApart, inv.consumers]
      split <;> try trivial
      rename_i at_share
      rcases settled_or_current at_share with ⟨_, member⟩ | ⟨_, rfl⟩
      · rcases inv.waking _ member with impossible | ⟨impossible, _⟩ <;> cases impossible
      · obtain ⟨rfl, _⟩ := expected_orphan inv.coherent
        cases live
  | _ => trivial

/-- A box becomes free only through the destructor of its consumer, which then owes
the wakeup. -/
theorem HeapInv.owes_of_ready (inv : HeapInv history sharing settled current .alive)
    {action : Action T} (stepTo : step .heap sharing action = some (next, events))
    (before : sharing.box.state ≠ hasSharer) (ready : next.box.state = hasSharer) :
    next.OwesWake := by
  cases action with
  | staticSharer => cases stepTo
  | tryShare i value =>
      simp only [step] at stepTo
      split at stepTo
      · rw [if_neg before] at stepTo
        cases stepTo
        exact absurd ready before
      · cases stepTo
  | dropSharer | serialize | dropConsumer =>
      simp only [step] at stepTo
      split at stepTo <;> cases stepTo
      exact absurd ready before
  | runSharer i =>
      simp only [step, inv.sharers] at stepTo
      split at stepTo
      · rename_i at_i
        cases (sharer_unique at_i).2
      · rename_i at_i
        obtain ⟨rfl, rfl⟩ := sharer_unique at_i
        cases stepTo
      · cases stepTo
  | runConsumer share =>
      simp only [step, inv.consumers] at stepTo
      split at stepTo
      · rename_i consumer at_share
        have coherent := inv.coherent
        rcases settled_or_current at_share with ⟨_, member⟩ | ⟨_, rfl⟩
        · rcases inv.waking _ member with rfl | ⟨rfl, _⟩ <;> cases stepTo
          exact absurd ready before
        · cases consumer with
          | alive => cases stepTo
          | dropping =>
              have stateEq : shared = sharing.box.state :=
                (Prod.mk.inj (Option.some.inj coherent)).1
              cases stepTo
              simp only [← stateEq] at ready
              exact absurd ready (by decide)
          | droppingData =>
              cases stepTo
              exact absurd ready before
          | clearingData =>
              have stateEq : hasSharer ||| hasData = sharing.box.state :=
                (Prod.mk.inj (Option.some.inj coherent)).1
              have attached : ¬ sharing.box.state &&& hasSharer = 0 := by
                rw [← stateEq]
                decide
              simp only [Consumer.drop, if_neg attached] at stepTo
              cases stepTo
              exact List.mem_iff_getElem?.mpr ⟨share, by
                rw [List.getElem?_set_self' , at_share]
                rfl⟩
          | droppingShared | waking | dropped => cases coherent
      · cases stepTo

/-- While the sharer lives, the last step of a consumer's destructor is its wake. -/
theorem HeapInv.wakes_last (inv : HeapInv history sharing settled current .alive) {share : Nat}
    (stepTo : step .heap sharing (.runConsumer share) = some (next, events))
    (ended : next.consumers[share]? = some .dropped) :
    sharing.consumers[share]? = some .waking := by
  simp only [step] at stepTo
  split at stepTo
  · rename_i consumer at_share
    split at stepTo <;> cases stepTo
    rename_i box after dropped
    have isDropped : after = .dropped := by
      simpa [List.getElem?_set_self', at_share] using ended
    subst isDropped
    cases consumer with
    | waking => exact at_share
    | droppingShared =>
        rw [inv.consumers] at at_share
        rcases settled_or_current at_share with ⟨_, member⟩ | ⟨_, rfl⟩
        · rcases inv.waking _ member with impossible | ⟨impossible, _⟩ <;> cases impossible
        · cases inv.coherent
    | clearingData =>
        simp only [Consumer.drop] at dropped
        split_ifs at dropped <;> cases dropped
    | alive | dropping | droppingData | dropped => cases dropped
  · cases stepTo

/-- Only the wake of a consumer pays a wakeup that is due. -/
theorem owesWake_of_step {action : Action T} (owes : sharing.OwesWake)
    (stepTo : step .heap sharing action = some (next, events)) :
    next.OwesWake ∨ ∃ consumer, action = .runConsumer consumer ∧
      sharing.consumers[consumer]? = some .waking := by
  cases action with
  | staticSharer => cases stepTo
  | tryShare i value =>
      simp only [step] at stepTo
      split at stepTo
      · split at stepTo <;> cases stepTo <;> exact .inl owes
      · cases stepTo
  | dropSharer | serialize =>
      simp only [step] at stepTo
      split at stepTo <;> cases stepTo
      exact .inl owes
  | runSharer i =>
      simp only [step] at stepTo
      split at stepTo
      · cases stepTo
        exact .inl (List.mem_append_left _ owes)
      · split at stepTo <;> cases stepTo
        exact .inl owes
      · cases stepTo
  | dropConsumer share =>
      simp only [step] at stepTo
      split at stepTo <;> cases stepTo
      rename_i at_share
      exact .inl (mem_set_of_ne at_share owes (by simp))
  | runConsumer share =>
      simp only [step] at stepTo
      split at stepTo
      · rename_i consumer at_share
        split at stepTo <;> cases stepTo
        by_cases wakes : consumer = .waking
        · exact .inr ⟨share, rfl, wakes ▸ at_share⟩
        · exact .inl (mem_set_of_ne at_share owes wakes)
      · cases stepTo

end Live

namespace Share

/-- A waiting sharer does not miss that its box is free. -/
structure Vigilant (ops : WaitCell Cell) (share : Share T Cell) : Prop where
  alert : share.waiter.Alert ops (share.sharing.box.state = hasSharer) share.sharing.OwesWake
  kept : share.waiter.Kept ops (share.sharing.box.state = hasSharer) share.sharing.OwesWake
  waits : share.waiter.stage ≠ .away → share.sharing.sharers = [.alive] ∧ share.value ≠ none
  live : ∃ sharer, share.sharing.sharers = [sharer] ∧
    (sharer.live = true → ∃ history, HeapInvariant history share.sharing)

section Vigilant

variable {share next : Share T Cell} {history events : List (Event T)}

theorem vigilant_new : Vigilant ops (Share.new ops T) where
  alert := .of_stage (.inl rfl)
  kept := .of_stage (.inl rfl)
  waits away := absurd rfl away
  live := ⟨.alive, rfl, fun _ => ⟨[], _, _, _, heapInv_boxed⟩⟩

theorem live_step {action : Action T} {sharing after : Sharing T}
    (live : ∃ sharer, sharing.sharers = [sharer] ∧
      (sharer.live = true → ∃ history, HeapInvariant history sharing))
    (stepTo : SerBox.step .heap sharing action = some (after, events)) :
    ∃ sharer, after.sharers = [sharer] ∧
      (sharer.live = true → ∃ history, HeapInvariant history after) := by
  obtain ⟨sharer, sharers, kept⟩ := live
  obtain ⟨next, nextSharers, stays⟩ := sharers_of_step sharers stepTo
  refine ⟨next, nextSharers, fun isLive => ?_⟩
  obtain ⟨history, settled, current, found, inv⟩ := kept (stays isLive)
  obtain rfl : found = sharer := by simpa using inv.sharers.symm.trans sharers
  exact ⟨_, heapInvariant_step ⟨settled, current, found, inv⟩
    (inv.dropsApart (stays isLive) action) stepTo⟩

/-- The box has a consumer while the sharer cannot share. -/
theorem Vigilant.heapInv (vigilant : Vigilant ops share)
    (waits : share.waiter.stage ≠ .away) :
    ∃ history settled current, HeapInv history share.sharing settled current .alive := by
  obtain ⟨sharer, sharers, kept⟩ := vigilant.live
  obtain rfl : sharer = .alive := by
    simpa using sharers.symm.trans (vigilant.waits waits).1
  obtain ⟨history, settled, current, found, inv⟩ := kept rfl
  obtain rfl : found = .alive := by simpa using inv.sharers.symm.trans sharers
  exact ⟨history, settled, current, inv⟩

/-- Only the wake of a consumer reaches the wait cell. -/
theorem hear_cases (ops : WaitCell Cell) (share : Share T Cell) (action : Action T) :
    share.hear ops action = share.waiter.wake ops ∨
      share.hear ops action = share.waiter ∧
        ¬ ∃ consumer, action = .runConsumer consumer ∧
          share.sharing.consumers[consumer]? = some .waking := by
  cases action with
  | runConsumer consumer =>
      simp only [hear]
      split
      · exact .inl rfl
      · rename_i awake
        refine .inr ⟨rfl, ?_⟩
        rintro ⟨_, ⟨⟩, waking⟩
        exact awake waking
  | _ => exact .inr ⟨rfl, by simp⟩

/-- A sharer in a call of `share` is where it was. -/
theorem sharers_base {action : Action T} {after : Sharing T}
    (sharers : share.sharing.sharers = [.alive]) (inCall : share.value ≠ none)
    (allowed : share.allows action = true)
    (stepTo : SerBox.step .heap share.sharing action = some (after, events)) :
    after.sharers = [.alive] := by
  cases action with
  | staticSharer => cases stepTo
  | tryShare | dropSharer =>
      cases inProgress : share.value with
      | none => exact absurd inProgress inCall
      | some value => simp [allows, inProgress] at allowed
  | runSharer i =>
      simp only [SerBox.step, sharers] at stepTo
      split at stepTo
      · rename_i at_i
        cases (sharer_unique at_i).2
      · rename_i at_i
        obtain ⟨rfl, rfl⟩ := sharer_unique at_i
        cases stepTo
      · cases stepTo
  | serialize | dropConsumer =>
      simp only [SerBox.step] at stepTo
      split at stepTo <;> cases stepTo
      exact sharers
  | runConsumer =>
      simp only [SerBox.step] at stepTo
      split at stepTo
      · split at stepTo <;> cases stepTo
        exact sharers
      · cases stepTo

/-- A step of the box beside a waiting sharer. -/
theorem Vigilant.base (lawful : ops.Lawful) (remembers : ops.Remembers)
    (vigilant : Vigilant ops share) {action : Action T} {after : Sharing T}
    (allowed : share.allows action = true)
    (stepTo : SerBox.step .heap share.sharing action = some (after, events)) :
    Vigilant ops { share with sharing := after, waiter := share.hear ops action } := by
  have live := live_step vigilant.live stepTo
  have sameStage : (share.hear ops action).stage = share.waiter.stage := by
    rcases hear_cases ops share action with heard | ⟨heard, _⟩ <;> rw [heard]
    rfl
  have waits (away : (share.hear ops action).stage ≠ .away) :
      after.sharers = [.alive] ∧ share.value ≠ none := by
    rw [sameStage] at away
    obtain ⟨sharers, inCall⟩ := vigilant.waits away
    exact ⟨sharers_base sharers inCall allowed stepTo, inCall⟩
  by_cases away : share.waiter.stage = .away
  · have stage : (share.hear ops action).stage = .away := sameStage.trans away
    exact ⟨.of_stage (.inl stage), .of_stage (.inl stage), waits, live⟩
  · rcases hear_cases ops share action with heard | ⟨heard, quiet⟩
    · refine ⟨?_, ?_, waits, live⟩
      · simp only [heard]
        exact vigilant.alert.wake lawful _ _
      · simp only [heard]
        exact .wake remembers _ _ _
    · obtain ⟨past, settled, current, inv⟩ := vigilant.heapInv away
      have readies (ready : after.box.state = hasSharer) :
          share.sharing.box.state = hasSharer ∨ after.OwesWake := by
        by_cases before : share.sharing.box.state = hasSharer
        · exact .inl before
        · exact .inr (inv.owes_of_ready stepTo before ready)
      have owes (due : share.sharing.OwesWake) : after.OwesWake :=
        (owesWake_of_step due stepTo).resolve_right quiet
      refine ⟨?_, ?_, waits, live⟩
      · simp only [heard]
        exact vigilant.alert.mono readies owes
      · simp only [heard]
        exact vigilant.kept.mono readies owes

theorem Vigilant.step (lawful : ops.Lawful) (remembers : ops.Remembers)
    {action : ShareAction T} (vigilant : Vigilant ops share)
    (stepTo : share.step ops action = some (next, events)) : Vigilant ops next := by
  cases action with
  | share value =>
      simp only [Share.step] at stepTo
      split at stepTo <;> cases stepTo
      rename_i isAlive isIdle
      exact ⟨.of_stage (.inr rfl), .of_stage (.inr rfl), fun _ => ⟨isAlive, by simp⟩,
        vigilant.live⟩
  | tryShare =>
      simp only [Share.step] at stepTo
      split at stepTo
      · rename_i value inCall checking
        obtain ⟨⟨after, reported⟩, stepped, outcome⟩ := Option.map_eq_some_iff.mp stepTo
        have sharers := (vigilant.waits (by simp [checking])).1
        have live := live_step vigilant.live stepped
        cases outcome
        split
        · exact ⟨.of_stage (.inl rfl), .of_stage (.inl rfl), fun away => absurd rfl away, live⟩
        · rename_i taken
          simp only [SerBox.step, sharers, List.getElem?_cons_zero, if_neg taken] at stepped
          cases stepped
          exact ⟨fun ready => absurd ready taken, fun _ ready => absurd ready taken,
            fun _ => ⟨sharers, by simp⟩, vigilant.live⟩
      · cases stepTo
  | pollWait =>
      simp only [Share.step] at stepTo
      split at stepTo <;> cases stepTo
      rename_i registering
      exact ⟨vigilant.alert.register lawful registering,
        vigilant.kept.register lawful registering,
        fun _ => vigilant.waits (by simp [registering]), vigilant.live⟩
  | poll =>
      simp only [Share.step] at stepTo
      split at stepTo <;> cases stepTo
      rename_i pending
      exact ⟨vigilant.kept.alert_repoll pending, vigilant.kept.repoll pending,
        fun _ => vigilant.waits (by simp [pending]), vigilant.live⟩
  | cancel =>
      simp only [Share.step] at stepTo
      split at stepTo <;> cases stepTo
      exact ⟨.of_stage (.inl rfl), .of_stage (.inl rfl), fun away => absurd rfl away,
        vigilant.live⟩
  | base action =>
      simp only [Share.step] at stepTo
      split at stepTo
      · rename_i allowed
        obtain ⟨⟨after, reported⟩, stepped, outcome⟩ := Option.map_eq_some_iff.mp stepTo
        cases outcome
        exact vigilant.base lawful remembers allowed stepped
      · cases stepTo

theorem vigilant_run (lawful : ops.Lawful) (remembers : ops.Remembers)
    {final : Share T Cell}
    (run : Run (Share.step ops) anyStep (Share.new ops T) history final) :
    Vigilant ops final :=
  run.stateInvariant (Vigilant ops) vigilant_new
    fun vigilant _ stepTo => vigilant.step lawful remembers stepTo

end Vigilant

end Share

/-- A sleeping call of `share` waits for a consumer that is alive or in its destructor. -/
theorem Share.Vigilant.exists_consumer {final : Share T Cell} (vigilant : final.Vigilant ops)
    (parked : final.waiter.Parked) :
    ∃ consumer ∈ final.sharing.consumers, consumer ≠ .dropped := by
  have waits : final.waiter.stage ≠ .away := by simp [parked.1]
  by_cases ready : final.sharing.box.state = hasSharer
  · exact ⟨.waking, vigilant.alert.parked parked ready, by simp⟩
  · obtain ⟨past, settled, current, inv⟩ := vigilant.heapInv waits
    cases current with
    | none => exact absurd (Prod.mk.inj (Option.some.inj inv.coherent)).1.symm ready
    | some consumer =>
        refine ⟨consumer, by simp [inv.consumers], ?_⟩
        rintro rfl
        cases inv.coherent

/-- The last step of a consumer's destructor wakes a sleeping call of `share`. -/
theorem Share.Vigilant.woken_of_dropped (lawful : ops.Lawful) {final next : Share T Cell}
    {events : List (Event T)} (vigilant : final.Vigilant ops) (parked : final.waiter.Parked)
    {consumer : Nat} (stepTo : final.step ops (.base (.runConsumer consumer)) = some (next, events))
    (ended : next.sharing.consumers[consumer]? = some .dropped) : next.waiter.woken = true := by
  have waits : final.waiter.stage ≠ .away := by simp [parked.1]
  obtain ⟨past, settled, current, inv⟩ := vigilant.heapInv waits
  simp only [Share.step, Share.allows, if_true] at stepTo
  obtain ⟨⟨after, reported⟩, stepped, outcome⟩ := Option.map_eq_some_iff.mp stepTo
  cases outcome
  have waking := inv.wakes_last stepped ended
  simp only [Share.hear, waking, if_true]
  exact vigilant.alert.woken_wake lawful parked

/-- A call of `share` sleeps only while a consumer of its box is alive or in its
destructor, whose last step wakes it. -/
theorem share_sleeps_for_consumer (lawful : ops.Lawful) (remembers : ops.Remembers)
    {history : List (Event T)} {final : Share T Cell}
    (run : Run (Share.step ops) anyStep (Share.new ops T) history final)
    (parked : final.waiter.Parked) :
    (∃ consumer ∈ final.sharing.consumers, consumer ≠ .dropped) ∧
      ∀ consumer next events,
        final.step ops (.base (.runConsumer consumer)) = some (next, events) →
        next.sharing.consumers[consumer]? = some .dropped → next.waiter.woken = true := by
  have vigilant := Share.vigilant_run lawful remembers run
  exact ⟨vigilant.exists_consumer parked,
    fun _ _ _ stepTo ended => vigilant.woken_of_dropped lawful parked stepTo ended⟩

/-- The sharer finds its box taken, and the wakeup is given before it polls the cell;
for the next value it waits, and its consumer is in its destructor. -/
def wakesEarly : List (ShareAction Nat) :=
  [.share 7, .tryShare, .base (.runSharer 0), .share 8, .tryShare, .base (.dropConsumer 0),
    .base (.runConsumer 0), .base (.runConsumer 0), .base (.runConsumer 0),
    .base (.runConsumer 0), .pollWait, .tryShare, .base (.runSharer 0), .share 9, .tryShare,
    .pollWait, .base (.dropConsumer 1), .base (.runConsumer 1), .base (.runConsumer 1)]

theorem share_sleeps_for_consumer_wakesEarly :
    ∃ (history : List (Event Nat)) (final : Share Nat Slot),
      .woken ∈ history ∧ final.sharing.consumers = [.dropped, .clearingData] ∧
        final.waiter.Parked ∧
        (∃ consumer ∈ final.sharing.consumers, consumer ≠ .dropped) ∧
        ∀ consumer next events,
          final.step remembering (.base (.runConsumer consumer)) = some (next, events) →
          next.sharing.consumers[consumer]? = some .dropped → next.waiter.woken = true := by
  obtain ⟨history, final, run, seen⟩ :=
    exists_run_of_exec (Share.step remembering) anyStep (Share.new remembering Nat) wakesEarly
      (fun reached => (decide (.woken ∈ reached.2), reached.1.sharing.consumers,
        reached.1.waiter.stage, reached.1.waiter.woken))
      (show _ = some (true, [.dropped, .clearingData], .pending, false) by decide +kernel)
  simp only [Prod.mk.injEq, decide_eq_true_eq] at seen
  obtain ⟨woken, consumers, parked⟩ := seen
  exact ⟨history, final, woken, consumers, parked,
    share_sleeps_for_consumer remembering_lawful remembering_remembers run parked⟩

end SerBox

end Mgnp
