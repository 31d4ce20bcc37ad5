import Mgnp.SerBox
import Mathlib.Data.List.Nodup

/-!
# Dropping a heap box from both ends

The destructors of a `Sharer` and its `Consumer` decide from a snapshot of the
state byte which of them drops the data and which of them frees the box.  The
decision is right when the `Sharer` does not take its snapshot while the
`Consumer` has cleared only the first of its two flags, and when nobody frees
the box while an older `Consumer` has yet to wake the `Sharer`.
-/

namespace Mgnp

namespace SerBox

open LabelledRuns

variable {T : Type*}

/-- The shares whose value was dropped in place, in order. -/
def drops (history : List (Event T)) : List (Option Nat) :=
  history.filterMap fun
    | .droppedData share => some share
    | _ => none

/-- How often the box was freed. -/
def frees (history : List (Event T)) : Nat :=
  history.countP fun
    | .freed => true
    | _ => false

/-- All destructors have run. -/
def Sharing.Finished (sharing : Sharing T) : Prop :=
  (∀ sharer ∈ sharing.sharers, sharer = .dropped) ∧
    ∀ consumer ∈ sharing.consumers, consumer = .dropped

/-- Every value is dropped at most once, the box is freed at most once and never
touched afterwards, and once all destructors have run both have happened. -/
structure ReleasedOnce (history : List (Event T)) (sharing : Sharing T) : Prop where
  untouched : .touchedFreed ∉ history
  droppedOnce : (drops history).Nodup
  initialized : none ∉ drops history
  freedOnce : frees history ≤ 1
  complete : sharing.Finished → frees history = 1 ∧
    ∀ share, some share ∈ drops history ↔ share < sharing.consumers.length

/-- No consumer is between its two `fetch_and`s. -/
def Sharing.NoneReleasing (sharing : Sharing T) : Prop :=
  ∀ consumer ∈ sharing.consumers, consumer ≠ .droppingData ∧ consumer ≠ .clearingData

/-- No consumer has yet to wake the sharer. -/
def Sharing.NoneWaking (sharing : Sharing T) : Prop :=
  ∀ consumer ∈ sharing.consumers, consumer ≠ .waking

instance (sharing : Sharing T) : Decidable sharing.NoneReleasing :=
  inferInstanceAs (Decidable (∀ _ ∈ _, _ ≠ _ ∧ _ ≠ _))

instance (sharing : Sharing T) : Decidable sharing.NoneWaking :=
  inferInstanceAs (Decidable (∀ _ ∈ _, _ ≠ _))

/-- The steps that keep the destructors apart. -/
def dropsApart (sharing : Sharing T) : Action T → Prop
  | .runSharer i =>
      match sharing.sharers[i]? with
      | some .dropping => sharing.NoneReleasing
      | some .droppingShared => sharing.NoneWaking
      | _ => True
  | .runConsumer share =>
      match sharing.consumers[share]? with
      | some .droppingShared => sharing.NoneWaking
      | _ => True
  | _ => True

instance (sharing : Sharing T) (action : Action T) :
    Decidable (dropsApart sharing action) := by
  unfold dropsApart
  split
  · split <;> infer_instance
  · split <;> infer_instance
  · infer_instance

/-- The state byte, and whether the box is freed, as they follow from the sharer
and the consumer that currently owns the data. -/
def expected : Sharer T → Option Consumer → Option (UInt8 × Bool)
  | .alive, none | .dropping, none => some (hasSharer, false)
  | .writing _, none => some (shared, false)
  | .alive, some .alive | .alive, some .dropping
  | .dropping, some .alive | .dropping, some .dropping => some (shared, false)
  | .alive, some .droppingData | .alive, some .clearingData
  | .dropping, some .droppingData | .dropping, some .clearingData =>
      some (hasSharer ||| hasData, false)
  | .dropped, some .alive | .dropped, some .dropping => some (hasConsumer, false)
  | .dropped, some .droppingData | .dropped, some .clearingData
  | .dropped, some .droppingShared => some (new, false)
  | .droppingShared, none => some (new, false)
  | .dropped, none => some (new, true)
  | _, _ => none

/-- The consumer has not dropped the data. -/
def Consumer.ownsData : Consumer → Prop
  | .alive | .dropping | .droppingData => True
  | _ => False

/-- How many values the current consumer has dropped. -/
def passed : Option Consumer → Nat
  | some .clearingData | some .droppingShared => 1
  | _ => 0

/-- The consumers are those that have given up the data and at most one current
consumer; the values were dropped in the order of their shares. -/
structure HeapInv (history : List (Event T)) (sharing : Sharing T)
    (settled : List Consumer) (current : Option Consumer) (sharer : Sharer T) :
    Prop where
  sharers : sharing.sharers = [sharer]
  consumers : sharing.consumers = settled ++ current.toList
  waking : ∀ consumer ∈ settled, consumer = .dropped ∨
    (consumer = .waking ∧ sharing.box.freed = false)
  coherent : expected sharer current = some (sharing.box.state, sharing.box.freed)
  data : ∀ consumer, current = some consumer → consumer.ownsData →
    ∃ value, sharing.box.data = some (settled.length, value)
  dropsEq : drops history = (List.range (settled.length + passed current)).map some
  freesEq : frees history = sharing.box.freed.toNat
  untouched : .touchedFreed ∉ history

theorem drops_append (first second : List (Event T)) :
    drops (first ++ second) = drops first ++ drops second :=
  List.filterMap_append

theorem frees_append (first second : List (Event T)) :
    frees (first ++ second) = frees first + frees second :=
  List.countP_append

theorem not_freed_of_current {sharer : Sharer T} {consumer : Consumer} {state : UInt8}
    {freed : Bool} (coherent : expected sharer (some consumer) = some (state, freed)) :
    freed = false := by
  cases sharer <;> cases consumer <;> simp_all [expected]

theorem not_freed_of_sharer {sharer : Sharer T} {current : Option Consumer}
    {state : UInt8} {freed : Bool}
    (coherent : expected sharer current = some (state, freed))
    (undropped : sharer ≠ .dropped) : freed = false := by
  rcases current with _ | consumer
  · cases sharer <;> simp_all [expected]
  · exact not_freed_of_current coherent

/-- A state byte of `HAS_SHARER` alone means that no consumer owns data. -/
theorem current_none_of_ready {current : Option Consumer}
    (coherent : expected (.alive : Sharer T) current = some (hasSharer, false)) :
    current = none := by
  rcases current with _ | consumer
  · rfl
  · cases consumer <;>
      simp only [expected, Option.some.injEq, Prod.mk.injEq, reduceCtorEq] at coherent <;>
      exact absurd coherent.1 (by decide)

theorem heapInv_boxed : HeapInv [] (Sharing.boxed : Sharing T) [] none .alive where
  sharers := rfl
  consumers := rfl
  waking := by simp
  coherent := rfl
  data consumer isCurrent := by cases isCurrent
  dropsEq := rfl
  freesEq := rfl
  untouched := by simp

section Lists

/-- A consumer of the list is settled or the current one. -/
theorem settled_or_current {settled : List Consumer} {current : Option Consumer}
    {share : Nat} {consumer : Consumer}
    (at_share : (settled ++ current.toList)[share]? = some consumer) :
    (share < settled.length ∧ consumer ∈ settled) ∨
      (share = settled.length ∧ current = some consumer) := by
  rcases Nat.lt_or_ge share settled.length with inside | outside
  · rw [List.getElem?_append_left inside] at at_share
    exact .inl ⟨inside, List.mem_of_getElem? at_share⟩
  · rw [List.getElem?_append_right outside] at at_share
    cases current with
    | none => simp at at_share
    | some pc =>
        rw [Option.toList_some, List.getElem?_singleton] at at_share
        split at at_share
        · exact .inr ⟨by omega, at_share⟩
        · cases at_share

theorem sharer_unique {sharer found : Sharer T} {i : Nat}
    (at_i : [sharer][i]? = some found) : i = 0 ∧ found = sharer := by
  rw [List.getElem?_singleton] at at_i
  split at at_i
  · cases at_i
    exact ⟨by assumption, rfl⟩
  · cases at_i

end Lists

section Steps

variable {sharing next : Sharing T} {history events : List (Event T)}
  {settled : List Consumer} {current : Option Consumer} {sharer : Sharer T}

/-- Some invariant of the form of `HeapInv` holds. -/
def HeapInvariant (history : List (Event T)) (sharing : Sharing T) : Prop :=
  ∃ settled current sharer, HeapInv history sharing settled current sharer

/-- An access that neither drops data nor frees keeps the ledgers. -/
theorem quiet_ledgers (inv : HeapInv history sharing settled current sharer)
    (noDrop : drops events = []) (noFree : frees events = 0)
    (untouched : .touchedFreed ∉ events) :
    drops (history ++ events) =
        (List.range (settled.length + passed current)).map some ∧
      frees (history ++ events) = sharing.box.freed.toNat ∧
      .touchedFreed ∉ history ++ events := by
  refine ⟨?_, ?_, ?_⟩
  · rw [drops_append, noDrop, List.append_nil, inv.dropsEq]
  · rw [frees_append, noFree, Nat.add_zero, inv.freesEq]
  · rw [List.mem_append, not_or]
    exact ⟨inv.untouched, untouched⟩

theorem touch_eq_nil {box : Memory T} (live : box.freed = false) : box.touch = [] := by
  simp [Memory.touch, live]

theorem heapInv_tryShare (inv : HeapInv history sharing settled current sharer)
    {i : Nat} {value : T}
    (stepTo : step .heap sharing (.tryShare i value) = some (next, events)) :
    HeapInvariant (history ++ events) next := by
  have coherent := inv.coherent
  simp only [step, inv.sharers] at stepTo
  split at stepTo
  · rename_i at_i
    obtain ⟨rfl, rfl⟩ := sharer_unique at_i
    have live := not_freed_of_sharer coherent (by simp)
    rw [touch_eq_nil live] at stepTo
    split at stepTo <;> cases stepTo
    · rename_i isReady
      rw [isReady, live] at coherent
      obtain rfl := current_none_of_ready coherent
      obtain ⟨dropsEq, freesEq, untouched⟩ := quiet_ledgers inv rfl rfl (List.not_mem_nil)
      exact ⟨settled, none, .writing value, rfl, inv.consumers, inv.waking,
        by rw [live]; rfl, inv.data, dropsEq, freesEq, untouched⟩
    · obtain ⟨dropsEq, freesEq, untouched⟩ := quiet_ledgers inv
        (show drops [.shareFailed 0 value] = [] from rfl) rfl (by simp)
      exact ⟨settled, current, .alive, inv.sharers, inv.consumers, inv.waking,
        inv.coherent, inv.data, dropsEq, freesEq, untouched⟩
  · cases stepTo

theorem heapInv_dropSharer (inv : HeapInv history sharing settled current sharer)
    {i : Nat} (stepTo : step .heap sharing (.dropSharer i) = some (next, events)) :
    HeapInvariant (history ++ events) next := by
  have coherent := inv.coherent
  simp only [step, inv.sharers] at stepTo
  split at stepTo
  · rename_i at_i
    obtain ⟨rfl, rfl⟩ := sharer_unique at_i
    cases stepTo
    have same : expected (.dropping : Sharer T) current =
        expected (.alive : Sharer T) current := by
      rcases current with _ | consumer
      · rfl
      · cases consumer <;> rfl
    obtain ⟨dropsEq, freesEq, untouched⟩ := quiet_ledgers inv rfl rfl (List.not_mem_nil)
    exact ⟨settled, current, .dropping, rfl, inv.consumers, inv.waking,
      same.trans coherent, inv.data, dropsEq, freesEq, untouched⟩
  · cases stepTo

/-- No consumer waits to wake the sharer: all of them are done. -/
theorem HeapInv.settled_dropped (inv : HeapInv history sharing settled current sharer)
    (noneWaking : sharing.NoneWaking) :
    ∀ consumer ∈ settled, consumer = .dropped := by
  intro consumer member
  rcases inv.waking consumer member with done | ⟨waking, _⟩
  · exact done
  · have present : consumer ∈ sharing.consumers := by
      rw [inv.consumers]
      exact List.mem_append_left _ member
    exact absurd waking (noneWaking consumer present)

/-- The snapshot of a sharer's destructor, when no consumer is between its two
`fetch_and`s: the consumer frees the box if it still owns the data. -/
theorem expected_snapshot {state : UInt8} {freed : Bool}
    (coherent : expected (.dropping : Sharer T) current = some (state, freed))
    (whole : current ≠ some .droppingData ∧ current ≠ some .clearingData) :
    expected (if state &&& hasConsumer = 0 then
        if state &&& hasData ≠ 0 then .droppingData else .droppingShared
        else .dropped : Sharer T) current =
      some (state &&& ~~~(hasSharer ||| hasData), freed) := by
  rcases current with _ | consumer
  · cases coherent
    rfl
  · cases consumer with
    | alive | dropping =>
        cases coherent
        rfl
    | droppingData => exact absurd rfl whole.1
    | clearingData => exact absurd rfl whole.2
    | droppingShared | waking | dropped => cases coherent

theorem heapInv_runSharer (inv : HeapInv history sharing settled current sharer)
    {i : Nat} (admitted : dropsApart sharing (.runSharer i))
    (stepTo : step .heap sharing (.runSharer i) = some (next, events)) :
    HeapInvariant (history ++ events) next := by
  rcases i with _ | i
  swap
  · simp [step, inv.sharers] at stepTo
  have coherent := inv.coherent
  simp only [dropsApart, inv.sharers, List.getElem?_cons_zero] at admitted
  simp only [step, inv.sharers, List.getElem?_cons_zero] at stepTo
  have current_none (unshared : ∀ consumer,
      expected sharer (some consumer) = none) : current = none := by
    rcases current with _ | consumer
    · rfl
    · cases (unshared consumer).symm.trans coherent
  cases sharer with
  | alive | dropped => cases stepTo
  | writing value =>
      have live := not_freed_of_sharer coherent (by simp)
      rw [touch_eq_nil live] at stepTo
      cases stepTo
      obtain rfl := current_none fun consumer => by cases consumer <;> rfl
      obtain ⟨dropsEq, freesEq, untouched⟩ := quiet_ledgers inv
        (show drops [.shared sharing.consumers.length value] = [] from rfl) rfl (by simp)
      have consumers : sharing.consumers = settled := by
        rw [inv.consumers]
        exact List.append_nil settled
      refine ⟨settled, some .alive, .alive, rfl, ?_, inv.waking, coherent, ?_, dropsEq,
        freesEq, untouched⟩
      · rw [consumers]
        rfl
      · intro consumer _ _
        exact ⟨value, by rw [consumers]⟩
  | dropping =>
      have live := not_freed_of_sharer coherent (by simp)
      simp only [Sharer.drop, touch_eq_nil live] at stepTo
      cases stepTo
      obtain ⟨dropsEq, freesEq, untouched⟩ := quiet_ledgers inv rfl rfl List.not_mem_nil
      refine ⟨settled, current, _, rfl, inv.consumers, inv.waking,
        expected_snapshot coherent ?_, inv.data, dropsEq, freesEq, untouched⟩
      constructor <;> rintro rfl
      · exact (admitted .droppingData (by simp [inv.consumers])).1 rfl
      · exact (admitted .clearingData (by simp [inv.consumers])).2 rfl
  | droppingData =>
      obtain rfl := current_none fun consumer => by cases consumer <;> rfl
      cases coherent
  | droppingShared =>
      have live := not_freed_of_sharer coherent (by simp)
      obtain rfl := current_none fun consumer => by cases consumer <;> rfl
      have done := inv.settled_dropped admitted
      simp only [Sharer.drop, Memory.dropShared, touch_eq_nil live] at stepTo
      cases stepTo
      refine ⟨settled, none, .dropped, rfl, inv.consumers,
        fun consumer member => .inl (done consumer member), ?_, ?_, ?_, ?_, ?_⟩
      · rw [← (Prod.mk.inj (Option.some.inj coherent)).1]
        rfl
      · intro consumer isCurrent
        cases isCurrent
      · rw [drops_append, inv.dropsEq]
        exact List.append_nil _
      · rw [frees_append, inv.freesEq, live]
        rfl
      · simpa using inv.untouched

theorem heapInv_serialize (inv : HeapInv history sharing settled current sharer)
    {share : Nat} (stepTo : step .heap sharing (.serialize share) = some (next, events)) :
    HeapInvariant (history ++ events) next := by
  simp only [step, inv.consumers] at stepTo
  split at stepTo
  · rename_i at_share
    rcases settled_or_current at_share with ⟨_, member⟩ | ⟨_, rfl⟩
    · rcases inv.waking _ member with impossible | ⟨impossible, _⟩ <;> cases impossible
    · rw [touch_eq_nil (not_freed_of_current inv.coherent)] at stepTo
      cases stepTo
      obtain ⟨dropsEq, freesEq, untouched⟩ := quiet_ledgers inv
        (show drops [.serialized share (sharing.box.data.map Prod.snd)] = [] from rfl) rfl
        (by simp)
      exact ⟨settled, _, sharer, inv.sharers, inv.consumers, inv.waking, inv.coherent,
        inv.data, dropsEq, freesEq, untouched⟩
  · cases stepTo

/-- The current consumer moves on and remains current. -/
theorem set_current {consumer : Consumer} (after : Consumer) :
    (settled ++ (some consumer).toList).set settled.length after =
      settled ++ (some after).toList := by
  simp

theorem heapInv_dropConsumer (inv : HeapInv history sharing settled current sharer)
    {share : Nat}
    (stepTo : step .heap sharing (.dropConsumer share) = some (next, events)) :
    HeapInvariant (history ++ events) next := by
  simp only [step, inv.consumers] at stepTo
  split at stepTo
  · rename_i at_share
    cases stepTo
    rcases settled_or_current at_share with ⟨_, member⟩ | ⟨rfl, rfl⟩
    · rcases inv.waking _ member with impossible | ⟨impossible, _⟩ <;> cases impossible
    · have same : expected sharer (some .dropping) = expected sharer (some .alive) := by
        cases sharer <;> rfl
      obtain ⟨dropsEq, freesEq, untouched⟩ := quiet_ledgers inv rfl rfl List.not_mem_nil
      exact ⟨settled, some .dropping, sharer, inv.sharers, set_current _, inv.waking,
        same.trans inv.coherent, fun _ _ _ => inv.data .alive rfl trivial, dropsEq,
        freesEq, untouched⟩
  · cases stepTo

/-- A consumer that has given up the data wakes the sharer. -/
theorem HeapInv.wake (inv : HeapInv history sharing settled current sharer)
    {share : Nat} (inside : share < settled.length) :
    HeapInvariant (history ++ [.woken])
      { sharing with consumers := sharing.consumers.set share .dropped } := by
  obtain ⟨dropsEq, freesEq, untouched⟩ := quiet_ledgers inv
    (show drops [(.woken : Event T)] = [] from rfl) rfl (by simp)
  refine ⟨settled.set share .dropped, current, sharer, inv.sharers, ?_, ?_, inv.coherent,
    ?_, ?_, freesEq, untouched⟩
  · rw [inv.consumers, List.set_append_left _ _ inside]
  · intro consumer member
    rcases List.mem_or_eq_of_mem_set member with old | rfl
    · exact inv.waking consumer old
    · exact .inl rfl
  · rw [List.length_set]
    exact inv.data
  · rw [List.length_set]
    exact dropsEq

theorem expected_clearConsumer {state : UInt8} {freed : Bool}
    (coherent : expected sharer (some .dropping) = some (state, freed)) :
    expected sharer (some .droppingData) = some (state &&& ~~~hasConsumer, freed) := by
  cases sharer <;> cases coherent <;> rfl

/-- The second snapshot of a consumer's destructor: it frees the box exactly if
the sharer is gone. -/
theorem expected_clearData {state : UInt8} {freed : Bool}
    (coherent : expected sharer (some .clearingData) = some (state, freed)) :
    (state &&& hasSharer = 0 ∧
        expected sharer (some .droppingShared) = some (state &&& ~~~hasData, freed)) ∨
      (state &&& hasSharer ≠ 0 ∧
        expected sharer none = some (state &&& ~~~hasData, freed)) := by
  cases sharer with
  | alive | dropping =>
      cases coherent
      exact .inr ⟨by decide, rfl⟩
  | dropped =>
      cases coherent
      exact .inl ⟨by decide, rfl⟩
  | writing | droppingData | droppingShared => cases coherent

theorem expected_orphan {state : UInt8} {freed : Bool}
    (coherent : expected sharer (some .droppingShared) = some (state, freed)) :
    sharer = .dropped ∧ state = new := by
  cases sharer <;> cases coherent
  exact ⟨rfl, rfl⟩

/-- The destructor of the consumer that owns the data makes its next access. -/
theorem heapInv_dropCurrent {consumer after : Consumer} {box : Memory T}
    (inv : HeapInv history sharing settled (some consumer) sharer)
    (admitted : consumer = .droppingShared → sharing.NoneWaking)
    (dropped : consumer.drop .heap sharing.box = some (box, after, events)) :
    HeapInvariant (history ++ events)
      { sharing with
        box := box
        consumers := sharing.consumers.set settled.length after } := by
  have live := not_freed_of_current inv.coherent
  have coherent := inv.coherent
  rw [inv.consumers, set_current]
  cases consumer with
  | alive | dropped => cases dropped
  | dropping =>
      simp only [Consumer.drop, touch_eq_nil live] at dropped
      cases dropped
      obtain ⟨dropsEq, freesEq, untouched⟩ := quiet_ledgers inv rfl rfl List.not_mem_nil
      exact ⟨settled, some .droppingData, sharer, inv.sharers, rfl, inv.waking,
        expected_clearConsumer coherent, fun _ _ _ => inv.data _ rfl trivial, dropsEq,
        freesEq, untouched⟩
  | droppingData =>
      obtain ⟨value, dataEq⟩ := inv.data _ rfl trivial
      simp only [Consumer.drop, Memory.dropData, touch_eq_nil live, dataEq] at dropped
      cases dropped
      have same : expected sharer (some .clearingData) =
          expected sharer (some .droppingData) := by
        cases sharer <;> rfl
      refine ⟨settled, some .clearingData, sharer, inv.sharers, rfl, inv.waking,
        same.trans coherent, ?_, ?_, ?_, ?_⟩
      · rintro _ ⟨⟩ owns
        exact owns.elim
      · rw [drops_append, inv.dropsEq]
        simp [passed, drops, List.range_succ]
      · rw [frees_append, inv.freesEq]
        rfl
      · simpa using inv.untouched
  | clearingData =>
      simp only [Consumer.drop, touch_eq_nil live] at dropped
      obtain ⟨dropsEq, freesEq, untouched⟩ := quiet_ledgers inv rfl rfl List.not_mem_nil
      rcases expected_clearData coherent with ⟨gone, after⟩ | ⟨attached, after⟩
      · rw [if_pos gone] at dropped
        cases dropped
        refine ⟨settled, some .droppingShared, sharer, inv.sharers, rfl, inv.waking,
          after, ?_, dropsEq, freesEq, untouched⟩
        rintro _ ⟨⟩ owns
        exact owns.elim
      · rw [if_neg attached] at dropped
        cases dropped
        refine ⟨settled ++ [.waking], none, sharer, inv.sharers, by simp, ?_, after, ?_,
          ?_, freesEq, untouched⟩
        · intro other member
          rcases List.mem_append.mp member with old | added
          · exact inv.waking other old
          · exact .inr ⟨List.mem_singleton.mp added, live⟩
        · rintro _ ⟨⟩
        · rw [dropsEq, List.length_append]
          rfl
  | droppingShared =>
      have done := inv.settled_dropped (admitted rfl)
      obtain ⟨rfl, stateEq⟩ := expected_orphan coherent
      simp only [Consumer.drop, Memory.dropShared, touch_eq_nil live] at dropped
      cases dropped
      refine ⟨settled ++ [.dropped], none, .dropped, inv.sharers, by simp, ?_, ?_, ?_,
        ?_, ?_, ?_⟩
      · intro other member
        rcases List.mem_append.mp member with old | added
        · exact .inl (done other old)
        · exact .inl (List.mem_singleton.mp added)
      · rw [stateEq]
        rfl
      · rintro _ ⟨⟩
      · rw [drops_append, inv.dropsEq, List.length_append]
        exact List.append_nil _
      · rw [frees_append, inv.freesEq, live]
        rfl
      · simpa using inv.untouched
  | waking =>
      cases sharer <;> cases coherent

theorem heapInv_runConsumer (inv : HeapInv history sharing settled current sharer)
    {share : Nat} (admitted : dropsApart sharing (.runConsumer share))
    (stepTo : step .heap sharing (.runConsumer share) = some (next, events)) :
    HeapInvariant (history ++ events) next := by
  simp only [dropsApart, inv.consumers] at admitted
  simp only [step, inv.consumers] at stepTo
  split at stepTo
  · rename_i consumer at_share
    rcases settled_or_current at_share with ⟨inside, member⟩ | ⟨rfl, rfl⟩
    · rcases inv.waking _ member with rfl | ⟨rfl, live⟩
      · cases stepTo
      · simp only [Consumer.drop, touch_eq_nil live] at stepTo
        cases stepTo
        rw [← inv.consumers]
        exact inv.wake inside
    · split at stepTo <;> cases stepTo
      rename_i dropped
      rw [← inv.consumers]
      refine heapInv_dropCurrent inv ?_ dropped
      rintro rfl
      simpa [at_share] using admitted
  · cases stepTo

/-- A step that keeps the destructors apart preserves the invariant. -/
theorem heapInvariant_step {action : Action T}
    (invariant : HeapInvariant history sharing) (admitted : dropsApart sharing action)
    (stepTo : step .heap sharing action = some (next, events)) :
    HeapInvariant (history ++ events) next := by
  obtain ⟨settled, current, sharer, inv⟩ := invariant
  cases action with
  | staticSharer => cases stepTo
  | tryShare => exact heapInv_tryShare inv stepTo
  | dropSharer => exact heapInv_dropSharer inv stepTo
  | runSharer => exact heapInv_runSharer inv admitted stepTo
  | serialize => exact heapInv_serialize inv stepTo
  | dropConsumer => exact heapInv_dropConsumer inv stepTo
  | runConsumer => exact heapInv_runConsumer inv admitted stepTo

theorem HeapInv.releasedOnce (inv : HeapInv history sharing settled current sharer) :
    ReleasedOnce history sharing := by
  refine ⟨inv.untouched, ?_, ?_, ?_, ?_⟩
  · rw [inv.dropsEq]
    exact List.nodup_range.map fun _ _ equal => Option.some.inj equal
  · rw [inv.dropsEq]
    simp
  · rw [inv.freesEq]
    exact Bool.toNat_le _
  · rintro ⟨sharersDone, consumersDone⟩
    obtain rfl : sharer = .dropped := sharersDone _ (by simp [inv.sharers])
    have coherent := inv.coherent
    rcases current with _ | consumer
    · have freed : sharing.box.freed = true :=
        (Prod.mk.inj (Option.some.inj coherent)).2.symm
      refine ⟨by rw [inv.freesEq, freed]; rfl, fun share => ?_⟩
      rw [inv.dropsEq, inv.consumers]
      simp [passed]
    · have member : consumer ∈ sharing.consumers := by simp [inv.consumers]
      rw [consumersDone consumer member] at coherent
      cases coherent

end Steps

/-- In every run that keeps the destructors apart, every shared value is dropped
exactly once, the box is freed exactly once, and nothing touches it afterwards. -/
theorem released_exactly_once {history : List (Event T)} {final : Sharing T}
    (run : Run (step .heap) dropsApart Sharing.boxed history final) :
    ReleasedOnce history final := by
  have invariant : HeapInvariant history final :=
    run.invariant HeapInvariant ⟨[], none, .alive, heapInv_boxed⟩
      fun holds admitted stepTo => heapInvariant_step holds admitted stepTo
  obtain ⟨settled, current, sharer, inv⟩ := invariant
  exact inv.releasedOnce

/-- The sharer takes its snapshot between the two `fetch_and`s of its consumer:
both drop the value and both free the box. -/
theorem released_twice :
    ¬ ∀ (history : List (Event Nat)) (final : Sharing Nat),
      Run (step .heap) anyStep Sharing.boxed history final →
        ReleasedOnce history final := by
  intro once
  obtain ⟨history, final, run, seen⟩ :=
    exists_run_of_exec (step .heap) anyStep (Sharing.boxed : Sharing Nat)
      [.tryShare 0 7, .runSharer 0, .dropConsumer 0, .runConsumer 0, .dropSharer 0,
        .runSharer 0, .runSharer 0, .runConsumer 0, .runConsumer 0, .runSharer 0,
        .runConsumer 0]
      Prod.snd
      (show _ = some [.shared 0 7, .droppedData (some 0), .droppedData (some 0), .freed,
        .touchedFreed, .freed] by decide +kernel)
  subst seen
  exact absurd (once _ _ run).freedOnce (by decide)

/-- Two shares in a row; the second consumer outlives the sharer. -/
theorem released_exactly_once_orphan :
    ∃ (history : List (Event Nat)) (final : Sharing Nat),
      drops history = [some 0, some 1] ∧ frees history = 1 ∧
        ReleasedOnce history final := by
  obtain ⟨history, final, run, seen⟩ :=
    exists_run_of_exec (step .heap) dropsApart (Sharing.boxed : Sharing Nat)
      [.tryShare 0 7, .runSharer 0, .serialize 0, .dropConsumer 0, .runConsumer 0,
        .runConsumer 0, .runConsumer 0, .runConsumer 0, .tryShare 0 8, .runSharer 0,
        .dropSharer 0, .runSharer 0, .dropConsumer 1, .runConsumer 1, .runConsumer 1,
        .runConsumer 1, .runConsumer 1]
      (fun reached => (drops reached.2, frees reached.2))
      (show _ = some ([some 0, some 1], 1) by decide +kernel)
  obtain ⟨dropped, freed⟩ := Prod.mk.injEq .. ▸ seen
  exact ⟨history, final, dropped, freed, released_exactly_once run⟩

end SerBox

end Mgnp
