import Mgnp.SerBoxHeap

/-!
# Reusing a static box

A `static` box can be claimed again once its state byte is back at `NEW`.  The
destructor of a `Consumer` clears `HAS_CONSUMER` before it drops the data, and
that of a `Sharer` clears its flags before it drops what a lost consumer left.
A share that begins in between has its value dropped by the older generation.
Shares that do not begin in between keep their value as long as they live.
-/

namespace Mgnp

namespace SerBox

open LabelledRuns

variable {T : Type*}

def Sharer.isDroppingData : Sharer T → Bool
  | .droppingData => true
  | _ => false

/-- No destructor is about to drop the data. -/
def Sharing.NoneDroppingData (sharing : Sharing T) : Prop :=
  (∀ sharer ∈ sharing.sharers, sharer.isDroppingData = false) ∧
    ∀ consumer ∈ sharing.consumers, consumer ≠ .droppingData

instance (sharing : Sharing T) : Decidable sharing.NoneDroppingData :=
  inferInstanceAs (Decidable (_ ∧ _))

/-- No share wins its compare-exchange while an older destructor is about to drop
the data. -/
def sharesApart (sharing : Sharing T) : Action T → Prop
  | .tryShare _ _ => sharing.box.state = hasSharer → sharing.NoneDroppingData
  | _ => True

instance (sharing : Sharing T) (action : Action T) :
    Decidable (sharesApart sharing action) :=
  match action with
  | .tryShare _ _ => inferInstanceAs (Decidable (_ = hasSharer → _))
  | .staticSharer | .dropSharer _ | .runSharer _ | .serialize _ | .dropConsumer _
  | .runConsumer _ => isTrue trivial

/-- Every consumer serializes the value of its own share, and until its destructor
begins that value is in the box and has not been dropped. -/
structure Intact (history : List (Event T)) (sharing : Sharing T) : Prop where
  sharedOnce : ∀ share value other, .shared share value ∈ history →
    .shared share other ∈ history → value = other
  serialized : ∀ share contents, .serialized share contents ∈ history →
    ∃ value, .shared share value ∈ history ∧ contents = some value
  contents : ∀ share, sharing.consumers[share]? = some .alive →
    ∃ value, .shared share value ∈ history ∧ sharing.box.data = some (share, value)
  undropped : ∀ share, sharing.consumers[share]? = some .alive →
    some share ∉ drops history

/-- Who relies on the data cell. -/
inductive Owner (T : Type*)
  | writer (sharer : Nat) (value : T)
  | consumer (share : Nat)

def Sharing.OwnedBy (sharing : Sharing T) : Owner T → Prop
  | .writer i value => sharing.sharers[i]? = some (.writing value)
  | .consumer share => sharing.consumers[share]? = some .alive ∨
      sharing.consumers[share]? = some .dropping

/-- At most one party relies on the data cell.  `HAS_CONSUMER` is set for it, and
nobody is about to drop the data under it. -/
structure Exclusive (sharing : Sharing T) : Prop where
  unique : ∀ owner other, sharing.OwnedBy owner → sharing.OwnedBy other → owner = other
  flagged : ∀ owner, sharing.OwnedBy owner → sharing.box.state &&& hasConsumer ≠ 0
  quiet : ∀ owner, sharing.OwnedBy owner → sharing.NoneDroppingData

/-- The data cell, and the values seen so far. -/
structure Preserved (history : List (Event T)) (sharing : Sharing T) : Prop where
  live : sharing.box.freed = false
  numbered : ∀ share value, .shared share value ∈ history →
    share < sharing.consumers.length
  placed : ∀ share value, sharing.box.data = some (share, value) →
    share < sharing.consumers.length
  dropped : ∀ share, some share ∈ drops history → share < sharing.consumers.length
  owned : ∀ share, sharing.OwnedBy (.consumer share) →
    (∃ value, .shared share value ∈ history ∧ sharing.box.data = some (share, value)) ∧
      some share ∉ drops history
  sharedOnce : ∀ share value other, .shared share value ∈ history →
    .shared share other ∈ history → value = other
  serialized : ∀ share contents, .serialized share contents ∈ history →
    ∃ value, .shared share value ∈ history ∧ contents = some value

def StaticInv (history : List (Event T)) (sharing : Sharing T) : Prop :=
  Exclusive sharing ∧ Preserved history sharing

section Flags

variable {state : UInt8}

theorem and_clear_hasConsumer {kept : UInt8} (others : kept &&& hasConsumer = hasConsumer) :
    (state &&& kept) &&& hasConsumer = state &&& hasConsumer := by
  rw [UInt8.and_assoc, others]

theorem hasSharer_without_consumer : hasSharer &&& hasConsumer = 0 := by
  decide

theorem new_without_consumer : new &&& hasConsumer = 0 := by
  decide

theorem shared_with_consumer : shared &&& hasConsumer ≠ 0 := by
  decide

end Flags

section Lists

variable {α : Type*} {list : List α} {i j : Nat} {old new value : α}

/-- What a list holds after one of its elements has been replaced. -/
theorem getElem?_set_eq_some (at_i : list[i]? = some old) :
    (list.set i new)[j]? = some value ↔
      (j = i ∧ new = value) ∨ (j ≠ i ∧ list[j]? = some value) := by
  obtain ⟨inside, _⟩ := List.getElem?_eq_some_iff.mp at_i
  by_cases same : j = i
  · subst same
    simp [inside]
  · simp [List.getElem?_set_ne (Ne.symm same), same]

theorem getElem?_append_singleton_eq_some :
    (list ++ [new])[j]? = some value ↔
      list[j]? = some value ∨ (j = list.length ∧ new = value) := by
  rcases Nat.lt_trichotomy j list.length with inside | rfl | outside
  · rw [List.getElem?_append_left inside]
    simp [Nat.ne_of_lt inside]
  · simp
  · have before : list[j]? = none := List.getElem?_eq_none_iff.mpr (Nat.le_of_lt outside)
    have after : (list ++ [new])[j]? = none := by
      rw [List.getElem?_eq_none_iff, List.length_append, List.length_singleton]
      omega
    simp [before, after, Nat.ne_of_gt outside]

end Lists

section Steps

variable {sharing next : Sharing T} {history events : List (Event T)}

/-- A step after which nobody new relies on the data cell. -/
theorem Exclusive.of_owners (exclusive : Exclusive sharing)
    (owners : ∀ owner, next.OwnedBy owner → sharing.OwnedBy owner)
    (flag : ∀ owner, next.OwnedBy owner →
      next.box.state &&& hasConsumer = sharing.box.state &&& hasConsumer)
    (quiet : ∀ owner, next.OwnedBy owner → sharing.NoneDroppingData →
      next.NoneDroppingData) : Exclusive next := by
  constructor
  · intro owner other owned otherOwned
    exact exclusive.unique owner other (owners owner owned) (owners other otherOwned)
  · intro owner owned
    rw [flag owner owned]
    exact exclusive.flagged owner (owners owner owned)
  · intro owner owned
    exact quiet owner owned (exclusive.quiet owner (owners owner owned))

/-- Without `HAS_CONSUMER` nobody relies on the data cell. -/
theorem Exclusive.not_owned (exclusive : Exclusive sharing)
    (unflagged : sharing.box.state &&& hasConsumer = 0) (owner : Owner T) :
    ¬ sharing.OwnedBy owner :=
  fun owned => exclusive.flagged owner owned unflagged

/-- A step that leaves the data cell alone, neither shares nor drops, and serializes
nothing wrong. -/
theorem Preserved.frame (preserved : Preserved history sharing)
    (data : next.box.data = sharing.box.data) (freed : next.box.freed = sharing.box.freed)
    (length : next.consumers.length = sharing.consumers.length)
    (owners : ∀ share, next.OwnedBy (.consumer share) → sharing.OwnedBy (.consumer share))
    (unshared : ∀ share value, .shared share value ∉ events) (noDrop : drops events = [])
    (serialized : ∀ share contents, .serialized share contents ∈ events →
      ∃ value, .shared share value ∈ history ∧ contents = some value) :
    Preserved (history ++ events) next := by
  have old : ∀ {share value}, .shared share value ∈ history ++ events →
      .shared share value ∈ history := by
    intro share value member
    exact (List.mem_append.mp member).resolve_right (unshared share value)
  have sameDrops : drops (history ++ events) = drops history := by
    rw [drops_append, noDrop, List.append_nil]
  constructor
  · rw [freed]
    exact preserved.live
  · intro share value member
    rw [length]
    exact preserved.numbered share value (old member)
  · intro share value placed
    rw [length]
    exact preserved.placed share value (data ▸ placed)
  · intro share dropped
    rw [length]
    exact preserved.dropped share (sameDrops ▸ dropped)
  · intro share owned
    obtain ⟨⟨value, member, placed⟩, undropped⟩ := preserved.owned share (owners share owned)
    rw [data, sameDrops]
    exact ⟨⟨value, List.mem_append_left _ member, placed⟩, undropped⟩
  · intro share value other member otherMember
    exact preserved.sharedOnce share value other (old member) (old otherMember)
  · intro share contents member
    rcases List.mem_append.mp member with before | now
    · obtain ⟨value, shared, same⟩ := preserved.serialized share contents before
      exact ⟨value, List.mem_append_left _ shared, same⟩
    · obtain ⟨value, shared, same⟩ := serialized share contents now
      exact ⟨value, List.mem_append_left _ shared, same⟩

/-- A step that reports nothing and leaves the data cell alone. -/
theorem Preserved.silent (preserved : Preserved history sharing)
    (data : next.box.data = sharing.box.data) (freed : next.box.freed = sharing.box.freed)
    (length : next.consumers.length = sharing.consumers.length)
    (owners : ∀ share, next.OwnedBy (.consumer share) → sharing.OwnedBy (.consumer share)) :
    Preserved (history ++ []) next := by
  apply preserved.frame data freed length owners <;> simp [drops]

/-- Nobody relies on the data cell, and its value is dropped. -/
theorem Preserved.dropData (preserved : Preserved history sharing)
    (box : next.box = sharing.box)
    (length : next.consumers.length = sharing.consumers.length)
    (unowned : ∀ share, ¬ next.OwnedBy (.consumer share)) :
    Preserved (history ++ [.droppedData (sharing.box.data.map Prod.fst)]) next := by
  have old : ∀ {share value},
      .shared share value ∈ history ++ [.droppedData (sharing.box.data.map Prod.fst)] →
        .shared share value ∈ history := by
    intro share value member
    simpa using member
  constructor
  · rw [box]
    exact preserved.live
  · intro share value member
    rw [length]
    exact preserved.numbered share value (old member)
  · intro share value placed
    rw [length]
    exact preserved.placed share value (box ▸ placed)
  · intro share dropped
    rw [length]
    rw [drops_append] at dropped
    rcases List.mem_append.mp dropped with before | now
    · exact preserved.dropped share before
    · have isData : some share = sharing.box.data.map Prod.fst := by
        simpa [drops] using now
      obtain ⟨⟨found, value⟩, placed, rfl⟩ := Option.map_eq_some_iff.mp isData.symm
      exact preserved.placed found value placed
  · intro share owned
    exact absurd owned (unowned share)
  · intro share value other member otherMember
    exact preserved.sharedOnce share value other (old member) (old otherMember)
  · intro share contents member
    obtain ⟨value, shared, same⟩ := preserved.serialized share contents (by simpa using member)
    exact ⟨value, List.mem_append_left _ shared, same⟩

/-- Replacing a sharer by one that is not writing makes no new owner. -/
theorem ownedBy_of_setSharer {i : Nat} {old : Sharer T} (state : UInt8) (new : Sharer T)
    (at_i : sharing.sharers[i]? = some old) (idle : ∀ value, new ≠ .writing value)
    (owner : Owner T)
    (owned : Sharing.OwnedBy { sharing with
      box := { sharing.box with state := state }
      sharers := sharing.sharers.set i new } owner) : sharing.OwnedBy owner := by
  cases owner with
  | consumer share => exact owned
  | writer j value =>
      rcases (getElem?_set_eq_some at_i).mp owned with ⟨-, same⟩ | ⟨-, before⟩
      · exact absurd same (idle value)
      · exact before

/-- Replacing a consumer by one whose destructor has begun to release makes no new
owner, and it is not one itself. -/
theorem ownedBy_of_setConsumer {share : Nat} {old : Consumer} (box : Memory T)
    (new : Consumer)
    (at_share : sharing.consumers[share]? = some old)
    (released : new ≠ .alive ∧ new ≠ .dropping) (owner : Owner T)
    (owned : Sharing.OwnedBy { sharing with
      box := box
      consumers := sharing.consumers.set share new } owner) :
    sharing.OwnedBy owner ∧ owner ≠ .consumer share := by
  cases owner with
  | writer j value => exact ⟨owned, by simp⟩
  | consumer other =>
      have kept : ∀ {pc}, pc ≠ new →
          (sharing.consumers.set share new)[other]? = some pc →
          other ≠ share ∧ sharing.consumers[other]? = some pc := by
        intro pc different found
        rcases (getElem?_set_eq_some at_share).mp found with ⟨-, same⟩ | before
        · exact absurd same.symm different
        · exact before
      rcases owned with found | found
      · obtain ⟨different, before⟩ := kept (Ne.symm released.1) found
        exact ⟨.inl before, by simpa using different⟩
      · obtain ⟨different, before⟩ := kept (Ne.symm released.2) found
        exact ⟨.inr before, by simpa using different⟩

theorem noneDroppingData_setSharer {i : Nat} {new : Sharer T}
    (none : sharing.NoneDroppingData) (notDropping : new.isDroppingData = false)
    {box : Memory T} :
    Sharing.NoneDroppingData
      { sharing with box := box, sharers := sharing.sharers.set i new } := by
  refine ⟨?_, none.2⟩
  intro sharer member
  rcases List.mem_or_eq_of_mem_set member with old | rfl
  · exact none.1 sharer old
  · exact notDropping

theorem noneDroppingData_setConsumer {share : Nat} {new : Consumer}
    (none : sharing.NoneDroppingData) (notDropping : new ≠ .droppingData)
    {box : Memory T} :
    Sharing.NoneDroppingData
      { sharing with box := box, consumers := sharing.consumers.set share new } := by
  refine ⟨none.1, ?_⟩
  intro consumer member
  rcases List.mem_or_eq_of_mem_set member with old | rfl
  · exact none.2 consumer old
  · exact notDropping

/-- A step of a sharer that leaves the data cell alone. -/
theorem StaticInv.setSharer (inv : StaticInv history sharing) {i : Nat} {old new : Sharer T}
    {state : UInt8} (at_i : sharing.sharers[i]? = some old)
    (idle : ∀ value, new ≠ .writing value)
    (flag : state &&& hasConsumer = sharing.box.state &&& hasConsumer)
    (quiet : ∀ owner, sharing.OwnedBy owner → new.isDroppingData = false) :
    StaticInv (history ++ []) { sharing with
      box := { sharing.box with state := state }
      sharers := sharing.sharers.set i new } := by
  have owners := ownedBy_of_setSharer state new at_i idle
  constructor
  · apply inv.1.of_owners owners
    · exact fun _ _ => flag
    · exact fun owner owned none =>
        noneDroppingData_setSharer none (quiet owner (owners owner owned))
  · exact inv.2.silent rfl rfl rfl fun share => owners (.consumer share)

/-- A step of a consumer's destructor that leaves the data cell alone. -/
theorem StaticInv.setConsumer (inv : StaticInv history sharing) {share : Nat}
    {old new : Consumer} {state : UInt8} (at_share : sharing.consumers[share]? = some old)
    (released : new ≠ .alive ∧ new ≠ .dropping) (notDropping : new ≠ .droppingData)
    (flag : state &&& hasConsumer = sharing.box.state &&& hasConsumer)
    (unshared : ∀ share value, .shared share value ∉ events) (noDrop : drops events = [])
    (unread : ∀ share contents, .serialized share contents ∉ events) :
    StaticInv (history ++ events) { sharing with
      box := { sharing.box with state := state }
      consumers := sharing.consumers.set share new } := by
  have owners := fun owner owned =>
    (ownedBy_of_setConsumer { sharing.box with state := state } new at_share released
      owner owned).1
  constructor
  · apply inv.1.of_owners owners
    · exact fun _ _ => flag
    · exact fun _ _ none => noneDroppingData_setConsumer none notDropping
  · exact inv.2.frame rfl rfl (List.length_set ..) (fun other => owners (.consumer other))
      unshared noDrop fun share contents member => absurd member (unread share contents)

theorem staticInv_claim (inv : StaticInv history sharing)
    (stepTo : step .static sharing .staticSharer = some (next, events)) :
    StaticInv (history ++ events) next := by
  obtain ⟨exclusive, preserved⟩ := inv
  simp only [step] at stepTo
  split at stepTo <;> cases stepTo
  · rename_i isNew
    have unowned := exclusive.not_owned (by rw [isNew]; exact new_without_consumer)
    have owners : ∀ owner, Sharing.OwnedBy { sharing with
        box := { sharing.box with state := hasSharer }
        sharers := sharing.sharers ++ [.alive] } owner → sharing.OwnedBy owner := by
      intro owner owned
      cases owner with
      | consumer share => exact owned
      | writer j value =>
          rcases getElem?_append_singleton_eq_some.mp owned with before | ⟨-, same⟩
          · exact before
          · cases same
    constructor
    · apply exclusive.of_owners owners
      · intro owner owned
        exact absurd (owners owner owned) (unowned owner)
      · intro owner owned
        exact absurd (owners owner owned) (unowned owner)
    · refine preserved.frame rfl rfl rfl (fun share owned => owners (.consumer share) owned)
        ?_ rfl ?_ <;> simp
  · refine ⟨exclusive, preserved.frame rfl rfl rfl (fun _ => id) ?_ rfl ?_⟩ <;> simp

theorem staticInv_tryShare (inv : StaticInv history sharing) {i : Nat} {value : T}
    (admitted : sharesApart sharing (.tryShare i value))
    (stepTo : step .static sharing (.tryShare i value) = some (next, events)) :
    StaticInv (history ++ events) next := by
  obtain ⟨exclusive, preserved⟩ := inv
  simp only [step, touch_eq_nil preserved.live] at stepTo
  split at stepTo
  · rename_i at_i
    split at stepTo <;> cases stepTo
    · rename_i ready
      have unowned := exclusive.not_owned (by rw [ready]; exact hasSharer_without_consumer)
      have onlyWriter : ∀ owner, Sharing.OwnedBy { sharing with
          box := { sharing.box with state := shared }
          sharers := sharing.sharers.set i (.writing value) } owner →
          owner = .writer i value := by
        intro owner owned
        cases owner with
        | consumer share => exact absurd owned (unowned (.consumer share))
        | writer j other =>
            rcases (getElem?_set_eq_some at_i).mp owned with ⟨rfl, same⟩ | ⟨-, before⟩
            · cases same
              rfl
            · exact absurd before (unowned (.writer j other))
      constructor
      · constructor
        · intro owner other owned otherOwned
          rw [onlyWriter owner owned, onlyWriter other otherOwned]
        · intro owner owned
          exact shared_with_consumer
        · intro owner owned
          exact noneDroppingData_setSharer (admitted ready) rfl
      · exact preserved.silent rfl rfl rfl fun share owned => owned
    · refine ⟨exclusive, preserved.frame rfl rfl rfl (fun _ => id) ?_ rfl ?_⟩ <;> simp
  · cases stepTo

theorem staticInv_dropSharer (inv : StaticInv history sharing) {i : Nat}
    (stepTo : step .static sharing (.dropSharer i) = some (next, events)) :
    StaticInv (history ++ events) next := by
  simp only [step] at stepTo
  split at stepTo <;> cases stepTo
  rename_i at_i
  exact inv.setSharer at_i (by simp) rfl fun _ _ => rfl

/-- The share of a new consumer is written, and no older consumer relies on the data
cell. -/
theorem Preserved.write (preserved : Preserved history sharing) {sharers : List (Sharer T)}
    {value : T}
    (only : ∀ share, Sharing.OwnedBy
      { box := { sharing.box with data := some (sharing.consumers.length, value) }
        sharers := sharers
        consumers := sharing.consumers ++ [.alive] } (.consumer share) →
      share = sharing.consumers.length) :
    Preserved (history ++ [.shared sharing.consumers.length value])
      { box := { sharing.box with data := some (sharing.consumers.length, value) }
        sharers := sharers
        consumers := sharing.consumers ++ [.alive] } := by
  have unshared : ∀ other, .shared sharing.consumers.length other ∉ history := by
    intro other member
    exact Nat.lt_irrefl _ (preserved.numbered _ other member)
  have noDrop : drops (history ++ [.shared sharing.consumers.length value]) =
      drops history := by
    rw [drops_append]
    exact List.append_nil _
  constructor
  · exact preserved.live
  · intro share other member
    rw [List.length_append, List.length_singleton]
    rcases List.mem_append.mp member with old | added
    · exact Nat.lt_succ_of_lt (preserved.numbered share other old)
    · cases List.mem_singleton.mp added
      exact Nat.lt_succ_self _
  · intro share other placed
    cases placed
    simp
  · intro share dropped
    rw [noDrop] at dropped
    simpa using Nat.lt_succ_of_lt (preserved.dropped share dropped)
  · intro share owned
    obtain rfl := only share owned
    refine ⟨⟨value, by simp, rfl⟩, ?_⟩
    rw [noDrop]
    intro dropped
    exact Nat.lt_irrefl _ (preserved.dropped _ dropped)
  · intro share first second member otherMember
    rcases List.mem_append.mp member with old | added
    · rcases List.mem_append.mp otherMember with otherOld | otherAdded
      · exact preserved.sharedOnce share first second old otherOld
      · cases List.mem_singleton.mp otherAdded
        exact absurd old (unshared first)
    · cases List.mem_singleton.mp added
      rcases List.mem_append.mp otherMember with otherOld | otherAdded
      · exact absurd otherOld (unshared second)
      · cases List.mem_singleton.mp otherAdded
        rfl
  · intro share contents member
    obtain ⟨found, shared, same⟩ :=
      preserved.serialized share contents (by simpa using member)
    exact ⟨found, List.mem_append_left _ shared, same⟩

/-- The value of a share is written, and its consumer takes over the data cell. -/
theorem staticInv_write (inv : StaticInv history sharing) {i : Nat} {value : T}
    (at_i : sharing.sharers[i]? = some (.writing value)) :
    StaticInv (history ++ [.shared sharing.consumers.length value])
      { box := { sharing.box with data := some (sharing.consumers.length, value) }
        sharers := sharing.sharers.set i .alive
        consumers := sharing.consumers ++ [.alive] } := by
  obtain ⟨exclusive, preserved⟩ := inv
  have isOwner : sharing.OwnedBy (.writer i value) := at_i
  have absent : ∀ share, ¬ sharing.OwnedBy (.consumer share) := by
    intro share owned
    cases exclusive.unique _ _ owned isOwner
  have newest : ∀ {share pc}, pc = .alive ∨ pc = .dropping →
      (sharing.consumers ++ [.alive])[share]? = some pc →
      share = sharing.consumers.length := by
    intro share pc owns found
    rcases getElem?_append_singleton_eq_some.mp found with before | ⟨same, -⟩
    · rcases owns with rfl | rfl
      · exact absurd (.inl before) (absent share)
      · exact absurd (.inr before) (absent share)
    · exact same
  have onlyConsumer : ∀ owner, Sharing.OwnedBy
      { box := { sharing.box with data := some (sharing.consumers.length, value) }
        sharers := sharing.sharers.set i .alive
        consumers := sharing.consumers ++ [.alive] } owner →
      owner = .consumer sharing.consumers.length := by
    intro owner owned
    cases owner with
    | writer j other =>
        rcases (getElem?_set_eq_some at_i).mp owned with ⟨-, same⟩ | ⟨different, before⟩
        · cases same
        · have otherOwner : sharing.OwnedBy (.writer j other) := before
          cases exclusive.unique _ _ otherOwner isOwner
          exact absurd rfl different
    | consumer share =>
        rcases owned with found | found
        · rw [newest (.inl rfl) found]
        · rw [newest (.inr rfl) found]
  constructor
  · constructor
    · intro owner other owned otherOwned
      rw [onlyConsumer owner owned, onlyConsumer other otherOwned]
    · intro owner owned
      exact exclusive.flagged _ isOwner
    · intro owner owned
      have none := exclusive.quiet _ isOwner
      constructor
      · intro sharer member
        rcases List.mem_or_eq_of_mem_set member with old | rfl
        · exact none.1 sharer old
        · rfl
      · intro consumer member
        rcases List.mem_append.mp member with old | added
        · exact none.2 consumer old
        · rw [List.mem_singleton.mp added]
          simp
  · refine preserved.write fun share owned => ?_
    cases onlyConsumer _ owned
    rfl

theorem staticInv_runSharer (inv : StaticInv history sharing) {i : Nat}
    (stepTo : step .static sharing (.runSharer i) = some (next, events)) :
    StaticInv (history ++ events) next := by
  obtain ⟨exclusive, preserved⟩ := id inv
  simp only [step, touch_eq_nil preserved.live] at stepTo
  split at stepTo
  · rename_i value at_i
    cases stepTo
    exact staticInv_write inv at_i
  · rename_i sharer _ at_i
    cases sharer with
    | alive | writing | dropped => cases stepTo
    | dropping =>
        simp only [Sharer.drop, touch_eq_nil preserved.live] at stepTo
        cases stepTo
        have sameFlag : (sharing.box.state &&& ~~~(hasSharer ||| hasData)) &&& hasConsumer =
            sharing.box.state &&& hasConsumer := and_clear_hasConsumer (by decide)
        refine inv.setSharer at_i (by intro value; split_ifs <;> simp) sameFlag ?_
        intro owner owned
        rw [if_neg (exclusive.flagged owner owned)]
        rfl
    | droppingData =>
        simp only [Sharer.drop, Memory.dropData, touch_eq_nil preserved.live] at stepTo
        cases stepTo
        have unowned : ∀ owner, ¬ sharing.OwnedBy owner := by
          intro owner owned
          have quiet := (exclusive.quiet owner owned).1 _ (List.mem_of_getElem? at_i)
          cases quiet
        have owners := ownedBy_of_setSharer sharing.box.state .droppingShared at_i (by simp)
        constructor
        · apply exclusive.of_owners owners
          · exact fun _ _ => rfl
          · exact fun owner owned _ => absurd (owners owner owned) (unowned owner)
        · exact preserved.dropData rfl rfl
            fun share owned => unowned _ (owners (.consumer share) owned)
    | droppingShared =>
        simp only [Sharer.drop, Memory.dropShared, touch_eq_nil preserved.live] at stepTo
        cases stepTo
        have sameFlag : (sharing.box.state &&& ~~~hasSharer) &&& hasConsumer =
            sharing.box.state &&& hasConsumer := and_clear_hasConsumer (by decide)
        exact inv.setSharer at_i (by simp) sameFlag fun _ _ => rfl
  · cases stepTo

theorem staticInv_serialize (inv : StaticInv history sharing) {share : Nat}
    (stepTo : step .static sharing (.serialize share) = some (next, events)) :
    StaticInv (history ++ events) next := by
  obtain ⟨exclusive, preserved⟩ := inv
  simp only [step, touch_eq_nil preserved.live] at stepTo
  split at stepTo
  · rename_i at_share
    cases stepTo
    have isOwner : sharing.OwnedBy (.consumer share) := .inl at_share
    obtain ⟨⟨value, member, placed⟩, -⟩ := preserved.owned share isOwner
    refine ⟨exclusive, preserved.frame rfl rfl rfl (fun _ => id) ?_ rfl ?_⟩
    · simp
    · intro other contents serialized
      obtain ⟨rfl, rfl⟩ : other = share ∧ contents = sharing.box.data.map Prod.snd := by
        simpa using serialized
      exact ⟨value, member, by rw [placed]; rfl⟩
  · cases stepTo

theorem staticInv_dropConsumer (inv : StaticInv history sharing) {share : Nat}
    (stepTo : step .static sharing (.dropConsumer share) = some (next, events)) :
    StaticInv (history ++ events) next := by
  obtain ⟨exclusive, preserved⟩ := inv
  simp only [step] at stepTo
  split at stepTo
  · rename_i at_share
    cases stepTo
    have owners : ∀ owner, Sharing.OwnedBy { sharing with
        consumers := sharing.consumers.set share .dropping } owner →
        sharing.OwnedBy owner := by
      intro owner owned
      cases owner with
      | writer j value => exact owned
      | consumer other =>
          rcases owned with found | found
          · rcases (getElem?_set_eq_some at_share).mp found with ⟨-, same⟩ | ⟨-, before⟩
            · cases same
            · exact .inl before
          · rcases (getElem?_set_eq_some at_share).mp found with ⟨rfl, -⟩ | ⟨-, before⟩
            · exact .inl at_share
            · exact .inr before
    constructor
    · apply exclusive.of_owners owners
      · exact fun _ _ => rfl
      · exact fun _ _ none => noneDroppingData_setConsumer none (by simp)
    · exact preserved.silent rfl rfl (List.length_set ..)
        fun other owned => owners (.consumer other) owned
  · cases stepTo

theorem staticInv_runConsumer (inv : StaticInv history sharing) {share : Nat}
    (stepTo : step .static sharing (.runConsumer share) = some (next, events)) :
    StaticInv (history ++ events) next := by
  obtain ⟨exclusive, preserved⟩ := id inv
  simp only [step] at stepTo
  split at stepTo
  · rename_i consumer at_share
    cases consumer with
    | alive | dropped => cases stepTo
    | dropping =>
        simp only [Consumer.drop, touch_eq_nil preserved.live] at stepTo
        cases stepTo
        have isOwner : sharing.OwnedBy (.consumer share) := .inr at_share
        have unowned : ∀ owner, ¬ Sharing.OwnedBy { sharing with
            box := { sharing.box with state := sharing.box.state &&& ~~~hasConsumer }
            consumers := sharing.consumers.set share .droppingData } owner := by
          intro owner owned
          obtain ⟨before, different⟩ := ownedBy_of_setConsumer _ _ at_share (by simp) owner owned
          exact different (exclusive.unique _ _ before isOwner)
        constructor
        · apply exclusive.of_owners
          · exact fun owner owned => absurd owned (unowned owner)
          · exact fun owner owned => absurd owned (unowned owner)
          · exact fun owner owned => absurd owned (unowned owner)
        · exact preserved.silent rfl rfl (List.length_set ..)
            fun other owned => absurd owned (unowned _)
    | droppingData =>
        simp only [Consumer.drop, Memory.dropData, touch_eq_nil preserved.live] at stepTo
        cases stepTo
        have unowned : ∀ owner, ¬ sharing.OwnedBy owner := by
          intro owner owned
          exact (exclusive.quiet owner owned).2 _ (List.mem_of_getElem? at_share) rfl
        have owners := fun owner owned =>
          (ownedBy_of_setConsumer sharing.box .clearingData at_share (by simp) owner owned).1
        constructor
        · apply exclusive.of_owners owners
          · exact fun _ _ => rfl
          · exact fun owner owned _ => absurd (owners owner owned) (unowned owner)
        · exact preserved.dropData rfl (List.length_set ..)
            fun other owned => unowned _ (owners (.consumer other) owned)
    | clearingData =>
        simp only [Consumer.drop, touch_eq_nil preserved.live] at stepTo
        cases stepTo
        have sameFlag : (sharing.box.state &&& ~~~hasData) &&& hasConsumer =
            sharing.box.state &&& hasConsumer := and_clear_hasConsumer (by decide)
        exact inv.setConsumer at_share (by split_ifs <;> simp) (by split_ifs <;> simp)
          sameFlag (by simp) rfl (by simp)
    | droppingShared =>
        simp only [Consumer.drop, Memory.dropShared, touch_eq_nil preserved.live] at stepTo
        cases stepTo
        have sameFlag : (sharing.box.state &&& ~~~hasSharer) &&& hasConsumer =
            sharing.box.state &&& hasConsumer := and_clear_hasConsumer (by decide)
        exact inv.setConsumer at_share (by simp) (by simp) sameFlag (by simp) rfl (by simp)
    | waking =>
        simp only [Consumer.drop, touch_eq_nil preserved.live] at stepTo
        cases stepTo
        exact inv.setConsumer at_share (by simp) (by simp) rfl (by simp) rfl (by simp)
  · cases stepTo

theorem staticInv_step {action : Action T} (inv : StaticInv history sharing)
    (admitted : sharesApart sharing action)
    (stepTo : step .static sharing action = some (next, events)) :
    StaticInv (history ++ events) next := by
  cases action with
  | staticSharer => exact staticInv_claim inv stepTo
  | tryShare => exact staticInv_tryShare inv admitted stepTo
  | dropSharer => exact staticInv_dropSharer inv stepTo
  | runSharer => exact staticInv_runSharer inv stepTo
  | serialize => exact staticInv_serialize inv stepTo
  | dropConsumer => exact staticInv_dropConsumer inv stepTo
  | runConsumer => exact staticInv_runConsumer inv stepTo

theorem staticInv_ofStatic : StaticInv [] (Sharing.ofStatic : Sharing T) := by
  have unowned : ∀ owner : Owner T, ¬ Sharing.ofStatic.OwnedBy owner := by
    intro owner
    cases owner <;> simp [Sharing.OwnedBy, Sharing.ofStatic]
  constructor
  · constructor
    · exact fun owner _ owned => absurd owned (unowned owner)
    · exact fun owner owned => absurd owned (unowned owner)
    · exact fun owner owned => absurd owned (unowned owner)
  · constructor
    · rfl
    · simp
    · simp [Sharing.ofStatic]
    · simp [drops]
    · exact fun share owned => absurd owned (unowned _)
    · simp
    · simp

end Steps

/-- In every run in which no share begins while an older destructor is about to
drop the data, every consumer serializes its own value until its destructor
begins, and nobody drops that value before. -/
theorem serialized_intact {history : List (Event T)} {final : Sharing T}
    (run : Run (step .static) sharesApart Sharing.ofStatic history final) :
    Intact history final := by
  obtain ⟨-, preserved⟩ := run.invariant StaticInv staticInv_ofStatic
    fun holds admitted stepTo => staticInv_step holds admitted stepTo
  refine ⟨preserved.sharedOnce, preserved.serialized, ?_, ?_⟩
  · exact fun share alive => (preserved.owned share (.inl alive)).1
  · exact fun share alive => (preserved.owned share (.inl alive)).2

/-- Two generations in a row. -/
theorem serialized_intact_reused :
    ∃ (history : List (Event Nat)) (final : Sharing Nat),
      .serialized 0 (some 7) ∈ history ∧ .serialized 1 (some 8) ∈ history ∧
        Intact history final := by
  obtain ⟨history, final, run, seen⟩ :=
    exists_run_of_exec (step .static) sharesApart (Sharing.ofStatic : Sharing Nat)
      [.staticSharer, .tryShare 0 7, .runSharer 0, .serialize 0, .dropSharer 0,
        .runSharer 0, .dropConsumer 0, .runConsumer 0, .runConsumer 0, .runConsumer 0,
        .runConsumer 0, .staticSharer, .tryShare 1 8, .runSharer 1, .serialize 1]
      (fun reached => decide
        (.serialized 0 (some 7) ∈ reached.2 ∧ .serialized 1 (some 8) ∈ reached.2))
      (show _ = some true by decide +kernel)
  obtain ⟨first, second⟩ := of_decide_eq_true seen
  exact ⟨history, final, first, second, serialized_intact run⟩

/-- The sharer is gone when the consumer clears `HAS_CONSUMER`, so the box is new
again.  The next generation claims it and shares a value, which the old consumer
then drops. -/
theorem serialized_after_drop :
    ¬ ∀ (history : List (Event Nat)) (final : Sharing Nat),
      Run (step .static) anyStep Sharing.ofStatic history final →
        Intact history final := by
  intro intact
  obtain ⟨history, final, run, seen⟩ :=
    exists_run_of_exec (step .static) anyStep (Sharing.ofStatic : Sharing Nat)
      [.staticSharer, .tryShare 0 7, .runSharer 0, .dropSharer 0, .runSharer 0,
        .dropConsumer 0, .runConsumer 0, .staticSharer, .tryShare 1 8, .runSharer 1,
        .runConsumer 0]
      (fun reached => decide
        (reached.1.consumers[1]? = some Consumer.alive ∧ some 1 ∈ drops reached.2))
      (show _ = some true by decide +kernel)
  obtain ⟨alive, dropped⟩ := of_decide_eq_true seen
  exact (intact history final run).undropped 1 alive dropped

end SerBox

end Mgnp
