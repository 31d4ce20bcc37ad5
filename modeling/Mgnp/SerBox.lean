import Mgnp.LabelledRuns

/-!
# Shared serializable boxes

This file translates `serbox.rs`.  A `SerBox` is one state byte and one data
cell, on the heap or in a `static`.  `Sharer`s and `Consumer`s are lists that
only grow, and each access of theirs to the box is one step, so a run of `step`
is an interleaving of the two destructors over any number of generations.

The wait queue reports its wakes as events.  `Sharer::share` is a loop around
`try_share` and a wait that may end at any time, so it needs no step of its own.
-/

namespace Mgnp

namespace SerBox

def new : UInt8 := 0

def hasSharer : UInt8 := (1 : UInt8) <<< 0

def hasData : UInt8 := (1 : UInt8) <<< 1

def hasConsumer : UInt8 := (1 : UInt8) <<< 2

def shared : UInt8 := hasConsumer ||| hasData ||| hasSharer

/-- Whether `drop_shared` is `drop_box` or `drop_static`. -/
inductive Storage
  | heap
  | static
  deriving DecidableEq

/-- The memory of the box. -/
structure Memory (T : Type*) where
  state : UInt8
  /-- The value last written, with the number of the share that wrote it.
  Dropping a value leaves its bytes in place. -/
  data : Option (Nat × T)
  /-- Whether a heap box has been deallocated. -/
  freed : Bool

/-- Where a `Sharer` stands.  Each constructor but the first and the last names
its next access to the box. -/
inductive Sharer (T : Type*)
  | alive
  /-- `try_share` won its compare-exchange; before writing the value. -/
  | writing (value : T)
  /-- Its destructor, before the `fetch_and`. -/
  | dropping
  /-- Its destructor found data without a consumer. -/
  | droppingData
  | droppingShared
  | dropped
  deriving DecidableEq

/-- Where a `Consumer` stands. -/
inductive Consumer
  | alive
  /-- Its destructor, before the `fetch_and` of `HAS_CONSUMER`. -/
  | dropping
  | droppingData
  /-- Before the `fetch_and` of `HAS_DATA`. -/
  | clearingData
  | droppingShared
  /-- Before `sharer_ready.wake()`. -/
  | waking
  | dropped
  deriving DecidableEq

/-- A box with all `Sharer`s and `Consumer`s it has had.  The number of a
consumer is that of the share that created it. -/
structure Sharing (T : Type*) where
  box : Memory T
  sharers : List (Sharer T)
  consumers : List Consumer

inductive Event (T : Type*)
  /-- `static_sharer` returned a new `Sharer`. -/
  | claimed (sharer : Nat)
  | claimFailed
  | shared (share : Nat) (value : T)
  /-- `try_share` returned its value to the caller. -/
  | shareFailed (sharer : Nat) (value : T)
  /-- A consumer serialized the contents of the data cell. -/
  | serialized (share : Nat) (contents : Option T)
  /-- The value of this share was dropped in place. -/
  | droppedData (share : Option Nat)
  | freed
  | woken
  /-- An access to the box after it was freed. -/
  | touchedFreed
  deriving DecidableEq

inductive Action (T : Type*)
  | staticSharer
  | tryShare (sharer : Nat) (value : T)
  /-- The sharer's destructor is called. -/
  | dropSharer (sharer : Nat)
  /-- The next access of a sharer. -/
  | runSharer (sharer : Nat)
  | serialize (share : Nat)
  | dropConsumer (share : Nat)
  | runConsumer (share : Nat)

section Steps

variable {T : Type*}

/-- What an access to the box reveals by itself. -/
def Memory.touch (box : Memory T) : List (Event T) :=
  if box.freed then [.touchedFreed] else []

/-- `drop_in_place` on the data cell. -/
def Memory.dropData (box : Memory T) : List (Event T) :=
  box.touch ++ [.droppedData (box.data.map Prod.fst)]

/-- `drop_box` and `drop_static`. -/
def Memory.dropShared (storage : Storage) (box : Memory T) :
    Memory T × List (Event T) :=
  match storage with
  | .heap => ({ box with freed := true }, box.touch ++ [.freed])
  | .static => ({ box with state := box.state &&& ~~~hasSharer }, box.touch)

/-- The next access of a sharer's destructor. -/
def Sharer.drop (storage : Storage) (box : Memory T) :
    Sharer T → Option (Memory T × Sharer T × List (Event T))
  | .dropping =>
      let state := box.state
      let next : Sharer T :=
        if state &&& hasConsumer = 0 then
          if state &&& hasData ≠ 0 then .droppingData else .droppingShared
        else .dropped
      some ({ box with state := state &&& ~~~(hasSharer ||| hasData) }, next, box.touch)
  | .droppingData => some (box, .droppingShared, box.dropData)
  | .droppingShared =>
      let result := box.dropShared storage
      some (result.1, .dropped, result.2)
  | .alive | .writing _ | .dropped => none

/-- The next access of a consumer's destructor. -/
def Consumer.drop (storage : Storage) (box : Memory T) :
    Consumer → Option (Memory T × Consumer × List (Event T))
  | .dropping =>
      some ({ box with state := box.state &&& ~~~hasConsumer }, .droppingData, box.touch)
  | .droppingData => some (box, .clearingData, box.dropData)
  | .clearingData =>
      let state := box.state
      let next : Consumer := if state &&& hasSharer = 0 then .droppingShared else .waking
      some ({ box with state := state &&& ~~~hasData }, next, box.touch)
  | .droppingShared =>
      let result := box.dropShared storage
      some (result.1, .dropped, result.2)
  | .waking => some (box, .dropped, box.touch ++ [.woken])
  | .alive | .dropped => none

/-- The heap box of `SerBox::sharer`, with its sharer. -/
def Sharing.boxed : Sharing T where
  box := { state := hasSharer, data := none, freed := false }
  sharers := [.alive]
  consumers := []

/-- A new `static` box. -/
def Sharing.ofStatic : Sharing T where
  box := { state := new, data := none, freed := false }
  sharers := []
  consumers := []

/-- One step under the chosen action. -/
def step (storage : Storage) (sharing : Sharing T) :
    Action T → Option (Sharing T × List (Event T))
  | .staticSharer =>
      let box := sharing.box
      match storage with
      | .heap => none
      | .static =>
          if box.state = new then
            some ({ sharing with
              box := { box with state := hasSharer }
              sharers := sharing.sharers ++ [.alive] },
              [.claimed sharing.sharers.length])
          else some (sharing, [.claimFailed])
  | .tryShare i value =>
      let box := sharing.box
      match sharing.sharers[i]? with
      | some .alive =>
          if box.state = hasSharer then
            some ({ sharing with
              box := { box with state := shared }
              sharers := sharing.sharers.set i (.writing value) }, box.touch)
          else some (sharing, box.touch ++ [.shareFailed i value])
      | _ => none
  | .dropSharer i =>
      match sharing.sharers[i]? with
      | some .alive => some ({ sharing with
          sharers := sharing.sharers.set i .dropping }, [])
      | _ => none
  | .runSharer i =>
      let box := sharing.box
      match sharing.sharers[i]? with
      | some (.writing value) =>
          let share := sharing.consumers.length
          some ({ box := { box with data := some (share, value) }
                  sharers := sharing.sharers.set i .alive
                  consumers := sharing.consumers ++ [.alive] },
            box.touch ++ [.shared share value])
      | some sharer =>
          match sharer.drop storage box with
          | some (after, next, events) =>
              some ({ sharing with
                box := after
                sharers := sharing.sharers.set i next }, events)
          | none => none
      | none => none
  | .serialize share =>
      let box := sharing.box
      match sharing.consumers[share]? with
      | some .alive =>
          some (sharing, box.touch ++ [.serialized share (box.data.map Prod.snd)])
      | _ => none
  | .dropConsumer share =>
      match sharing.consumers[share]? with
      | some .alive => some ({ sharing with
          consumers := sharing.consumers.set share .dropping }, [])
      | _ => none
  | .runConsumer share =>
      match sharing.consumers[share]? with
      | some consumer =>
          match consumer.drop storage sharing.box with
          | some (after, next, events) =>
              some ({ sharing with
                box := after
                consumers := sharing.consumers.set share next }, events)
          | none => none
      | none => none

end Steps

end SerBox

end Mgnp
