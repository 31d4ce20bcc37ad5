import Mgnp.ChannelDisconnect
import Mgnp.ChannelFullness
import Mgnp.MailboxRuns

/-!
# A channel is a mailbox of its capacity

Seen from outside, a channel reserves places, commits messages, hands them out and frees
their places, or answers `Full`.  Whatever its atomic steps do in between, every run of
them is a run of a bounded mailbox: a message enters it with the compare-exchange on
`enqueue_pos`, leaves it with the slot store of `try_dequeue`, and keeps a place held
from its reservation until its index is free again.
-/

namespace Mgnp

namespace ChannelCore

open LabelledRuns PositionWord

variable {T E : Type*} {width : PointerWidth} {capacity : Nat} {channel next : Channel T E}
  {history past events : List (Event T E)}

/-- What an event tells about the mailbox. -/
def Event.seen : Event T E → Option (Mailbox.Report (Option T))
  | .reserved _ _ => some .reserved
  | .full _ => some .refused
  | .committed _ _ message => some (.committed message)
  | .received _ message => some (.taken message)
  | _ => none

/-- The messages that wait, in the order in which they were committed. -/
def waitingMessages (history : List (Event T E)) : List (Option T) :=
  (waiting history).map fun entry => entry.2.2

section Waiting

theorem waitingMessages_append (uncommitted : committed events = [])
    (unreceived : received events = []) :
    waitingMessages (past ++ events) = waitingMessages past := by
  rw [waitingMessages, waiting, committed_append, received_append, uncommitted, unreceived,
    List.append_nil, List.append_nil, waitingMessages, waiting]

theorem committed_of_unseen (unseen : ∀ event ∈ events, event.seen = none) :
    committed events = [] := by
  refine List.filterMap_eq_nil_iff.mpr fun event member => ?_
  have hidden := unseen event member
  cases event <;> first | rfl | cases hidden

theorem received_of_unseen (unseen : ∀ event ∈ events, event.seen = none) :
    received events = [] := by
  refine List.filterMap_eq_nil_iff.mpr fun event member => ?_
  have hidden := unseen event member
  cases event <;> first | rfl | cases hidden

theorem Represents.waiting_committed (represents : Represents width capacity past channel)
    (i idx : Nat) (message : Option T) :
    waiting (past ++ [.committed i idx message]) = waiting past ++ [(i, idx, message)] := by
  have bound := represents.received_in_order.length_le
  rw [List.length_map] at bound
  have one : committed [(.committed i idx message : Event T E)] = [(i, idx, message)] := rfl
  have none : received [(.committed i idx message : Event T E)] = [] := rfl
  rw [waiting, committed_append, received_append, one, none, List.append_nil,
    List.drop_append_of_le_length bound, waiting]

/-- The message that is received is the first one that waits. -/
theorem Represents.waiting_received {idx : Nat} {message : Option T}
    (represents : Represents width capacity (past ++ [.received idx message]) channel) :
    waitingMessages past = message :: waitingMessages (past ++ [.received idx message]) := by
  have none : committed [(.received idx message : Event T E)] = [] := rfl
  have one : received [(.received idx message : Event T E)] = [(idx, message)] := rfl
  obtain ⟨rest, inOrder⟩ := represents.received_in_order
  rw [committed_append, received_append, none, one, List.append_nil, List.append_assoc,
    List.singleton_append] at inOrder
  have first : ((committed past).map Prod.snd).drop (received past).length =
      (idx, message) :: rest := by
    rw [← inOrder, List.drop_left]
  have later : ((committed past).map Prod.snd).drop ((received past).length + 1) = rest := by
    rw [← List.drop_drop, first, List.drop_one, List.tail_cons]
  have messages (count : Nat) :
      ((committed past).drop count).map (fun entry => entry.2.2) =
        (((committed past).map Prod.snd).drop count).map Prod.snd := by
    rw [← List.map_drop, List.map_map]
    rfl
  rw [waitingMessages, waiting, messages, first, waitingMessages, waiting, committed_append,
    received_append, none, one, List.append_nil, List.length_append, List.length_singleton,
    messages, later, List.map_cons]

/-- A task that holds an index, and committed nothing, holds a place that is neither free
nor taken by a message. -/
theorem Represents.room (represents : Represents width capacity past channel) {i idx : Nat}
    {role : Role} (held : TaskHolds channel.tasks i role idx)
    (uncommitted : i ∉ (committed past).map Prod.fst) :
    (waiting past).length + channel.core.indices.length < capacity := by
  obtain ⟨ledger, replays, inv, owned⟩ := represents
  have found : Holds width channel idx (.held role i) := held
  have free {other : Nat} (member : other ∈ channel.core.indices) :
      Holds width channel other .free := member
  have place {other : Nat} (waits : other ∈ (waiting past).map fun entry => entry.2.1) :
      ∃ ticket key, key ∈ (committed past).map Prod.fst ∧
        Holds width channel other (ticketPlace width ledger channel ticket key) := by
    obtain ⟨⟨key, index, message⟩, member, rfl⟩ := List.mem_map.mp waits
    obtain ⟨ticket, outstanding, issued⟩ := (mem_waiting_iff replays).mp member
    have entered : (key, index, message) ∈ committed past := List.mem_of_mem_drop member
    exact ⟨ticket, key, List.mem_map_of_mem entered,
      inv.holds_ticketPlace replays outstanding issued⟩
  have apart {ticket key : Nat} :
      ticketPlace width ledger channel ticket key ≠ .free := by
    unfold ticketPlace
    split_ifs <;> exact Place.noConfusion
  have nodup : (idx :: ((waiting past).map (fun entry => entry.2.1) ++
      channel.core.indices)).Nodup := by
    refine List.nodup_cons.mpr ⟨?_, (inv.waiting_indices_nodup replays owned).append
      owned.nodup ?_⟩
    · intro member
      rcases List.mem_append.mp member with waits | isFree
      · obtain ⟨ticket, key, entered, there⟩ := place waits
        have same := owned.places.place_unique there found
        unfold ticketPlace at same
        split_ifs at same
        cases same
        exact uncommitted entered
      · cases owned.places.place_unique (free isFree) found
    · intro other waits isFree
      obtain ⟨ticket, key, _, there⟩ := place waits
      exact apart (owned.places.place_unique there (free isFree))
  have inRange : (idx :: ((waiting past).map (fun entry => entry.2.1) ++
      channel.core.indices)) ⊆ List.range capacity := by
    intro other member
    rw [List.mem_range]
    rcases List.mem_cons.mp member with rfl | member
    · exact owned.held_lt held
    · rcases List.mem_append.mp member with waits | isFree
      · obtain ⟨_, _, _, there⟩ := place waits
        exact owned.places.isValid there
      · exact owned.places.isValid (free isFree)
  have counted := (nodup.subperm inRange).length_le
  simp only [List.length_cons, List.length_append, List.length_map, List.length_range]
    at counted
  omega

/-- The same for a task that is about to commit, or to free its index. -/
theorem Represents.room_of_facts (represents : Represents width capacity past channel)
    {i idx : Nat} {handle : Option Nat} {pc : Pc E}
    (at_pc : channel.tasks[i]? = some ⟨handle, pc⟩)
    (holds : ∃ role, pc.holding = some (role, idx))
    (fresh : ∀ {ledger : Ledger T} {front : Nat}, pc.TicketFacts width ledger front i →
      i ∉ ledger.issued.map Prod.fst) :
    (waiting past).length + channel.core.indices.length < capacity := by
  obtain ⟨role, holds⟩ := holds
  refine represents.room ⟨_, at_pc, holds⟩ ?_
  obtain ⟨ledger, replays, inv, _⟩ := represents
  rw [← issues_ledgerOps, ← replays.issued_eq]
  exact fresh (inv.tasks i _ at_pc)

end Waiting

section Steps

theorem runTask_full {i k : Nat} {task : Task E}
    (ran : runTask width channel k task = some (next, events)) (refused : .full i ∈ events) :
    channel.core.indices = [] := by
  obtain ⟨handle, pc⟩ := task
  cases pc <;> simp only [runTask] at ran
  case allocating blocking =>
    split at ran
    · assumption
    · cases ran
  all_goals
    repeat' split at ran
    all_goals cases ran
    all_goals simp at refused

/-- `try_reserve` answers `Full` only when it finds no free index. -/
theorem exhausted_of_full {action : Action T E} {i : Nat}
    (stepTo : step width channel action = some (next, events)) (refused : .full i ∈ events) :
    channel.core.indices = [] := by
  obtain rfl : action = .run i := run_of_ranBy stepTo refused rfl
  simp only [step] at stepTo
  split at stepTo
  · exact runTask_full stepTo refused
  · cases stepTo

/-- What a step does to the free indices, by what is seen of it. -/
inductive Effect (channel next : Channel T E) : List (Event T E) → Prop
  | quiet {silent : List (Event T E)} (unseen : ∀ event ∈ silent, event.seen = none)
      (indices : next.core.indices = channel.core.indices) : Effect channel next silent
  | refuses {i : Nat} (indices : next.core.indices = channel.core.indices) :
      Effect channel next [.full i]
  | reserves {i idx : Nat} (free : idx ∈ channel.core.indices)
      (indices : next.core.indices = channel.core.indices.erase idx) :
      Effect channel next [.reserved i idx]
  | commits {i idx : Nat} {handle : Option Nat} {tail : UInt16} (message : Option T)
      (at_pc : channel.tasks[i]? = some ⟨handle, .claiming idx tail⟩)
      (indices : next.core.indices = channel.core.indices) :
      Effect channel next [.committed i idx message]
  | receives (idx : Nat) (message : Option T)
      (indices : next.core.indices = channel.core.indices) :
      Effect channel next [.received idx message]
  | frees {i idx : Nat} {handle : Option Nat} {fromReceiver : Bool}
      (at_pc : channel.tasks[i]? = some ⟨handle, .freeing fromReceiver idx⟩)
      (indices : next.core.indices = idx :: channel.core.indices) : Effect channel next []

theorem Transition.effect (transition : Transition width channel events next) :
    Effect channel next events := by
  cases transition with
  | call | cloneTx | dropTx | dropRx | write | closeRx | closeTx | dequeueWon =>
      exact .quiet (by simp) rfl
  | store => exact .quiet (by simp [Event.seen]) rfl
  | taskLocal _ move =>
      cases move with
      | full => exact .refuses rfl
      | @closeConsWait byError =>
          refine .quiet ?_ rfl
          cases byError <;> simp [Event.seen]
      | _ => exact .quiet (by simp [Event.seen]) rfl
  | taskState _ move =>
      obtain ⟨_, _, indices, _⟩ := move.queue_unchanged
      refine .quiet ?_ indices
      cases move <;> simp [Event.seen]
  | rxLocal _ move =>
      refine .quiet ?_ rfl
      cases move <;> simp [Event.seen]
  | allocate _ free => exact .reserves free rfl
  | free at_pc => exact .frees at_pc rfl
  | commitWon at_pc => exact .commits _ at_pc rfl
  | release => exact .receives _ _ rfl

end Steps

section Refinement

/-- The messages of the mailbox are those that wait, and its places that are neither
held nor filled are the free indices. -/
structure Mirrors (width : PointerWidth) (past : List (Event T E)) (channel : Channel T E)
    (mailbox : Mailbox (Option T) capacity) : Prop where
  represents : Represents width capacity past channel
  queue : mailbox.queue = waitingMessages past
  places : mailbox.queue.length + mailbox.held + channel.core.indices.length = capacity

theorem mirrors_new :
    Mirrors width [] (Channel.new width capacity : Channel T E)
      (Mailbox.empty (Option T) capacity) where
  represents := represents_new
  queue := rfl
  places := by simp [Mailbox.empty, Channel.new, Core.new]

variable {mailbox after : Mailbox (Option T) capacity}

theorem Mirrors.queue_length (mirrors : Mirrors width past channel mailbox) :
    mailbox.queue.length = (waiting past).length := by
  rw [mirrors.queue, waitingMessages, List.length_map]

/-- One step of the channel is at most one operation of the mailbox. -/
theorem Mirrors.step {action : Action T E} (mirrors : Mirrors width past channel mailbox)
    (capacityLe : capacity ≤ maxCapacity width)
    (stepTo : step width channel action = some (next, events)) :
    ∃ after, Run Mailbox.step anyStep mailbox (events.filterMap Event.seen) after ∧
      Mirrors width (past ++ events) next after := by
  have transition := step_transition stepTo
  have represents := mirrors.represents.transition capacityLe transition
  have places := mirrors.places
  have length := mirrors.queue_length
  cases transition.effect with
  | quiet unseen indices =>
      refine ⟨mailbox, ?_, represents, ?_, indices ▸ places⟩
      · rw [List.filterMap_eq_nil_iff.mpr unseen]
        exact .refl
      · rw [mirrors.queue, waitingMessages_append (committed_of_unseen unseen)
          (received_of_unseen unseen)]
  | refuses indices =>
      have exhausted := exhausted_of_full stepTo List.mem_cons_self
      rw [exhausted, List.length_nil, Nat.add_zero] at places
      refine ⟨mailbox, Mailbox.run_refuse places, represents, ?_, indices ▸ mirrors.places⟩
      rw [mirrors.queue, waitingMessages_append rfl rfl]
  | reserves free indices =>
      have removed := List.length_erase_of_mem free
      have inside := List.length_pos_of_mem free
      obtain ⟨after, reserves, queue, held⟩ := Mailbox.run_reserve
        (show mailbox.queue.length + mailbox.held < capacity by omega)
      refine ⟨after, reserves, represents, ?_, ?_⟩
      · rw [queue, mirrors.queue, waitingMessages_append rfl rfl]
      · rw [queue, held, indices, removed]
        omega
  | commits message at_pc indices =>
      have room := mirrors.represents.room_of_facts at_pc ⟨_, rfl⟩ id
      obtain ⟨after, commits, queue, held⟩ := Mailbox.run_commit
        (show 0 < mailbox.held by omega) message
      refine ⟨after, commits, represents, ?_, ?_⟩
      · rw [queue, mirrors.queue, waitingMessages, waitingMessages,
          mirrors.represents.waiting_committed, List.map_append]
        rfl
      · rw [queue, List.length_append, List.length_singleton, indices]
        omega
  | receives idx message indices =>
      have first := represents.waiting_received
      obtain ⟨after, takes, queue, held⟩ := Mailbox.run_take (mirrors.queue.trans first)
      have shorter := congrArg List.length (mirrors.queue.trans first)
      rw [List.length_cons] at shorter
      refine ⟨after, takes, represents, queue, ?_⟩
      rw [queue, indices]
      omega
  | @frees i idx handle fromReceiver at_pc indices =>
      have holds : ∃ role, (Pc.freeing fromReceiver idx : Pc E).holding = some (role, idx) := by
        cases fromReceiver <;> exact ⟨_, rfl⟩
      have room := mirrors.represents.room_of_facts at_pc holds id
      obtain ⟨after, releases, queue, held⟩ := Mailbox.run_release
        (show 0 < mailbox.held by omega)
      refine ⟨after, releases, represents, ?_, ?_⟩
      · rw [queue, mirrors.queue, List.append_nil]
      · rw [queue, indices, List.length_cons]
        omega

/-- The channel is simulated by a mailbox of its capacity. -/
def mailboxSimulation (capacityLe : capacity ≤ maxCapacity width) :
    Simulation (ChannelCore.step width) anyStep (Channel.new width capacity : Channel T E)
      Mailbox.step anyStep (Mailbox.empty (Option T) capacity) where
  related channel mailbox := ∃ past, Mirrors width past channel mailbox
  seen := Event.seen
  initially := ⟨[], mirrors_new⟩
  simulates := by
    rintro channel next action events mailbox ⟨past, mirrors⟩ _ stepTo
    obtain ⟨after, moves, kept⟩ := mirrors.step capacityLe stepTo
    exact ⟨after, moves, _, kept⟩

theorem entered_seen (history : List (Event T E)) :
    Mailbox.entered (history.filterMap Event.seen) =
      (committed history).map fun entry => entry.2.2 := by
  rw [Mailbox.entered, List.filterMap_filterMap, committed, List.map_filterMap]
  refine List.filterMap_congr fun event _ => ?_
  cases event <;> rfl

theorem left_seen (history : List (Event T E)) :
    Mailbox.left (history.filterMap Event.seen) = (received history).map Prod.snd := by
  rw [Mailbox.left, List.filterMap_filterMap, received, List.map_filterMap]
  refine List.filterMap_congr fun event _ => ?_
  cases event <;> rfl

/-- What is seen of any run of a channel is the history of a bounded mailbox: a message
goes in and comes out once, in order, and at most `capacity` places are held or filled.
`Full` is answered only while all of them are. -/
theorem channel_refines_mailbox {admits : Channel T E → Action T E → Prop}
    (capacityLe : capacity ≤ maxCapacity width)
    (run : Run (ChannelCore.step width) admits (Channel.new width capacity) history channel) :
    ∃ mailbox : Mailbox (Option T) capacity,
      Run Mailbox.step anyStep (Mailbox.empty (Option T) capacity)
        (history.filterMap Event.seen) mailbox ∧
      ((committed history).map fun entry => entry.2.2) =
        (received history).map Prod.snd ++ mailbox.queue ∧
      mailbox.queue.length + mailbox.held + channel.core.indices.length = capacity := by
  obtain ⟨mailbox, moves, past, mirrors⟩ := (mailboxSimulation capacityLe).run run.any
  refine ⟨mailbox, moves, ?_, mirrors.places⟩
  rw [← entered_seen, ← left_seen]
  exact Mailbox.run_queue moves

/-- A message is sent into the only place, a reservation is refused, and the message is
received. -/
def sendRefuseReceive : List (Action Nat Nat) :=
  [.reserve 0 false, .run 0, .allocate 0 0, .write 0 7, .commit 0, .run 0, .run 0, .run 0,
    .run 0, .run 0, .reserve 0 false, .run 1, .run 1, .tryRecv, .runRx, .runRx, .runRx, .runRx]

theorem channel_refines_mailbox_refused :
    ∃ (history : List (Event Nat Nat)) (mailbox : Mailbox (Option Nat) 1),
      Run Mailbox.step anyStep (Mailbox.empty (Option Nat) 1) (history.filterMap Event.seen)
        mailbox ∧
      history.filterMap Event.seen =
        [.reserved, .committed (some 7), .refused, .taken (some 7)] ∧
      mailbox.queue = [] ∧ mailbox.held = 1 := by
  obtain ⟨history, channel, run, seen⟩ :=
    exists_run_of_exec (ChannelCore.step .bits64) anyStep
      (Channel.new .bits64 1 : Channel Nat Nat) sendRefuseReceive
      (fun reached => (reached.2.filterMap Event.seen, reached.1.core.indices))
      (show _ = some ([.reserved, .committed (some 7), .refused, .taken (some 7)], [])
        by decide +kernel)
  simp only [Prod.mk.injEq] at seen
  obtain ⟨seen, exhausted⟩ := seen
  obtain ⟨mailbox, moves, inOrder, places⟩ :=
    channel_refines_mailbox (by decide) run
  rw [← entered_seen, ← left_seen, seen] at inOrder
  have empty : mailbox.queue = [] := by
    simpa [Mailbox.entered, Mailbox.left] using inOrder
  refine ⟨history, mailbox, moves, seen, empty, ?_⟩
  simpa [empty, exhausted] using places

end Refinement

end ChannelCore

end Mgnp
