import Mgnp.ChannelPlaces
import Mgnp.TicketQueue

/-!
# The ring of slots as a ticket queue

A successful compare-exchange on `enqueue_pos` issues a ticket, the slot store
publishes it, and the receiver takes tickets in order.  The invariant of this
file ties every word of the ring to the unbounded ticket numbers, of which the
words keep only a residue.  Its window bound, that at most one lap of tickets
is outstanding, comes from counting the places of the element indices.
-/

namespace Mgnp

namespace ChannelCore

open PositionWord

variable {T E : Type*} {width : PointerWidth} {capacity : Nat}

/-- Tickets are published by the task that committed them; an item is an index
with the message that its cell held at the commit. -/
abbrev Ledger (T : Type*) := TicketQueue Nat (Nat × Option T)

/-- What an event does to the ledger. -/
def Event.op : Event T E → Option (TicketQueue.Op Nat (Nat × Option T))
  | .committed i idx message => some (.issue i (idx, message))
  | .stored i => some (.publish i)
  | .received idx message => some (.take (idx, message))
  | _ => none

def ledgerOps (history : List (Event T E)) :
    List (TicketQueue.Op Nat (Nat × Option T)) :=
  history.filterMap Event.op

/-- The dequeued tickets that have not been handed on. -/
def RxPc.claimed : RxPc → Nat
  | .releasing _ _ => 1
  | _ => 0

/-- The slot of a position waits for a message. -/
def Core.Vacant (width : PointerWidth) (core : Core E) (pos : Nat) : Prop :=
  ∃ low, low < maxCapacity width ∧
    core.queue (pos % maxCapacity width) = word width pos low

/-- The slot of a position holds the index `idx`. -/
def Core.Stored (width : PointerWidth) (core : Core E) (pos idx : Nat) : Prop :=
  core.queue (pos % maxCapacity width) = word width (pos + 1) idx

theorem Core.Vacant.congr {core next : Core E} {pos : Nat}
    (vacant : core.Vacant width pos)
    (same : next.queue (pos % maxCapacity width) =
      core.queue (pos % maxCapacity width)) : next.Vacant width pos := by
  obtain ⟨low, lowLt, at_slot⟩ := vacant
  exact ⟨low, lowLt, same.trans at_slot⟩

theorem Core.Stored.congr {core next : Core E} {pos idx : Nat}
    (stored : core.Stored width pos idx)
    (same : next.queue (pos % maxCapacity width) =
      core.queue (pos % maxCapacity width)) : next.Stored width pos idx :=
  same.trans stored

/-- Where the committing tasks stand with respect to the ledger; `front` is the
next ticket to be dequeued. -/
def Pc.TicketFacts (width : PointerWidth) (ledger : Ledger T) (front i : Nat) :
    Pc E → Prop
  | .storing idx pos => ∃ ticket message low, front ≤ ticket ∧
      ledger.issued[ticket]? = some (i, idx, message) ∧ i ∉ ledger.published ∧
      low < maxCapacity width ∧ pos = word width ticket low >>> posShift width
  | .waking | .finished => i ∈ ledger.issued.map Prod.fst → i ∈ ledger.published
  | _ => i ∉ ledger.issued.map Prod.fst

/-- The words `head` and `val` belong to the ticket at the front, which has
been published and is not the last position of the first lap of words. -/
structure AtFront (width : PointerWidth) (ledger : Ledger T)
    (head val : UInt16) : Prop where
  head_eq : ∃ flag : Bool, head = word width ledger.taken flag.toNat
  inside : ledger.taken + 1 < positions width
  ready : ∃ i idx message, ledger.issued[ledger.taken]? = some (i, idx, message) ∧
    i ∈ ledger.published ∧ val = word width (ledger.taken + 1) idx

def RxPc.TicketFacts (width : PointerWidth) (ledger : Ledger T) : RxPc → Prop
  | .examining head => ∃ flag : Bool, head = word width ledger.taken flag.toNat
  | .claiming head val | .releasing head val => AtFront width ledger head val
  | _ => True

/-- What an outstanding ticket says about its slot and its element cell. -/
structure TicketHeld (width : PointerWidth) (ledger : Ledger T)
    (channel : Channel T E) (ticket i idx : Nat) (message : Option T) : Prop where
  index_lt : idx < maxCapacity width
  content : channel.elements idx = message
  stored : i ∈ ledger.published → channel.core.Stored width ticket idx
  pending : i ∉ ledger.published → channel.core.Vacant width ticket

/-- The words of the channel represent the ledger. -/
structure RingInv (width : PointerWidth) (ledger : Ledger T)
    (channel : Channel T E) : Prop where
  enqueuePos : ∃ flag : Bool,
    channel.core.enqueuePos = word width ledger.issued.length flag.toNat
  dequeuePos : ∃ flag : Bool, channel.core.dequeuePos =
    word width (ledger.taken + channel.rx.claimed) flag.toNat
  taken_lt : ledger.taken < positions width
  window : ledger.issued.length ≤ ledger.taken + maxCapacity width
  tickets : ∀ {ticket i idx message}, ledger.taken ≤ ticket →
    ledger.issued[ticket]? = some (i, idx, message) →
    TicketHeld width ledger channel ticket i idx message
  vacant : ∀ {ticket}, ledger.issued.length ≤ ticket →
    ticket < ledger.taken + maxCapacity width → channel.core.Vacant width ticket
  tasks : ∀ (i : Nat) (task : Task E), channel.tasks[i]? = some task →
    task.pc.TicketFacts width ledger (ledger.taken + channel.rx.claimed) i
  spawned : ∀ i ∈ ledger.issued.map Prod.fst, i < channel.tasks.length
  rx : channel.rx.TicketFacts width ledger

theorem flag_lt (width : PointerWidth) (flag : Bool) :
    flag.toNat < maxCapacity width :=
  lt_of_le_of_lt (Bool.toNat_le flag) (one_lt_maxCapacity width)

/-- What the receiver knows about the words that it has read. -/
theorem RingInv.receiver {ledger : Ledger T} {channel : Channel T E}
    (inv : RingInv width ledger channel) {rx : RxPc} (at_rx : channel.rx = rx) :
    rx.TicketFacts width ledger :=
  at_rx ▸ inv.rx

/-- The receiver has read the slot of the front ticket. -/
theorem AtFront.slot_eq {ledger : Ledger T} {head val : UInt16}
    (atFront : AtFront width ledger head val) :
    slotOf width (head >>> posShift width) = ledger.taken % maxCapacity width := by
  obtain ⟨flag, headEq⟩ := atFront.head_eq
  rw [headEq, slotOf_word (flag_lt width flag)]

/-- Two different positions less than a lap apart have different slots. -/
theorem slot_ne {first second lap : Nat} (ne : first ≠ second)
    (firstLt : first < second + lap) (secondLt : second < first + lap) :
    first % lap ≠ second % lap := by
  intro equal
  rcases Nat.lt_or_gt_of_ne ne with before | after
  · have dvd := (Nat.modEq_iff_dvd' (Nat.le_of_lt before)).mp equal
    have := Nat.le_of_dvd (Nat.sub_pos_of_lt before) dvd
    omega
  · have dvd := (Nat.modEq_iff_dvd' (Nat.le_of_lt after)).mp equal.symm
    have := Nat.le_of_dvd (Nat.sub_pos_of_lt after) dvd
    omega

theorem ringInv_new :
    RingInv width TicketQueue.empty (Channel.new width capacity : Channel T E) where
  enqueuePos := ⟨false, by cases width <;> rfl⟩
  dequeuePos := ⟨false, by cases width <;> rfl⟩
  taken_lt := positions_pos width
  window := Nat.zero_le _
  tickets _ issued := by simp [TicketQueue.empty] at issued
  vacant {ticket} _ inLap := by
    have ticketLt : ticket < maxCapacity width := by
      simpa [TicketQueue.empty] using inLap
    refine ⟨0, maxCapacity_pos width, ?_⟩
    rw [Nat.mod_eq_of_lt ticketLt]
    exact initial_slot ticketLt
  tasks i task at_i := by simp [Channel.new] at at_i
  spawned i member := by simp [TicketQueue.empty] at member
  rx := trivial

section Front

variable {ledger : Ledger T} {channel : Channel T E}

/-- The comparison of `try_dequeue` at a position of the first lap of words:
the slot's sequence number wraps and the expected one does not. -/
theorem dequeueOrder_word {core : Core E} {head : UInt16} {flag : Bool}
    {pos seq low : Nat} (headEq : head = word width pos flag.toNat)
    (posLt : pos < positions width) (lowLt : low < maxCapacity width)
    (at_slot : core.queue (pos % maxCapacity width) = word width seq low) :
    core.dequeueOrder width head = compare (seq % positions width) (pos + 1) := by
  have bound : positions width ≤ 2048 := by cases width <;> decide
  have slotEq : slotOf width (head >>> posShift width) = pos % maxCapacity width := by
    rw [headEq, slotOf_word (flag_lt width flag)]
  have posNat : (head >>> posShift width).toNat = pos := by
    rw [headEq, word_shift_toNat (flag_lt width flag), Nat.mod_eq_of_lt posLt]
  have seqNat : (core.queue (slotOf width (head >>> posShift width)) >>>
      posShift width).toNat = seq % positions width := by
    rw [slotEq, at_slot, word_shift_toNat lowLt]
  have nextNat : (head >>> posShift width + 1).toNat = pos + 1 := by
    rw [UInt16.toNat_add, posNat, UInt16.toNat_one]
    omega
  have seqLt : seq % positions width < positions width :=
    Nat.mod_lt _ (positions_pos width)
  rw [Core.dequeueOrder, signedDif_eq width (by omega) (by omega),
    seqNat, nextNat]
  rcases lt_trichotomy (seq % positions width) (pos + 1) with less | equal | greater
  · rw [compare_lt_iff_lt.mpr less, compare_lt_iff_lt]
    omega
  · rw [compare_eq_iff_eq.mpr equal, compare_eq_iff_eq]
    omega
  · rw [compare_gt_iff_gt.mpr greater, compare_gt_iff_gt]
    omega

/-- The next ticket has been published and the expected sequence number is not
the one that wraps. -/
def FrontReady (width : PointerWidth) (ledger : Ledger T) : Prop :=
  ledger.taken + 1 < positions width ∧ ∃ item, ledger.Ready item

/-- What the slot load of `try_dequeue` learns about the ledger. -/
theorem RingInv.dequeueOrder (inv : RingInv width ledger channel) {head : UInt16}
    (at_rx : channel.rx = .examining head) :
    (channel.core.dequeueOrder width head = .eq ∧
        AtFront width ledger head
          (channel.core.queue (slotOf width (head >>> posShift width)))) ∨
      (channel.core.dequeueOrder width head = .lt ∧ ¬ FrontReady width ledger) := by
  obtain ⟨flag, headEq⟩ := inv.receiver at_rx
  have slotEq : slotOf width (head >>> posShift width) =
      ledger.taken % maxCapacity width := by
    rw [headEq, slotOf_word (flag_lt width flag)]
  have atVacant (vacant : channel.core.Vacant width ledger.taken) :
      channel.core.dequeueOrder width head = .lt := by
    obtain ⟨low, lowLt, at_slot⟩ := vacant
    rw [dequeueOrder_word headEq inv.taken_lt lowLt at_slot,
      Nat.mod_eq_of_lt inv.taken_lt, compare_lt_iff_lt]
    exact Nat.lt_succ_self _
  cases front : ledger.issued[ledger.taken]? with
  | none =>
      have outside := List.getElem?_eq_none_iff.mp front
      have inLap : ledger.taken < ledger.taken + maxCapacity width :=
        Nat.lt_add_of_pos_right (maxCapacity_pos width)
      refine .inr ⟨atVacant (inv.vacant outside inLap), ?_⟩
      rintro ⟨_, item, key, atFront, _⟩
      cases front.symm.trans atFront
  | some entry =>
      obtain ⟨i, idx, message⟩ := entry
      have held := inv.tickets (Nat.le_refl _) front
      by_cases published : i ∈ ledger.published
      · have at_slot := held.stored published
        have order := dequeueOrder_word headEq inv.taken_lt held.index_lt at_slot
        rcases Nat.lt_or_ge (ledger.taken + 1) (positions width) with inside | last
        · refine .inl ⟨?_, ⟨⟨flag, headEq⟩, inside, i, idx, message, front,
            published, ?_⟩⟩
          · rw [order, Nat.mod_eq_of_lt inside, compare_eq_iff_eq]
          · rw [slotEq]
            exact at_slot
        · -- At the last position the stored sequence number has wrapped to zero.
          have wraps : ledger.taken + 1 = positions width :=
            Nat.le_antisymm inv.taken_lt last
          refine .inr ⟨?_, fun ready => absurd ready.1 (Nat.not_lt.mpr last)⟩
          rw [order, wraps, Nat.mod_self, compare_lt_iff_lt]
          exact positions_pos width
      · refine .inr ⟨atVacant (held.pending published), ?_⟩
        rintro ⟨_, item, key, atFront, keyPublished⟩
        cases front.symm.trans atFront
        exact published keyPublished

end Front

section Window

variable {ledger : Ledger T} {channel : Channel T E}
  {ops : List (TicketQueue.Op Nat (Nat × Option T))}

/-- The task that issued an unpublished ticket is about to store its slot. -/
theorem RingInv.storing (inv : RingInv width ledger channel)
    (replays : TicketQueue.Replays ops ledger) {ticket i idx : Nat}
    {message : Option T}
    (issued : ledger.issued[ticket]? = some (i, idx, message))
    (unpublished : i ∉ ledger.published) :
    TaskAt channel.tasks i fun pc => ∃ pos, pc = .storing idx pos := by
  have key : i ∈ ledger.issued.map Prod.fst :=
    List.mem_map_of_mem (List.mem_of_getElem? issued)
  obtain ⟨⟨handle, pc⟩, at_i⟩ : ∃ task, channel.tasks[i]? = some task :=
    ⟨_, List.getElem?_eq_getElem (inv.spawned i key)⟩
  have facts := inv.tasks i _ at_i
  refine ⟨_, at_i, ?_⟩
  cases pc
  case storing idx' pos =>
    obtain ⟨ticket', message', low, _, issued', _⟩ := facts
    obtain rfl := replays.ticket_unique issued issued'
    cases issued.symm.trans issued'
    exact ⟨pos, rfl⟩
  case waking | finished => exact absurd (facts key) unpublished
  all_goals exact absurd key facts

/-- Where the index of an outstanding ticket is. -/
def ticketPlace (width : PointerWidth) (ledger : Ledger T) (channel : Channel T E)
    (ticket i : Nat) : Place :=
  if i ∈ ledger.published then
    if ticket < ledger.taken + channel.rx.claimed then .dequeued
    else .queued (ticket % maxCapacity width)
  else .held .sending i

theorem RxPc.claimed_le_one (rx : RxPc) : rx.claimed ≤ 1 := by
  cases rx <;> simp [RxPc.claimed]

theorem RxPc.claimed_pos {rx : RxPc} (claims : 0 < rx.claimed) :
    ∃ head val, rx = .releasing head val := by
  cases rx
  case releasing head val => exact ⟨head, val, rfl⟩
  all_goals exact absurd claims (Nat.lt_irrefl 0)

/-- While a dequeue has not handed its slot on, that is the slot of the front
ticket. -/
theorem RingInv.releasingSlot_eq (inv : RingInv width ledger channel) {slot : Nat}
    (releasing : channel.rx.releasingSlot width = some slot) :
    ∃ head val, channel.rx = .releasing head val ∧
      ledger.taken % maxCapacity width = slot := by
  cases at_rx : channel.rx <;> simp only [at_rx, RxPc.releasingSlot, RxPc.holding,
    Option.map_none, Option.map_some, reduceCtorEq, Option.some.injEq] at releasing
  case releasing head val =>
    have atFront : AtFront width ledger head val := inv.receiver at_rx
    exact ⟨head, val, rfl, atFront.slot_eq.symm.trans releasing⟩

theorem RingInv.holds_ticketPlace (inv : RingInv width ledger channel)
    (replays : TicketQueue.Replays ops ledger) {ticket i idx : Nat}
    {message : Option T} (outstanding : ledger.taken ≤ ticket)
    (issued : ledger.issued[ticket]? = some (i, idx, message)) :
    Holds width channel idx (ticketPlace width ledger channel ticket i) := by
  have held := inv.tickets outstanding issued
  by_cases published : i ∈ ledger.published
  · have at_slot : channel.core.queue (ticket % maxCapacity width) =
        word width (ticket + 1) idx := held.stored published
    by_cases claimed : ticket < ledger.taken + channel.rx.claimed
    · rw [ticketPlace, if_pos published, if_pos claimed]
      have claims : 0 < channel.rx.claimed := by omega
      obtain ⟨head, val, at_rx⟩ := RxPc.claimed_pos claims
      have atFront : AtFront width ledger head val := inv.receiver at_rx
      have le_one := channel.rx.claimed_le_one
      obtain rfl : ticket = ledger.taken := by omega
      obtain ⟨i', idx', message', issued', _, valEq⟩ := atFront.ready
      cases issued.symm.trans issued'
      refine ⟨head, val, by rw [at_rx]; rfl, ?_⟩
      rw [valEq, word_and_mask_toNat held.index_lt]
    · rw [ticketPlace, if_pos published, if_neg claimed]
      refine ⟨⟨Nat.mod_lt _ (maxCapacity_pos width),
        filled_of_word held.index_lt at_slot, ?_⟩, ?_⟩
      · intro releasing
        obtain ⟨head, val, at_rx, slotEq⟩ := inv.releasingSlot_eq releasing
        have inside := (List.getElem?_eq_some_iff.mp issued).1
        have one : channel.rx.claimed = 1 := by rw [at_rx]; rfl
        have window := inv.window
        exact slot_ne (by omega) (by omega) (by omega) slotEq
      · rw [at_slot, word_and_mask_toNat held.index_lt]
  · rw [ticketPlace, if_neg published]
    obtain ⟨task, at_i, pos, pcEq⟩ := inv.storing replays issued published
    exact ⟨task, at_i, by rw [pcEq]; rfl⟩

theorem RingInv.ticketPlace_inj (inv : RingInv width ledger channel)
    (replays : TicketQueue.Replays ops ledger) {first second i j : Nat}
    {item other : Nat × Option T}
    (firstLe : ledger.taken ≤ first) (secondLe : ledger.taken ≤ second)
    (atFirst : ledger.issued[first]? = some (i, item))
    (atSecond : ledger.issued[second]? = some (j, other))
    (same : ticketPlace width ledger channel first i =
      ticketPlace width ledger channel second j) : first = second := by
  have firstLt := (List.getElem?_eq_some_iff.mp atFirst).1
  have secondLt := (List.getElem?_eq_some_iff.mp atSecond).1
  have window := inv.window
  have le_one := channel.rx.claimed_le_one
  unfold ticketPlace at same
  split_ifs at same <;>
    simp only [Place.queued.injEq, Place.held.injEq, true_and] at same
  · omega
  · by_contra ne
    exact slot_ne ne (by omega) (by omega) same
  · subst same
    exact replays.ticket_unique atFirst atSecond

/-- A task that still holds its index leaves room for one more ticket in the
window. -/
theorem RingInv.room (inv : RingInv width ledger channel)
    (replays : TicketQueue.Replays ops ledger) (owned : Owned width capacity channel)
    (capacityLe : capacity ≤ maxCapacity width) {k idx : Nat}
    (held : TaskHolds channel.tasks k .sending idx)
    (uncommitted : k ∉ ledger.issued.map Prod.fst) :
    ledger.issued.length < ledger.taken + maxCapacity width := by
  by_contra full
  -- Otherwise the outstanding tickets and the task occupy one place too many.
  have exact : ledger.issued.length = ledger.taken + maxCapacity width :=
    Nat.le_antisymm inv.window (Nat.not_lt.mp full)
  let place (n : Nat) : Place :=
    match ledger.issued[ledger.taken + n]? with
    | some (i, _) => ticketPlace width ledger channel (ledger.taken + n) i
    | none => .held .sending k
  have issuedAt {n : Nat} (nLt : n < maxCapacity width) :
      ∃ i idx message,
        ledger.issued[ledger.taken + n]? = some (i, idx, message) ∧
        place n = ticketPlace width ledger channel (ledger.taken + n) i := by
    have inside : ledger.taken + n < ledger.issued.length := by omega
    obtain ⟨⟨i, idx', message⟩, issued⟩ :
        ∃ entry, ledger.issued[ledger.taken + n]? = some entry :=
      ⟨_, List.getElem?_eq_getElem inside⟩
    exact ⟨i, idx', message, issued, by simp only [place, issued]⟩
  have lastPlace : place (maxCapacity width) = .held .sending k := by
    simp only [place, List.getElem?_eq_none_iff.mpr (Nat.le_of_eq exact)]
  have distinct {n : Nat} (nLt : n < maxCapacity width) :
      place n ≠ place (maxCapacity width) := by
    obtain ⟨i, idx', message, issued, placeEq⟩ := issuedAt nLt
    rw [placeEq, lastPlace, ticketPlace]
    split
    · split <;> exact Place.noConfusion
    · intro same
      cases same
      exact uncommitted (List.mem_map_of_mem (List.mem_of_getElem? issued))
  have injective : Set.InjOn place (Finset.range (maxCapacity width + 1)) := by
    intro n nMem m mMem same
    rcases Nat.lt_succ_iff_lt_or_eq.mp (Finset.mem_range.mp nMem) with nLt | rfl <;>
      rcases Nat.lt_succ_iff_lt_or_eq.mp (Finset.mem_range.mp mMem) with mLt | rfl
    · obtain ⟨_, _, _, atFirst, firstEq⟩ := issuedAt nLt
      obtain ⟨_, _, _, atSecond, secondEq⟩ := issuedAt mLt
      rw [firstEq, secondEq] at same
      have := inv.ticketPlace_inj replays (Nat.le_add_right _ _)
        (Nat.le_add_right _ _) atFirst atSecond same
      omega
    · exact absurd same (distinct nLt)
    · exact absurd same.symm (distinct mLt)
    · rfl
  have occupied : ∀ n ∈ Finset.range (maxCapacity width + 1),
      ∃ idx, Holds width channel idx (place n) := by
    intro n nMem
    rcases Nat.lt_succ_iff_lt_or_eq.mp (Finset.mem_range.mp nMem) with nLt | rfl
    · obtain ⟨_, _, _, issued, placeEq⟩ := issuedAt nLt
      rw [placeEq]
      exact ⟨_, inv.holds_ticketPlace replays (Nat.le_add_right _ _) issued⟩
    · rw [lastPlace]
      exact ⟨idx, held⟩
  have bound := owned.places.card_le _ place injective occupied
  rw [Finset.card_range] at bound
  omega

end Window

end ChannelCore

end Mgnp
