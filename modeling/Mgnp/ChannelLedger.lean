import Mgnp.ChannelRing

/-!
# Every step of a channel is a step of its ledger

The words of the channel keep representing a ticket queue: the compare-exchange
of `commit_send` issues a ticket, its slot store publishes it, the slot store
of `try_dequeue` takes one, and all other steps leave the ledger alone.
-/

namespace Mgnp

namespace ChannelCore

open PositionWord

variable {T E : Type*} {width : PointerWidth} {capacity : Nat}
  {ledger : Ledger T} {channel : Channel T E}
  {ops : List (TicketQueue.Op Nat (Nat × Option T))}

theorem RingInv.front_le (inv : RingInv width ledger channel)
    (replays : TicketQueue.Replays ops ledger) :
    ledger.taken + channel.rx.claimed ≤ ledger.issued.length := by
  rcases Nat.eq_zero_or_pos channel.rx.claimed with none | claims
  · rw [none]
    exact replays.taken_le
  · obtain ⟨head, val, at_rx⟩ := RxPc.claimed_pos claims
    have atFront : AtFront width ledger head val := inv.receiver at_rx
    rw [at_rx]
    obtain ⟨i, idx, message, issued, _⟩ := atFront.ready
    exact (List.getElem?_eq_some_iff.mp issued).1

section Tasks

/-- The representation depends on the positions, the slots, the cells, the
tasks and the receiver only. -/
theorem RingInv.frame (inv : RingInv width ledger channel) {next : Channel T E}
    (enqueuePos : ∃ flag : Bool,
      next.core.enqueuePos = word width ledger.issued.length flag.toNat)
    (dequeuePos : ∃ flag : Bool, next.core.dequeuePos =
      word width (ledger.taken + channel.rx.claimed) flag.toNat)
    (queue : next.core.queue = channel.core.queue)
    (elements : next.elements = channel.elements)
    (claimed : next.rx.claimed = channel.rx.claimed)
    (tasks : ∀ (i : Nat) (task : Task E), next.tasks[i]? = some task →
      task.pc.TicketFacts width ledger (ledger.taken + channel.rx.claimed) i)
    (spawned : channel.tasks.length ≤ next.tasks.length)
    (rx : next.rx.TicketFacts width ledger) : RingInv width ledger next where
  enqueuePos := enqueuePos
  dequeuePos := by rwa [claimed]
  taken_lt := inv.taken_lt
  window := inv.window
  tickets outstanding issued :=
    have held := inv.tickets outstanding issued
    ⟨held.index_lt, (congrFun elements _).trans held.content,
      fun published => (held.stored published).congr (congrFun queue _),
      fun unpublished => (held.pending unpublished).congr (congrFun queue _)⟩
  vacant unissued inLap := (inv.vacant unissued inLap).congr (congrFun queue _)
  tasks := by rwa [claimed]
  spawned i key := Nat.lt_of_lt_of_le (inv.spawned i key) spawned
  rx := rx

/-- A task moves, and the positions keep their numbers. -/
theorem RingInv.moved (inv : RingInv width ledger channel) {next : Channel T E}
    {k : Nat} {new : Task E} (tasks : next.tasks = channel.tasks.set k new)
    (facts : new.pc.TicketFacts width ledger
      (ledger.taken + channel.rx.claimed) k)
    (enqueuePos : ∃ flag : Bool,
      next.core.enqueuePos = word width ledger.issued.length flag.toNat)
    (dequeuePos : ∃ flag : Bool, next.core.dequeuePos =
      word width (ledger.taken + channel.rx.claimed) flag.toNat)
    (queue : next.core.queue = channel.core.queue)
    (elements : next.elements = channel.elements) (rx : next.rx = channel.rx) :
    RingInv width ledger next := by
  refine inv.frame enqueuePos dequeuePos queue elements (rx ▸ rfl) ?_ ?_ (rx ▸ inv.rx)
  · rw [tasks]
    exact forall_tasks_set inv.tasks (fun _ _ _ => id) facts
  · rw [tasks, List.length_set]

/-- A task starts that has committed nothing yet. -/
theorem RingInv.started (inv : RingInv width ledger channel) {next : Channel T E}
    {new : Task E} (tasks : next.tasks = channel.tasks ++ [new])
    (facts : channel.tasks.length ∉ ledger.issued.map Prod.fst →
      new.pc.TicketFacts width ledger (ledger.taken + channel.rx.claimed)
        channel.tasks.length)
    (core : next.core = channel.core) (elements : next.elements = channel.elements)
    (claimed : next.rx.claimed = channel.rx.claimed)
    (rx : next.rx.TicketFacts width ledger) : RingInv width ledger next := by
  refine inv.frame (core ▸ inv.enqueuePos) (core ▸ inv.dequeuePos) (core ▸ rfl)
    elements claimed ?_ ?_ rx
  · rw [tasks]
    exact forall_tasks_append inv.tasks (fun _ _ _ => id)
      (facts fun key => Nat.lt_irrefl _ (inv.spawned _ key))
  · rw [tasks, List.length_append]
    exact Nat.le_add_right _ _

theorem LocalMove.ticketFacts {core : Core E} {i front : Nat} {pc next : Pc E}
    {events : List (Event T E)} (move : LocalMove width core i pc next events)
    (facts : pc.TicketFacts width ledger front i) :
    next.TicketFacts width ledger front i := by
  cases move with
  | reserveError | full | wakeSender | closeConsWait =>
      exact fun key => absurd key facts
  | wakeReceiver => exact facts
  | sawClosed | sawOpen | park | waitClosed | woken | commitCall | loadTail
  | commitSawClosed | panic | claim | reloadTail | claimFailed | commitError
  | dropPermit | dropReceived | acquireLast => exact facts

theorem StateMove.ticketFacts {core core' : Core E} {i front : Nat} {pc next : Pc E}
    {events : List (Event T E)} (move : StateMove core i pc next core' events)
    (facts : pc.TicketFacts width ledger front i) :
    next.TicketFacts width ledger front i := by
  have absent : i ∉ ledger.issued.map Prod.fst := by cases move <;> exact facts
  cases move with
  | loseError => exact fun key => absurd key absent
  | winError | writeError | setErrored => exact absent
  | closeProdWait | dropTx =>
      split
      · exact absent
      · exact fun key => absurd key absent

theorem LocalMove.ledgerOps {core : Core E} {i : Nat} {pc next : Pc E}
    {events : List (Event T E)} (move : LocalMove width core i pc next events) :
    ledgerOps events = [] := by
  cases move with
  | @closeConsWait byError => cases byError <;> rfl
  | _ => rfl

theorem StateMove.ledgerOps {core core' : Core E} {i : Nat} {pc next : Pc E}
    {events : List (Event T E)} (move : StateMove core i pc next core' events) :
    ledgerOps events = [] := by
  cases move <;> rfl

theorem RxMove.ledgerOps {core : Core E} {rx next : RxPc}
    {events : List (Event T E)} (move : RxMove width core rx next events) :
    ledgerOps events = [] := by
  cases move <;> rfl

end Tasks

/-- A successful compare-exchange on `enqueue_pos` issues a ticket. -/
theorem RingInv.commitWon (inv : RingInv width ledger channel)
    (replays : TicketQueue.Replays ops ledger) (owned : Owned width capacity channel)
    (capacityLe : capacity ≤ maxCapacity width) {i idx : Nat}
    {handle : Option Nat} {tail : UInt16}
    (at_pc : channel.tasks[i]? = some ⟨handle, .claiming idx tail⟩)
    (current : channel.core.enqueuePos = tail) :
    TicketQueue.Step ledger (.issue i (idx, channel.elements idx))
        { ledger with
          issued := ledger.issued ++ [(i, idx, channel.elements idx)] } ∧
      RingInv width
        { ledger with issued := ledger.issued ++ [(i, idx, channel.elements idx)] }
        { channel.goto i handle (.storing idx (tail >>> posShift width)) with
          core := { channel.core with enqueuePos := tail + posOne width } } := by
  have fresh : i ∉ ledger.issued.map Prod.fst := inv.tasks i _ at_pc
  have held : TaskHolds channel.tasks i .sending idx := ⟨_, at_pc, rfl⟩
  have room := inv.room replays owned capacityLe held fresh
  have frontLe := inv.front_le replays
  obtain ⟨flag, enqueueEq⟩ := inv.enqueuePos
  have tailEq : tail = word width ledger.issued.length flag.toNat :=
    current.symm.trans enqueueEq
  have atOld {ticket : Nat} (old : ticket < ledger.issued.length) :
      (ledger.issued ++ [(i, idx, channel.elements idx)])[ticket]? =
        ledger.issued[ticket]? := List.getElem?_append_left old
  have rxFacts {rx : RxPc} (facts : rx.TicketFacts width ledger) :
      rx.TicketFacts width { ledger with
        issued := ledger.issued ++ [(i, idx, channel.elements idx)] } := by
    have atFront {head val : UInt16} (facts : AtFront width ledger head val) :
        AtFront width { ledger with
          issued := ledger.issued ++ [(i, idx, channel.elements idx)] } head val := by
      obtain ⟨key, index, message, issued, ready⟩ := facts.ready
      refine ⟨facts.head_eq, facts.inside, key, index, message, ?_, ready⟩
      exact (atOld (List.getElem?_eq_some_iff.mp issued).1).trans issued
    cases rx
    case claiming | releasing => exact atFront facts
    all_goals exact facts
  refine ⟨.issue fresh, ⟨⟨flag, ?_⟩, inv.dequeuePos, inv.taken_lt, ?_, ?_, ?_, ?_, ?_,
    rxFacts inv.rx⟩⟩
  · simp only [List.length_append, List.length_singleton]
    rw [tailEq, word_add_posOne (flag_lt width flag)]
  · simpa using room
  · intro ticket key index message outstanding issued
    rcases Nat.lt_or_ge ticket ledger.issued.length with old | new
    · have before := inv.tickets outstanding ((atOld old).symm.trans issued)
      exact ⟨before.index_lt, before.content, before.stored, before.pending⟩
    · obtain ⟨inside, _⟩ := List.getElem?_eq_some_iff.mp issued
      obtain rfl : ticket = ledger.issued.length := by
        simp only [List.length_append, List.length_singleton] at inside
        omega
      rw [List.getElem?_concat_length] at issued
      cases issued
      refine ⟨?_, rfl, ?_, fun _ => inv.vacant (Nat.le_refl _) room⟩
      · exact Nat.lt_of_lt_of_le (owned.held_lt held)
          capacityLe
      · exact fun published => absurd (replays.issued_of_published published) fresh
  · intro ticket unissued inLap
    rw [List.length_append] at unissued
    exact inv.vacant (Nat.le_of_succ_le unissued) inLap
  · refine forall_tasks_set inv.tasks ?_ ?_
    · intro k pc ne facts
      have keyIff : k ∈ (ledger.issued ++
          [(i, idx, channel.elements idx)]).map Prod.fst ↔
            k ∈ ledger.issued.map Prod.fst := by
        simp [ne]
      cases pc
      case storing index pos =>
        obtain ⟨ticket, message, low, frontLe, issued, rest⟩ := facts
        refine ⟨ticket, message, low, frontLe, ?_, rest⟩
        exact (atOld (List.getElem?_eq_some_iff.mp issued).1).trans issued
      case waking | finished => exact fun key => facts (keyIff.mp key)
      all_goals exact fun key => facts (keyIff.mp key)
    · refine ⟨ledger.issued.length, channel.elements idx, flag.toNat, frontLe,
        List.getElem?_concat_length, ?_, flag_lt width flag, by rw [tailEq]⟩
      exact fun published => fresh (replays.issued_of_published published)
  · intro key member
    simp only [List.map_append, List.mem_append] at member
    simp only [Channel.goto, List.length_set]
    rcases member with old | new
    · exact inv.spawned key old
    · obtain rfl : key = i := by simpa using new
      exact (List.getElem?_eq_some_iff.mp at_pc).1

/-- The slot store of `commit_send` publishes its ticket. -/
theorem RingInv.store (inv : RingInv width ledger channel)
    (replays : TicketQueue.Replays ops ledger) {i idx : Nat}
    {handle : Option Nat} {pos : UInt16}
    (at_pc : channel.tasks[i]? = some ⟨handle, .storing idx pos⟩) :
    TicketQueue.Step ledger (.publish i)
        { ledger with published := i :: ledger.published } ∧
      RingInv width { ledger with published := i :: ledger.published }
        { channel.goto i handle .waking with
          core := { channel.core with
            queue := Function.update channel.core.queue (slotOf width pos)
              (UInt16.ofNat idx ||| (pos + 1) <<< posShift width) } } := by
  obtain ⟨ticket, message, low, frontLe, issued, unpublished, lowLt, posEq⟩ :=
    inv.tasks i _ at_pc
  have key : i ∈ ledger.issued.map Prod.fst :=
    List.mem_map_of_mem (List.mem_of_getElem? issued)
  have outstanding : ledger.taken ≤ ticket := Nat.le_trans (Nat.le_add_right _ _) frontLe
  have held := inv.tickets outstanding issued
  have inside := (List.getElem?_eq_some_iff.mp issued).1
  have window := inv.window
  have slotEq : slotOf width pos = ticket % maxCapacity width := by
    rw [posEq, slotOf_word lowLt]
  have valueEq : UInt16.ofNat idx ||| (pos + 1) <<< posShift width =
      word width (ticket + 1) idx := by
    rw [posEq, or_shift_add_one lowLt held.index_lt]
  have elsewhere {other : Nat} (ne : other ≠ ticket)
      (outstanding' : ledger.taken ≤ other)
      (inLap : other < ledger.taken + maxCapacity width) :
      Function.update channel.core.queue (slotOf width pos)
          (UInt16.ofNat idx ||| (pos + 1) <<< posShift width)
          (other % maxCapacity width) =
        channel.core.queue (other % maxCapacity width) := by
    rw [slotEq]
    exact Function.update_of_ne (slot_ne ne (by omega) (by omega)) _ _
  have atFront {head val : UInt16} (facts : AtFront width ledger head val) :
      AtFront width { ledger with published := i :: ledger.published } head val := by
    obtain ⟨key', index, message', issued', published, valEq⟩ := facts.ready
    exact ⟨facts.head_eq, facts.inside, key', index, message', issued',
      List.mem_cons_of_mem _ published, valEq⟩
  refine ⟨.publish key unpublished, ⟨inv.enqueuePos, inv.dequeuePos, inv.taken_lt,
    inv.window, ?_, ?_, ?_, ?_, ?_⟩⟩
  · intro other key' index message' outstanding' issued'
    have before := inv.tickets outstanding' issued'
    have otherLt : other < ledger.issued.length :=
      (List.getElem?_eq_some_iff.mp issued').1
    by_cases same : key' = i
    · subst same
      obtain rfl := replays.ticket_unique issued issued'
      cases issued.symm.trans issued'
      refine ⟨before.index_lt, before.content, ?_, ?_⟩
      · intro _
        simp only [Core.Stored, slotEq, valueEq, Function.update_self]
      · exact fun pending => absurd (List.mem_cons_self) pending
    · have ne : other ≠ ticket := by
        rintro rfl
        cases issued.symm.trans issued'
        exact same rfl
      have slot := elsewhere ne outstanding' (by omega)
      refine ⟨before.index_lt, before.content, ?_, ?_⟩
      · intro published
        exact (before.stored ((List.mem_cons.mp published).resolve_left same)).congr slot
      · intro pending
        exact (before.pending fun published =>
          pending (List.mem_cons_of_mem _ published)).congr slot
  · intro other (unissued : ledger.issued.length ≤ other) inLap
    exact (inv.vacant unissued inLap).congr
      (elsewhere (by omega) (by omega) inLap)
  · refine forall_tasks_set inv.tasks ?_ (fun _ => List.mem_cons_self)
    intro k pc ne facts
    cases pc
    case storing index pos' =>
      obtain ⟨ticket', message', low', frontLe', issued', unpublished', rest⟩ := facts
      refine ⟨ticket', message', low', frontLe', issued', ?_, rest⟩
      exact fun published => unpublished' ((List.mem_cons.mp published).resolve_left ne)
    case waking | finished =>
      exact fun key => List.mem_cons_of_mem _ (facts key)
    all_goals exact facts
  · simpa [Channel.goto] using inv.spawned
  · have rxFacts := inv.rx
    change channel.rx.TicketFacts width _
    cases at_rx : channel.rx <;> rw [at_rx] at rxFacts
    case claiming | releasing => exact atFront rxFacts
    all_goals exact rxFacts

/-- A successful compare-exchange on `dequeue_pos` claims the front ticket. -/
theorem RingInv.dequeueWon (inv : RingInv width ledger channel) {head val : UInt16}
    (at_rx : channel.rx = .claiming head val) :
    RingInv width ledger
      { channel with
        core := { channel.core with dequeuePos := head + posOne width }
        rx := .releasing head val } := by
  have atFront : AtFront width ledger head val := inv.receiver at_rx
  obtain ⟨flag, headEq⟩ := atFront.head_eq
  obtain ⟨key, index, message, issued, published, _⟩ := atFront.ready
  refine ⟨inv.enqueuePos, ⟨flag, ?_⟩, inv.taken_lt, inv.window, ?_, inv.vacant, ?_,
    inv.spawned, atFront⟩
  · rw [headEq, word_add_posOne (flag_lt width flag)]
    rfl
  · intro ticket key' index' message' outstanding issued'
    have held := inv.tickets outstanding issued'
    exact ⟨held.index_lt, held.content, held.stored, held.pending⟩
  · intro k task at_k
    have facts := inv.tasks k task at_k
    rw [at_rx] at facts
    cases at_pc : task.pc <;> rw [at_pc] at facts
    case storing idx pos =>
      obtain ⟨ticket, message', low, frontLe, issued', unpublished, rest⟩ := facts
      refine ⟨ticket, message', low, ?_, issued', unpublished, rest⟩
      -- The front ticket is published and this one is not.
      have ne : ticket ≠ ledger.taken := by
        rintro rfl
        cases issued.symm.trans issued'
        exact unpublished published
      simp only [RxPc.claimed] at frontLe ⊢
      omega
    all_goals exact facts

/-- The slot store of `try_dequeue` takes the front ticket and opens its slot
for the next lap. -/
theorem RingInv.release (inv : RingInv width ledger channel) {head val : UInt16}
    (at_rx : channel.rx = .releasing head val) :
    TicketQueue.Step ledger
        (.take ((val &&& mask width).toNat,
          channel.elements (val &&& mask width).toNat))
        { ledger with taken := ledger.taken + 1 } ∧
      RingInv width { ledger with taken := ledger.taken + 1 }
        { channel.spawn ⟨none, .received (val &&& mask width).toNat⟩ with
          core := { channel.core with
            queue := Function.update channel.core.queue
              (slotOf width (head >>> posShift width)) (val + lapOne width) }
          rx := .idle } := by
  have atFront : AtFront width ledger head val := inv.receiver at_rx
  obtain ⟨key, idx, message, issued, published, valEq⟩ := atFront.ready
  have held := inv.tickets (Nat.le_refl _) issued
  have inside := (List.getElem?_eq_some_iff.mp issued).1
  have window := inv.window
  have indexEq := index_of_word held.index_lt valEq
  have slotEq := atFront.slot_eq
  have elsewhere {other : Nat} (after : ledger.taken + 1 ≤ other)
      (inLap : other < ledger.taken + maxCapacity width) :
      Function.update channel.core.queue (slotOf width (head >>> posShift width))
          (val + lapOne width) (other % maxCapacity width) =
        channel.core.queue (other % maxCapacity width) := by
    rw [slotEq]
    exact Function.update_of_ne (slot_ne (by omega) (by omega) (by omega)) _ _
  have claimed : channel.rx.claimed = 1 := by rw [at_rx]; rfl
  constructor
  · refine .take ⟨key, ?_, published⟩
    rw [indexEq, held.content]
    exact issued
  refine ⟨inv.enqueuePos, ?_, atFront.inside, ?_, ?_, ?_, ?_, ?_, trivial⟩
  · have dequeuePos := inv.dequeuePos
    rwa [claimed] at dequeuePos
  · exact Nat.le_trans window (Nat.add_le_add_right (Nat.le_succ _) _)
  · intro ticket key' index' message' outstanding issued'
    have before := inv.tickets (Nat.le_of_succ_le outstanding) issued'
    have ticketLt := (List.getElem?_eq_some_iff.mp issued').1
    have slot := elsewhere outstanding (Nat.lt_of_lt_of_le ticketLt window)
    exact ⟨before.index_lt, before.content,
      fun published => (before.stored published).congr slot,
      fun unpublished => (before.pending unpublished).congr slot⟩
  · intro ticket (unissued : ledger.issued.length ≤ ticket)
      (inLap : ticket < ledger.taken + 1 + maxCapacity width)
    rcases Nat.lt_or_ge ticket (ledger.taken + maxCapacity width) with old | new
    · exact (inv.vacant unissued old).congr (elsewhere (by omega) old)
    · -- The slot just released serves the position one lap ahead.
      obtain rfl : ticket = ledger.taken + maxCapacity width := by omega
      refine ⟨idx, held.index_lt, ?_⟩
      simp only [Nat.add_mod_right, slotEq, Function.update_self]
      rw [valEq, word_add_lapOne held.index_lt]
  · have facts := inv.tasks
    rw [claimed] at facts
    exact forall_tasks_append facts (fun _ _ _ => id)
      fun key' => Nat.lt_irrefl _ (inv.spawned _ key')
  · intro key' member
    simp only [Channel.spawn, List.length_append]
    exact Nat.lt_add_right _ (inv.spawned key' member)

/-- A sender writes only to a cell that no outstanding ticket refers to. -/
theorem RingInv.write (inv : RingInv width ledger channel)
    (replays : TicketQueue.Replays ops ledger) (owned : Owned width capacity channel)
    {i idx : Nat} {handle : Option Nat} (value : T)
    (at_pc : channel.tasks[i]? = some ⟨handle, .permit idx⟩) :
    RingInv width ledger
      { channel with elements := Function.update channel.elements idx (some value) } := by
  refine ⟨inv.enqueuePos, inv.dequeuePos, inv.taken_lt, inv.window, ?_, inv.vacant,
    inv.tasks, inv.spawned, inv.rx⟩
  intro ticket key index message outstanding issued
  have held := inv.tickets outstanding issued
  refine ⟨held.index_lt, ?_, held.stored, held.pending⟩
  have ne : index ≠ idx := by
    rintro rfl
    have reserved : TaskHolds channel.tasks i .sending index := ⟨_, at_pc, rfl⟩
    have place := owned.held_unique reserved
      (inv.holds_ticketPlace replays outstanding issued)
    unfold ticketPlace at place
    split_ifs at place
    cases place
    exact inv.tasks i _ at_pc (List.mem_map_of_mem (List.mem_of_getElem? issued))
  exact (Function.update_of_ne ne _ _).trans held.content

theorem RingInv.rxLocal (inv : RingInv width ledger channel) {rx next : RxPc}
    {events : List (Event T E)} (at_rx : channel.rx = rx)
    (move : RxMove width channel.core rx next events) :
    RingInv width ledger { channel with rx := next } := by
  have unclaimed : channel.rx.claimed = next.claimed := by
    rw [at_rx]
    cases move <;> rfl
  have rxFacts : next.TicketFacts width ledger := by
    cases move with
    | loadHead | claimFailed =>
        have dequeuePos := inv.dequeuePos
        rwa [unclaimed] at dequeuePos
    | claim ready =>
        rcases inv.dequeueOrder at_rx with ⟨_, atFront⟩ | ⟨behind, _⟩
        · exact atFront
        · cases ready.symm.trans behind
    | call | sawClosed | sawEmpty | reloadHead | answerClosed => trivial
  refine ⟨inv.enqueuePos, ?_, inv.taken_lt, inv.window, ?_, inv.vacant, ?_,
    inv.spawned, rxFacts⟩
  · have dequeuePos := inv.dequeuePos
    rwa [unclaimed] at dequeuePos
  · intro ticket key index message outstanding issued
    have held := inv.tickets outstanding issued
    exact ⟨held.index_lt, held.content, held.stored, held.pending⟩
  · have facts := inv.tasks
    rwa [unclaimed] at facts

/-- A step of the channel makes at most one step of the ledger. -/
theorem RingInv.transition {next : Channel T E} {events : List (Event T E)}
    (inv : RingInv width ledger channel)
    (replays : TicketQueue.Replays ops ledger) (owned : Owned width capacity channel)
    (capacityLe : capacity ≤ maxCapacity width)
    (transition : Transition width channel events next) :
    ∃ after, TicketQueue.Advance ledger (ledgerOps events) after ∧
      RingInv width after next := by
  have enqueuePos := inv.enqueuePos
  have dequeuePos := inv.dequeuePos
  cases transition with
  | call called =>
      refine ⟨ledger, .idle, inv.started rfl ?_ rfl rfl rfl inv.rx⟩
      cases called <;> exact id
  | cloneTx =>
      exact ⟨ledger, .idle, inv.frame enqueuePos dequeuePos rfl rfl rfl inv.tasks
        (Nat.le_refl _) inv.rx⟩
  | dropTx => exact ⟨ledger, .idle, inv.started rfl id rfl rfl rfl inv.rx⟩
  | dropRx idle =>
      exact ⟨ledger, .idle, inv.started rfl id rfl rfl (by rw [idle]; rfl) trivial⟩
  | taskLocal at_pc move =>
      exact ⟨ledger, move.ledgerOps ▸ .idle, inv.moved rfl
        (move.ticketFacts (inv.tasks _ _ at_pc)) enqueuePos dequeuePos rfl rfl rfl⟩
  | taskState at_pc move =>
      obtain ⟨dequeueEq, enqueueEq, _, queueEq⟩ := move.queue_unchanged
      refine ⟨ledger, move.ledgerOps ▸ .idle, inv.moved rfl
        (move.ticketFacts (inv.tasks _ _ at_pc)) ?_ ?_ queueEq rfl rfl⟩
      · rwa [enqueueEq]
      · rwa [dequeueEq]
  | allocate at_pc | free at_pc =>
      have facts := inv.tasks _ _ at_pc
      exact ⟨ledger, .idle, inv.moved rfl facts enqueuePos dequeuePos rfl rfl rfl⟩
  | write value at_pc => exact ⟨ledger, .idle, inv.write replays owned value at_pc⟩
  | commitWon at_pc current =>
      obtain ⟨issue, after⟩ := inv.commitWon replays owned capacityLe at_pc current
      exact ⟨_, .step issue, after⟩
  | store at_pc =>
      obtain ⟨publish, after⟩ := inv.store replays at_pc
      exact ⟨_, .step publish, after⟩
  | closeRx at_pc =>
      have facts := inv.tasks _ _ at_pc
      obtain ⟨flag, enqueueEq⟩ := enqueuePos
      exact ⟨ledger, .idle, inv.moved rfl facts
        ⟨true, by rw [enqueueEq, word_or_closed]⟩ dequeuePos rfl rfl rfl⟩
  | closeTx at_pc =>
      have facts := inv.tasks _ _ at_pc
      obtain ⟨flag, dequeueEq⟩ := dequeuePos
      exact ⟨ledger, .idle, inv.moved rfl facts
        enqueuePos ⟨true, by rw [dequeueEq, word_or_closed]⟩ rfl rfl rfl⟩
  | rxLocal at_rx move => exact ⟨ledger, move.ledgerOps ▸ .idle, inv.rxLocal at_rx move⟩
  | dequeueWon at_rx => exact ⟨ledger, .idle, inv.dequeueWon at_rx⟩
  | release at_rx =>
      obtain ⟨take, after⟩ := inv.release at_rx
      exact ⟨_, .step take, after⟩

end ChannelCore

end Mgnp
