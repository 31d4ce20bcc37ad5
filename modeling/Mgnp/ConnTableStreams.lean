import Mgnp.ConnTableResets

/-!
# The streams through the connection table

The local channels are FIFO queues: messages are committed to them at any time, and
`poll_recv` takes the first one.  Whatever ids are used again, the DATA frames of a
socket carry a prefix of what was committed to its channel, under the one pair of ids
that the socket was opened with, and its channel receives the bodies of exactly the
frames that matched it.
-/

namespace Mgnp

namespace Calliope

open ExceptRules LabelledRuns

variable {capacity : Nat} {build : Build}

/-- What the channels answer: `poll_recv` finds the first committed message, or is
pending or fails as the environment chooses. -/
def Locals.queued (locals : Locals) (queue : Nat → List (List UInt8)) : Locals :=
  { locals with
    pollRecv := fun channel =>
      match locals.pollRecv channel with
      | some (.ok _) => (queue channel).head?.map .ok
      | some (.error error) => some (.error error)
      | none => none }

def Action.queued (queue : Nat → List (List UInt8)) : Action → Action
  | .startConnecting locals identity hello =>
      .startConnecting (locals.queued queue) identity hello
  | .processInbound locals frame => .processInbound (locals.queued queue) frame
  | .nextOutbound locals => .nextOutbound (locals.queued queue)

/-- The channel whose message the loop of `next_outbound` takes. -/
def ConnTable.takesFrom (locals : Locals) : List Entry → Option Nat
  | [] => none
  | entry :: entries =>
      match entry.socket with
      | some ⟨.opened _, channel⟩ =>
          match locals.pollRecv channel with
          | some (.ok _) => some channel
          | some (.error _) => none
          | none => takesFrom locals entries
      | some ⟨.connecting _, _⟩ | none => takesFrom locals entries

def Session.takesFrom (session : Session capacity) : Action → Option Nat
  | .nextOutbound locals =>
      match session.table.cleanupDead with
      | .ok (table, _) => ConnTable.takesFrom locals table.conns.toList
      | .error _ => none
  | .startConnecting _ _ _ | .processInbound _ _ => none

/-- The channel of the open socket that a DATA frame matches, if it takes the body. -/
def Session.matching (session : Session capacity) : Action → Option (Nat × List UInt8)
  | .processInbound locals ⟨.data localId remoteId, body⟩ =>
      match session.table.socket remoteId with
      | some ⟨.opened bound, channel⟩ =>
          if localId = bound ∧ (locals.send channel body).isOk = true then some (channel, body)
          else none
      | some ⟨.connecting _, _⟩ | none => none
  | .processInbound _ ⟨.connect _ _, _⟩ | .processInbound _ ⟨.ack _ _, _⟩
  | .processInbound _ ⟨.reject _ _, _⟩ | .processInbound _ ⟨.reset _ _, _⟩
  | .startConnecting _ _ _ | .nextOutbound _ => none

/-- A table with the queues of its local channels. -/
structure QueuedSession (capacity : Nat) where
  session : Session capacity
  queue : Nat → List (List UInt8)
  /-- Everything that was committed to each channel. -/
  committed : Nat → List (List UInt8)
  /-- The bodies of the DATA frames that matched the socket of each channel while it
  was open and were taken. -/
  arrived : Nat → List (List UInt8)

inductive QueuedAction
  | commit (channel : Nat) (body : List UInt8)
  | table (action : Action)

/-- The queues after a body was appended to one of them. -/
def enqueue (queue : Nat → List (List UInt8)) (item : Nat × List UInt8) :
    Nat → List (List UInt8) :=
  Function.update queue item.1 (queue item.1 ++ [item.2])

/-- The queues after the first body of one of them was taken. -/
def dequeue (queue : Nat → List (List UInt8)) (channel : Nat) : Nat → List (List UInt8) :=
  Function.update queue channel (queue channel).tail

namespace QueuedSession

def new (capacity : Nat) : QueuedSession capacity :=
  ⟨.new capacity, fun _ => [], fun _ => [], fun _ => []⟩

def step (build : Build) (queued : QueuedSession capacity) :
    QueuedAction → Option (QueuedSession capacity × List Event)
  | .commit channel body =>
      some ({ queued with
          queue := enqueue queued.queue (channel, body)
          committed := enqueue queued.committed (channel, body) }, [])
  | .table action =>
      let asked := action.queued queued.queue
      (queued.session.step build asked).map fun outcome =>
        ({ queued with
            session := outcome.1
            queue := ((queued.session.takesFrom asked).map (dequeue queued.queue)).getD
              queued.queue
            arrived := ((queued.session.matching asked).map (enqueue queued.arrived)).getD
              queued.arrived }, outcome.2)

end QueuedSession

/-- The ids under which the socket of a channel entered the table. -/
def enters (channel : Nat) (history : List Event) : List Id :=
  history.filterMap fun
    | .started id entering => if entering = channel then some id else none
    | .accepted id _ entering => if entering = channel then some id else none
    | _ => none

/-- The local and remote ids with which the socket of a channel was opened. -/
def bindings (channel : Nat) (history : List Event) : List (Id × Id) :=
  history.filterMap fun
    | .accepted id remoteId opening => if opening = channel then some (id, remoteId) else none
    | .opened id remoteId opening => if opening = channel then some (id, remoteId) else none
    | _ => none

/-- The bodies that were delivered into a channel. -/
def deliveredTo (channel : Nat) (history : List Event) : List (List UInt8) :=
  history.filterMap fun
    | .delivered bound body => if bound = channel then some body else none
    | _ => none

/-- The bodies of the DATA frames that were emitted on account of a socket. -/
def streamed (channel : Nat) (history : List Event) : List (List UInt8) :=
  ((emissions channel history).filter Frame.isData).map fun frame => frame.body.toVec

/-- What a run makes of the messages of one channel. -/
structure Streams (history : List Event) (queued : QueuedSession capacity) (channel : Nat) :
    Prop where
  isPrefix : streamed channel history <+: queued.committed channel
  tagged : ∀ past later remoteId localId body,
    history = past ++ .emitted (.data remoteId localId body) (some channel) :: later →
    enters channel past = [localId] ∧ bindings channel past = [(localId, remoteId)]
  delivered : deliveredTo channel history = queued.arrived channel

section Histories

variable {channel : Nat} {history events : List Event}

theorem enters_append :
    enters channel (history ++ events) = enters channel history ++ enters channel events :=
  List.filterMap_append

theorem bindings_append :
    bindings channel (history ++ events) = bindings channel history ++ bindings channel events :=
  List.filterMap_append

theorem deliveredTo_append :
    deliveredTo channel (history ++ events) =
      deliveredTo channel history ++ deliveredTo channel events :=
  List.filterMap_append

/-- The event brings a socket into the table or opens it. -/
def Event.binds : Event → Bool
  | .started _ _ | .accepted _ _ _ | .opened _ _ _ => true
  | _ => false

theorem enters_quiet (quiet : ∀ event ∈ events, event.binds = false) :
    enters channel events = [] := by
  apply List.filterMap_eq_nil_iff.mpr
  intro event member
  have unbinding := quiet event member
  cases event <;> first | rfl | cases unbinding

theorem bindings_quiet (quiet : ∀ event ∈ events, event.binds = false) :
    bindings channel events = [] := by
  apply List.filterMap_eq_nil_iff.mpr
  intro event member
  have unbinding := quiet event member
  cases event <;> first | rfl | cases unbinding

theorem binds_emitted {sent : List OutboundFrame} {account : Option Nat} :
    ∀ event ∈ sent.map (Event.emitted · account), event.binds = false := by
  intro event member
  obtain ⟨_, -, rfl⟩ := List.mem_map.mp member
  rfl

/-- What the history says about the ids of the sockets that are in the table. -/
structure Bound (history : List Event) (view : Sockets) (fresh : Nat) : Prop where
  distinct : view.Distinct fresh
  early : ∀ {channel}, fresh ≤ channel →
    enters channel history = [] ∧ bindings channel history = []
  entered : ∀ {id socket}, view.socket id = some socket → enters socket.channel history = [id]
  opened : ∀ {id remoteId channel}, view.socket id = some ⟨.opened remoteId, channel⟩ →
    bindings channel history = [(id, remoteId)]
  connecting : ∀ {id rsp channel}, view.socket id = some ⟨.connecting rsp, channel⟩ →
    bindings channel history = []

end Histories

section Binding

variable {view next : Sockets} {history events : List Event} {frame : Option OutboundFrame}
  {account : Option Nat} {locals : Locals} {fresh later : Nat}

theorem bound_empty : Bound [] .empty 0 where
  distinct := Sockets.distinct_empty
  early _ := ⟨rfl, rfl⟩
  entered found := by cases found
  opened found := by cases found
  connecting found := by cases found

/-- A step that binds nothing and adds no socket. -/
theorem Bound.keep (bound : Bound history view fresh) (grows : fresh ≤ later)
    (quiet : ∀ event ∈ events, event.binds = false)
    (kept : ∀ {id socket}, next.socket id = some socket → view.socket id = some socket) :
    Bound (history ++ events) next later := by
  have sameEnters : ∀ channel, enters channel (history ++ events) = enters channel history := by
    intro channel
    rw [enters_append, enters_quiet quiet, List.append_nil]
  have sameBindings : ∀ channel,
      bindings channel (history ++ events) = bindings channel history := by
    intro channel
    rw [bindings_append, bindings_quiet quiet, List.append_nil]
  constructor
  · refine ⟨fun found => ?_, fun found otherFound => ?_⟩
    · exact Nat.lt_of_lt_of_le (bound.distinct.bounded (kept found)) grows
    · exact bound.distinct.unique (kept found) (kept otherFound)
  · intro channel beyond
    rw [sameEnters, sameBindings]
    exact bound.early (Nat.le_trans grows beyond)
  · intro id socket found
    rw [sameEnters]
    exact bound.entered (kept found)
  · intro id remoteId channel found
    rw [sameBindings]
    exact bound.opened (kept found)
  · intro id rsp channel found
    rw [sameBindings]
    exact bound.connecting (kept found)

/-- The frames of a step bind nothing. -/
theorem Bound.emit (bound : Bound history view fresh) (sent : List OutboundFrame) :
    Bound (history ++ sent.map (.emitted · account)) view fresh :=
  bound.keep (Nat.le_refl fresh) binds_emitted id

/-- A socket enters the table under a free id. -/
theorem Bound.insert {id : Id} {state : State} {event : Event}
    (bound : Bound history view fresh)
    (enter : ∀ channel, enters channel [event] = if channel = fresh then [id] else [])
    (other : ∀ channel ≠ fresh, bindings channel [event] = [])
    (opened : ∀ remoteId, state = .opened remoteId → bindings fresh [event] = [(id, remoteId)])
    (connecting : ∀ rsp, state = .connecting rsp → bindings fresh [event] = []) :
    Bound (history ++ [event]) (view.put id ⟨state, fresh⟩) (fresh + 1) := by
  have old : ∀ {id socket}, view.socket id = some socket → socket.channel ≠ fresh :=
    fun found => Nat.ne_of_lt (bound.distinct.bounded found)
  obtain ⟨notEntered, notBound⟩ := bound.early (Nat.le_refl fresh)
  constructor
  · exact bound.distinct.inherits (.insert view fresh id state)
  · intro channel beyond
    obtain ⟨noEnter, noBinding⟩ := bound.early (Nat.le_of_succ_le beyond)
    rw [enters_append, bindings_append, noEnter, noBinding, enter channel,
      other channel (by omega), if_neg (by omega)]
    exact ⟨rfl, rfl⟩
  · intro found socket atFound
    rw [enters_append, enter]
    rcases Sockets.socket_put_eq_some_iff.mp atFound with ⟨rfl, rfl⟩ | ⟨-, before⟩
    · rw [if_pos rfl, notEntered]
      rfl
    · rw [if_neg (old before), List.append_nil]
      exact bound.entered before
  · intro found remoteId channel atFound
    rw [bindings_append]
    rcases Sockets.socket_put_eq_some_iff.mp atFound with ⟨rfl, same⟩ | ⟨-, before⟩
    · cases same
      rw [notBound, opened remoteId rfl]
      rfl
    · rw [other channel (old before), List.append_nil]
      exact bound.opened before
  · intro found rsp channel atFound
    rw [bindings_append]
    rcases Sockets.socket_put_eq_some_iff.mp atFound with ⟨rfl, same⟩ | ⟨-, before⟩
    · cases same
      rw [notBound, connecting rsp rfl]
      rfl
    · rw [other channel (old before), List.append_nil]
      exact bound.connecting before

/-- A connecting socket is opened. -/
theorem Bound.open {id remoteId : Id} {rsp channel : Nat} {rest : List Event}
    (bound : Bound history view fresh)
    (isConnecting : view.socket id = some ⟨.connecting rsp, channel⟩)
    (quiet : ∀ event ∈ rest, event.binds = false) :
    Bound (history ++ (.opened id remoteId channel :: rest))
      (view.put id ⟨.opened remoteId, channel⟩) (fresh + 1) := by
  have sameEnters : ∀ other, enters other (history ++ (.opened id remoteId channel :: rest)) =
      enters other history := by
    intro other
    rw [enters_append, show enters other (.opened id remoteId channel :: rest) =
      enters other rest from rfl, enters_quiet quiet, List.append_nil]
  have newBindings : ∀ other, bindings other (history ++ (.opened id remoteId channel :: rest)) =
      bindings other history ++ if channel = other then [(id, remoteId)] else [] := by
    intro other
    rw [bindings_append, ← List.singleton_append, bindings_append, bindings_quiet quiet,
      List.append_nil]
    congr 1
    by_cases same : channel = other
    · simp [bindings, same]
    · simp [bindings, same]
  have bounded : channel < fresh := bound.distinct.bounded isConnecting
  have apart : ∀ {other socket}, other ≠ id → view.socket other = some socket →
      channel ≠ socket.channel :=
    fun different found same => different (bound.distinct.unique isConnecting found same.symm)
  constructor
  · exact bound.distinct.inherits (.setState isConnecting)
  · intro other beyond
    obtain ⟨noEnter, noBinding⟩ := bound.early (Nat.le_of_succ_le beyond)
    rw [sameEnters, newBindings, if_neg (by omega), noBinding]
    exact ⟨noEnter, rfl⟩
  · intro other socket found
    rw [sameEnters]
    rcases Sockets.socket_put_eq_some_iff.mp found with ⟨rfl, rfl⟩ | ⟨-, before⟩
    · have entered : enters channel history = [other] := bound.entered isConnecting
      exact entered
    · exact bound.entered before
  · intro other otherRemote bound' found
    rw [newBindings]
    rcases Sockets.socket_put_eq_some_iff.mp found with ⟨rfl, same⟩ | ⟨different, before⟩
    · cases same
      rw [if_pos rfl, bound.connecting isConnecting]
      rfl
    · rw [if_neg (apart different before), List.append_nil]
      exact bound.opened before
  · intro other otherRsp bound' found
    rw [newBindings]
    rcases Sockets.socket_put_eq_some_iff.mp found with ⟨rfl, same⟩ | ⟨different, before⟩
    · cases same
    · rw [if_neg (apart different before), List.append_nil]
      exact bound.connecting before

theorem Bound.starts {reserved : Option Id} {connect : OutboundConnect}
    (bound : Bound history view fresh) (isFresh : connect.channel = fresh)
    (starts : view.Starts reserved connect next frame account events) :
    Bound (history ++ events) next (fresh + 1) := by
  subst isFresh
  cases starts with
  | full => exact bound.keep (Nat.le_succ _) (by simp [Event.binds]) id
  | started isReserved free =>
      refine bound.insert ?_ ?_ ?_ ?_
      · intro channel
        simp [enters, List.filterMap_cons, eq_comm]
        split <;> rfl
      · intro channel different
        rfl
      · intro remoteId opened
        cases opened
      · intro rsp connecting
        rfl

theorem Bound.receives {granted : Option Id} {header : Header}
    (bound : Bound history view fresh)
    (receives : view.Receives locals granted fresh header next frame account events) :
    Bound (history ++ events) next (fresh + 1) := by
  have erased : ∀ id, ∀ {other socket}, (view.erase id).socket other = some socket →
      view.socket other = some socket :=
    fun id _ _ found => (Sockets.socket_erase_eq_some_iff.mp found).2
  have grows := Nat.le_succ fresh
  cases receives with
  | dataStray | dataDelivered | ackStray | connectRefused =>
      exact bound.keep grows (by simp [Event.binds]) id
  | dataFailed => exact bound.keep grows (by simp [Event.binds]) (erased _)
  | ackOpened isConnecting | ackAbandoned isConnecting =>
      exact bound.open isConnecting (by simp [Event.binds])
  | rejected =>
      apply bound.keep grows _ (erased _)
      exact ConnTable.forall_rejected rfl fun _ _ => rfl
  | reset =>
      apply bound.keep grows _ (erased _)
      exact ConnTable.forall_reset rfl fun _ => rfl
  | connectAccepted isGranted free =>
      refine bound.insert ?_ ?_ ?_ ?_
      · intro channel
        simp [enters, List.filterMap_cons, eq_comm]
        split <;> rfl
      · intro channel different
        simp [bindings, different.symm]
      · intro remoteId opened
        cases opened
        simp [bindings]
      · intro rsp connecting
        cases connecting

theorem Bound.sends (bound : Bound history view fresh)
    (sends : view.cleaned.Sends locals next frame account events) :
    Bound (history ++ (view.cleanupEvents ++ events)) next (fresh + 1) := by
  apply bound.keep (Nat.le_succ fresh)
  · exact sends.forall_events (fun _ _ => rfl) fun _ _ => rfl
  · intro id socket found
    rw [sends.socket_eq] at found
    exact (Sockets.socket_cleaned_eq_some_iff.mp found).2

end Binding

section Operations

variable {table : ConnTable capacity} {view next : Sockets} {history events : List Event}
  {frame : Option OutboundFrame} {account : Option Nat} {locals : Locals} {channel : Nat}

theorem streamed_step (silent : ∀ event ∈ events, event.silent = true) :
    streamed channel (history ++ (events ++ frame.toList.map (.emitted · account))) =
      streamed channel history ++
        if account = some channel then
          (frame.toList.filter Frame.isData).map fun sent => sent.body.toVec
        else [] := by
  unfold streamed
  rw [emissions_step silent, List.filter_append, List.map_append]
  congr 1
  split <;> rfl

/-- A step that sends no DATA streams nothing. -/
theorem streamed_step_of_notData (silent : ∀ event ∈ events, event.silent = true)
    (notData : ∀ sent ∈ frame, sent.isData = false) :
    streamed channel (history ++ (events ++ frame.toList.map (.emitted · account))) =
      streamed channel history := by
  rw [streamed_step silent]
  cases frame with
  | none => simp
  | some sent => simp [notData sent rfl]

theorem Sockets.Starts.notData {reserved : Option Id} {connect : OutboundConnect}
    (starts : view.Starts reserved connect next frame account events) :
    ∀ sent ∈ frame, sent.isData = false := by
  cases starts <;> simp [Frame.isData, Frame.connect]

theorem Sockets.Receives.notData {granted : Option Id} {fresh : Nat} {header : Header}
    (receives : view.Receives locals granted fresh header next frame account events) :
    ∀ sent ∈ frame, sent.isData = false := by
  cases receives <;> simp [Frame.isData, Frame.reset, Frame.ack, Frame.reject]

/-- What the loop found ready, when it took a message from the channel. -/
def ConnTable.TakesReady (locals : Locals) (ready : Option Ready) : Option Nat → Prop
  | some channel => ∃ remoteId id body, ready = some ⟨.data remoteId id body, channel, none⟩ ∧
      locals.pollRecv channel = some (.ok body)
  | none => ∀ found ∈ ready, found.frame.isData = false

/-- The loop emits the message that it takes. -/
theorem ConnTable.pollConns_takes (entries : List Entry) (idx : Nat) :
    Ensures (pollConns build locals entries idx) fun ready =>
      TakesReady locals ready (takesFrom locals entries) := by
  induction entries generalizing idx with
  | nil => exact ensures_ok.mpr (by simp [takesFrom, TakesReady])
  | cons entry entries ih =>
      have rest := ih (idx + 1)
      cases entry with
      | unused | closed => exact rest
      | occupied socket =>
          obtain ⟨state, channel⟩ := socket
          cases state with
          | connecting rsp => exact rest
          | opened remoteId =>
              have converts : Ensures (Id.fromIndex build idx) fun _ => True :=
                fun _ _ => trivial
              simp only [pollConns, takesFrom, Entry.socket_occupied]
              cases polled : locals.pollRecv channel with
              | none => exact rest
              | some answer =>
                  cases answer with
                  | ok data =>
                      refine converts.bind ?_
                      intro localId _
                      exact ensures_pure.mpr ⟨remoteId, localId, data, rfl, polled⟩
                  | error error =>
                      refine converts.bind ?_
                      intro localId _
                      refine ensures_pure.mpr ?_
                      rintro found ⟨⟩
                      rfl

/-- What a call of `next_outbound` emits, when it took a message from the channel. -/
def Outcome.Takes (locals : Locals) (outcome : Outcome capacity) : Option Nat → Prop
  | some channel => ∃ remoteId id body, outcome.frame = some (.data remoteId id body) ∧
      outcome.account = some channel ∧ locals.pollRecv channel = some (.ok body)
  | none => ∀ sent ∈ outcome.frame, sent.isData = false

theorem Session.nextOutbound_takes (session : Session capacity) (locals : Locals) :
    Ensures (session.table.nextOutbound build locals) fun outcome =>
      outcome.Takes locals (session.takesFrom (.nextOutbound locals)) := by
  unfold ConnTable.nextOutbound
  cases cleaned : session.table.cleanupDead with
  | error message => exact ensures_error
  | ok result =>
      obtain ⟨table, events⟩ := result
      have takesFrom : session.takesFrom (.nextOutbound locals) =
          ConnTable.takesFrom locals table.conns.toList := by
        simp [Session.takesFrom, cleaned]
      rw [takesFrom]
      refine (ConnTable.pollConns_takes table.conns.toList 0).bind ?_
      intro ready takes
      generalize ConnTable.takesFrom locals table.conns.toList = taken at takes ⊢
      cases taken with
      | some channel =>
          obtain ⟨remoteId, id, body, rfl, polled⟩ := takes
          exact ensures_pure.mpr ⟨remoteId, id, body, rfl, rfl, polled⟩
      | none =>
          cases ready with
          | none => exact ensures_pure.mpr (by simp [Outcome.Takes])
          | some found =>
              obtain ⟨frame, channel, dead⟩ := found
              have notData := takes _ rfl
              cases dead with
              | none => exact ensures_pure.mpr (by simpa [Outcome.Takes] using notData)
              | some dead => exact ensures_pure.mpr (by simpa [Outcome.Takes] using notData)

/-- The event delivers a body. -/
def Event.delivers : Event → Bool
  | .delivered _ _ => true
  | _ => false

theorem deliveredTo_quiet (quiet : ∀ event ∈ events, event.delivers = false) :
    deliveredTo channel events = [] := by
  apply List.filterMap_eq_nil_iff.mpr
  intro event member
  have undelivered := quiet event member
  cases event <;> first | rfl | cases undelivered

theorem deliveredTo_single {bound : Nat} {body : List UInt8} :
    deliveredTo channel [.delivered bound body] = if bound = channel then [body] else [] := by
  by_cases same : bound = channel
  · simp [deliveredTo, same]
  · simp [deliveredTo, same]

theorem deliveredTo_emitted {sent : List OutboundFrame} :
    deliveredTo channel (sent.map (.emitted · account)) = [] := by
  apply deliveredTo_quiet
  intro event member
  obtain ⟨_, -, rfl⟩ := List.mem_map.mp member
  rfl

theorem Sockets.Starts.undelivered {reserved : Option Id} {connect : OutboundConnect}
    (starts : view.Starts reserved connect next frame account events) :
    ∀ event ∈ events, event.delivers = false := by
  cases starts <;> simp [Event.delivers]

theorem Sockets.Receives.undelivered {granted : Option Id} {fresh : Nat} {header : Header}
    (receives : view.Receives locals granted fresh header next frame account events)
    (notData : ∀ localId remoteId, header ≠ .data localId remoteId) :
    ∀ event ∈ events, event.delivers = false := by
  cases receives with
  | dataStray | dataDelivered | dataFailed => exact absurd rfl (notData _ _)
  | ackStray | ackOpened | ackAbandoned | connectAccepted | connectRefused =>
      simp [Event.delivers]
  | rejected => exact ConnTable.forall_rejected rfl fun _ _ => rfl
  | reset => exact ConnTable.forall_reset rfl fun _ => rfl

theorem Sockets.Sends.undelivered (sends : view.cleaned.Sends locals next frame account events) :
    ∀ event ∈ view.cleanupEvents ++ events, event.delivers = false :=
  sends.forall_events (fun _ _ => rfl) fun _ _ => rfl

/-- A DATA frame is delivered when it matches, and otherwise delivers nothing. -/
theorem Session.processData_delivers (session : Session capacity) (locals : Locals)
    (localId remoteId : Id) (body : List UInt8) :
    (∃ channel,
      session.matching (.processInbound locals ⟨.data localId remoteId, body⟩) =
        some (channel, body) ∧
      session.table.processData locals localId remoteId body =
        .ok ⟨session.table, none, none, [.delivered channel body]⟩) ∨
    (session.matching (.processInbound locals ⟨.data localId remoteId, body⟩) = none ∧
      Ensures (session.table.processData locals localId remoteId body) fun outcome =>
        ∀ event ∈ outcome.events, event.delivers = false) := by
  unfold ConnTable.processData
  cases found : session.table.socket remoteId with
  | none =>
      have absent : (session.table.entry remoteId).bind Entry.socket = none := found
      rw [absent]
      exact .inr ⟨by simp [Session.matching, found], ensures_ok.mpr (by simp)⟩
  | some socket =>
      have present : (session.table.entry remoteId).bind Entry.socket = some socket := found
      rw [present]
      obtain ⟨state, channel⟩ := socket
      cases state with
      | connecting rsp =>
          exact .inr ⟨by simp [Session.matching, found], ensures_ok.mpr (by simp)⟩
      | opened bound =>
          by_cases matched : localId = bound
          · subst matched
            cases sent : locals.send channel body with
            | ok =>
                refine .inl ⟨channel, ?_, ?_⟩
                · simp [Session.matching, found, sent, Except.isOk, Except.toBool]
                · simp [sent]
            | error error =>
                refine .inr ⟨?_, ?_⟩
                · simp [Session.matching, found, sent, Except.isOk, Except.toBool]
                · have removes : Ensures (session.table.remove remoteId) fun _ => True :=
                    fun _ _ => trivial
                  simp only [ne_eq, not_true_eq_false, if_false, sent]
                  refine removes.bind ?_
                  rintro ⟨table, removed⟩ -
                  exact ensures_pure.mpr (by simp [Event.delivers])
          · refine .inr ⟨by simp [Session.matching, found, matched], ?_⟩
            simp only [ne_eq, matched, not_false_eq_true, if_true]
            exact ensures_ok.mpr (by simp)

end Operations

section Steps

variable {history events : List Event} {view : Sockets} {session next : Session capacity}
  {action : Action} {queue : Nat → List (List UInt8)} {channel : Nat} {body : List UInt8}

theorem Session.bound_step (agrees : session.table.Shows view)
    (bound : Bound history view session.freshChannel)
    (stepTo : session.step build action = some (next, events)) :
    ∃ after, next.table.Shows after ∧ Bound (history ++ events) after next.freshChannel := by
  rcases session.step_cases stepTo with ⟨message, -, rfl, rfl⟩ | ⟨outcome, operated, rfl, rfl⟩
  · rw [List.append_nil]
    exact ⟨view, agrees, bound⟩
  rw [← List.append_assoc]
  cases action with
  | startConnecting locals identity hello =>
      obtain ⟨after, holds, starts⟩ := agrees.startConnecting _ outcome operated
      exact ⟨after, holds, (bound.starts rfl starts).emit _⟩
  | processInbound locals frame =>
      obtain ⟨after, holds, receives⟩ := agrees.processInbound _ frame outcome operated
      exact ⟨after, holds, (bound.receives receives).emit _⟩
  | nextOutbound locals =>
      obtain ⟨after, polled, holds, sends, eventsEq⟩ :=
        agrees.nextOutbound build outcome operated
      rw [eventsEq]
      exact ⟨after, holds, (bound.sends sends).emit _⟩

theorem Locals.head_of_queued {locals : Locals}
    (polled : (locals.queued queue).pollRecv channel = some (.ok body)) :
    (queue channel).head? = some body := by
  unfold Locals.queued at polled
  dsimp only at polled
  split at polled
  · simpa using polled
  · cases polled
  · cases polled

/-- What a step adds to the stream of a channel is what it takes from its queue. -/
theorem Session.streamed_step (history : List Event) (agrees : session.table.Shows view)
    (stepTo : session.step build (action.queued queue) = some (next, events)) :
    (next.panic ≠ none ∧ events = []) ∨
    (∃ channel body, session.takesFrom (action.queued queue) = some channel ∧
      (queue channel).head? = some body ∧ ∀ other, streamed other (history ++ events) =
        streamed other history ++ if channel = other then [body] else []) ∨
    (session.takesFrom (action.queued queue) = none ∧
      ∀ other, streamed other (history ++ events) = streamed other history) := by
  rcases session.step_cases stepTo with ⟨message, -, rfl, rfl⟩ | ⟨outcome, operated, rfl, rfl⟩
  · exact .inl ⟨by simp, rfl⟩
  refine .inr ?_
  cases action with
  | startConnecting locals identity hello =>
      obtain ⟨after, -, starts⟩ := agrees.startConnecting _ outcome operated
      exact .inr ⟨rfl, fun other => streamed_step_of_notData starts.silent starts.notData⟩
  | processInbound locals frame =>
      obtain ⟨after, -, receives⟩ := agrees.processInbound _ frame outcome operated
      exact .inr ⟨rfl, fun other => streamed_step_of_notData receives.silent receives.notData⟩
  | nextOutbound locals =>
      obtain ⟨after, polled, -, sends, eventsEq⟩ :=
        agrees.nextOutbound build outcome operated
      have silent : ∀ event ∈ outcome.events, event.silent = true := by
        rw [eventsEq]
        exact sends.silent
      have takes := session.nextOutbound_takes (locals.queued queue) outcome operated
      cases taken : session.takesFrom (.nextOutbound (locals.queued queue)) with
      | none =>
          rw [taken] at takes
          exact .inr ⟨taken, fun other => streamed_step_of_notData silent takes⟩
      | some channel =>
          rw [taken] at takes
          obtain ⟨remoteId, id, body, sent, account, polledOk⟩ := takes
          refine .inl ⟨channel, body, taken, Locals.head_of_queued polledOk, ?_⟩
          intro other
          rw [streamed_step silent, sent, account]
          simp only [Option.some.injEq]
          rfl

/-- What a step delivers is the body of the frame that matched. -/
theorem Session.delivered_step (agrees : session.table.Shows view)
    (stepTo : session.step build action = some (next, events)) (other : Nat) :
    deliveredTo other events =
      match session.matching action with
      | some (channel, body) => if channel = other then [body] else []
      | none => [] := by
  rcases session.step_cases stepTo with ⟨message, failed, rfl, rfl⟩ | ⟨outcome, operated, rfl, rfl⟩
  · cases action with
    | startConnecting | nextOutbound => rfl
    | processInbound locals frame =>
        obtain ⟨header, body⟩ := frame
        cases header with
        | data localId remoteId =>
            rcases session.processData_delivers locals localId remoteId body with
              ⟨channel, -, delivered⟩ | ⟨unmatched, -⟩
            · cases failed.symm.trans delivered
            · rw [unmatched]
              rfl
        | connect | ack | reject | reset => rfl
  rw [deliveredTo_append, deliveredTo_emitted, List.append_nil]
  cases action with
  | startConnecting locals identity hello =>
      obtain ⟨after, -, starts⟩ := agrees.startConnecting _ outcome operated
      exact deliveredTo_quiet starts.undelivered
  | processInbound locals frame =>
      obtain ⟨header, body⟩ := frame
      obtain ⟨after, -, receives⟩ := agrees.processInbound _ ⟨header, body⟩ outcome operated
      cases header with
      | data localId remoteId =>
          rcases session.processData_delivers locals localId remoteId body with
            ⟨channel, matched, delivered⟩ | ⟨unmatched, quiet⟩
          · cases operated.symm.trans delivered
            rw [matched]
            exact deliveredTo_single
          · rw [unmatched]
            exact deliveredTo_quiet (quiet outcome operated)
      | connect | ack | reject | reset =>
          exact deliveredTo_quiet (receives.undelivered (by simp))
  | nextOutbound locals =>
      obtain ⟨after, polled, -, sends, eventsEq⟩ :=
        agrees.nextOutbound build outcome operated
      rw [eventsEq]
      exact deliveredTo_quiet sends.undelivered

end Steps

section Runs

variable {history events : List Event} {queued next : QueuedSession capacity}

theorem enqueue_apply (queue : Nat → List (List UInt8)) (item : Nat × List UInt8)
    (channel : Nat) :
    enqueue queue item channel =
      queue channel ++ if item.1 = channel then [item.2] else [] := by
  by_cases same : item.1 = channel
  · subst same
    simp [enqueue]
  · simp [enqueue, Function.update_of_ne (Ne.symm same), same]

/-- What the queues and the history know of each other. -/
structure QueuedSound (history : List Event) (queued : QueuedSession capacity) : Prop where
  bound : ∃ view, queued.session.table.Shows view ∧
    Bound history view queued.session.freshChannel
  complete : queued.session.panic = none → ∀ channel,
    streamed channel history ++ queued.queue channel = queued.committed channel
  isPrefix : ∀ channel, streamed channel history <+: queued.committed channel
  delivered : ∀ channel, deliveredTo channel history = queued.arrived channel

theorem queuedSound_new : QueuedSound [] (QueuedSession.new capacity) where
  bound := ⟨.empty, .new capacity, bound_empty⟩
  complete _ _ := rfl
  isPrefix _ := List.nil_prefix
  delivered _ := rfl

theorem QueuedSound.commit (sound : QueuedSound history queued) (channel : Nat)
    (body : List UInt8) :
    QueuedSound history
      { queued with
        queue := enqueue queued.queue (channel, body)
        committed := enqueue queued.committed (channel, body) } where
  bound := sound.bound
  complete noPanic other := by
    dsimp only
    rw [enqueue_apply, enqueue_apply, ← sound.complete noPanic other, List.append_assoc]
  isPrefix other := by
    dsimp only
    rw [enqueue_apply]
    exact (sound.isPrefix other).trans (List.prefix_append _ _)
  delivered := sound.delivered

theorem QueuedSound.table {action : Action} (sound : QueuedSound history queued)
    (stepTo : queued.step build (.table action) = some (next, events)) :
    QueuedSound (history ++ events) next := by
  simp only [QueuedSession.step, Option.map_eq_some_iff, Prod.mk.injEq] at stepTo
  obtain ⟨⟨session, reported⟩, stepsTo, rfl, rfl⟩ := stepTo
  obtain ⟨view, agrees, bound⟩ := sound.bound
  have wasFine : queued.session.panic = none := by
    unfold Session.step at stepsTo
    split at stepsTo
    · cases stepsTo
    · assumption
    · assumption
  have complete := sound.complete wasFine
  have delivers : ∀ other, deliveredTo other (history ++ reported) =
      (((queued.session.matching (action.queued queued.queue)).map
        (enqueue queued.arrived)).getD queued.arrived) other := by
    intro other
    rw [deliveredTo_append, sound.delivered other, Session.delivered_step agrees stepsTo other]
    cases queued.session.matching (action.queued queued.queue) with
    | none => simp
    | some item => exact (enqueue_apply queued.arrived item other).symm
  refine ⟨Session.bound_step agrees bound stepsTo, ?_, ?_, delivers⟩
  · intro noPanic other
    rcases Session.streamed_step history agrees stepsTo with
      ⟨panics, -⟩ | ⟨channel, body, takes, head, streams⟩ | ⟨takes, streams⟩
    · exact absurd noPanic panics
    · rw [streams other, takes, ← complete other, List.append_assoc]
      congr 1
      by_cases same : channel = other
      · subst same
        have split : queued.queue channel = body :: (queued.queue channel).tail := by
          obtain ⟨rest, isHead⟩ := List.head?_eq_some_iff.mp head
          rw [isHead]
          rfl
        simp only [if_true, Option.map_some, Option.getD_some, dequeue,
          Function.update_self, List.singleton_append]
        exact split.symm
      · simp [same, dequeue, Function.update_of_ne (Ne.symm same)]
    · rw [streams other, takes]
      exact complete other
  · intro other
    rcases Session.streamed_step history agrees stepsTo with
      ⟨-, rfl⟩ | ⟨channel, body, takes, head, streams⟩ | ⟨takes, streams⟩
    · rw [List.append_nil]
      exact sound.isPrefix other
    · rw [streams other]
      change _ <+: queued.committed other
      rw [← complete other]
      apply (List.prefix_append_right_inj _).mpr
      split
      · rename_i same
        subst same
        obtain ⟨rest, isHead⟩ := List.head?_eq_some_iff.mp head
        rw [isHead]
        exact List.prefix_append [body] rest
      · exact List.nil_prefix
    · rw [streams other]
      exact sound.isPrefix other

theorem queuedSound_of_run
    (run : Run (QueuedSession.step build) anyStep (QueuedSession.new capacity) history queued) :
    QueuedSound history queued := by
  apply run.invariant QueuedSound
  · exact queuedSound_new
  · intro past events before after action sound _ stepTo
    cases action with
    | commit channel body =>
        cases stepTo
        rw [List.append_nil]
        exact sound.commit channel body
    | table action => exact sound.table stepTo

/-- The frame of a step is its last event. -/
theorem emitted_split {first rest : List Event} {frame : Option OutboundFrame}
    {sent : OutboundFrame} {account on : Option Nat}
    (silent : ∀ event ∈ events, event.silent = true)
    (split : events ++ frame.toList.map (.emitted · account) = first ++ .emitted sent on :: rest) :
    first = events ∧ frame = some sent ∧ account = on := by
  induction events generalizing first with
  | nil =>
      cases frame with
      | none => simp at split
      | some found =>
          cases first with
          | nil =>
              obtain ⟨⟨rfl, rfl⟩, -⟩ := by simpa using split
              exact ⟨rfl, rfl, rfl⟩
          | cons event first => simp at split
  | cons event events ih =>
      obtain ⟨eventSilent, restSilent⟩ := List.forall_mem_cons.mp silent
      cases first with
      | nil =>
          obtain ⟨rfl, -⟩ := by simpa using split
          cases eventSilent
      | cons head first =>
          obtain ⟨rfl, tailEq⟩ := by simpa using split
          obtain ⟨rfl, found⟩ := ih restSilent (by simpa using tailEq)
          exact ⟨rfl, found⟩

/-- A DATA frame is emitted for a socket that was opened with its ids. -/
theorem Session.tagged_step {session after : Session capacity} {action : Action} {view : Sockets}
    {first rest : List Event} {remoteId localId : Id} {body : List UInt8} {channel : Nat}
    (agrees : session.table.Shows view) (bound : Bound history view session.freshChannel)
    (stepTo : session.step build action =
      some (after, first ++ .emitted (.data remoteId localId body) (some channel) :: rest)) :
    enters channel (history ++ first) = [localId] ∧
      bindings channel (history ++ first) = [(localId, remoteId)] := by
  rcases session.step_cases stepTo with ⟨message, -, -, noEvents⟩ | ⟨outcome, operated, -, split⟩
  · simp at noEvents
  cases action with
  | startConnecting locals identity hello =>
      obtain ⟨next, -, starts⟩ := agrees.startConnecting _ outcome operated
      obtain ⟨-, sent, -⟩ := emitted_split starts.silent split.symm
      cases (starts.notData _ sent).symm.trans rfl
  | processInbound locals frame =>
      obtain ⟨next, -, receives⟩ := agrees.processInbound _ frame outcome operated
      obtain ⟨-, sent, -⟩ := emitted_split receives.silent split.symm
      cases (receives.notData _ sent).symm.trans rfl
  | nextOutbound locals =>
      obtain ⟨next, polled, -, sends, eventsEq⟩ :=
        agrees.nextOutbound build outcome operated
      rw [eventsEq] at split
      obtain ⟨rfl, sent, account⟩ := emitted_split sends.silent split.symm
      have bound := bound.sends sends
      rw [sent, account] at sends
      cases sends with
      | data isOpen => exact ⟨bound.entered isOpen, bound.opened isOpen⟩

theorem streams_of_run
    (run : Run (QueuedSession.step build) anyStep (QueuedSession.new capacity) history queued)
    (channel : Nat) : Streams history queued channel := by
  have sound := queuedSound_of_run run
  refine ⟨sound.isPrefix channel, ?_, sound.delivered channel⟩
  intro past later remoteId localId body split
  obtain ⟨pre, first, rest, last, before, action, after, rfl, -, earlier, -, stepTo, -⟩ :=
    run.split_event split
  obtain ⟨view, agrees, bound⟩ := (queuedSound_of_run earlier).bound
  cases action with
  | commit committed message => simp [QueuedSession.step] at stepTo
  | table action =>
      simp only [QueuedSession.step, Option.map_eq_some_iff, Prod.mk.injEq] at stepTo
      obtain ⟨⟨session, reported⟩, stepsTo, -, rfl⟩ := stepTo
      exact Session.tagged_step agrees bound stepsTo

/-- A connection and, under the same id, another one.  Each sends its own messages. -/
theorem streams_of_run_reused :
    ∃ history final,
      Run (QueuedSession.step .debug) anyStep (QueuedSession.new 1) history final ∧
      streamed 0 history = [[1]] ∧ streamed 6 history = [[3]] ∧
      final.committed 0 = [[1], [2]] ∧ Streams history final 0 ∧ Streams history final 6 := by
  obtain ⟨history, final, run, observed⟩ :=
    exists_run_of_exec (QueuedSession.step .debug) anyStep (QueuedSession.new 1)
      [.table (.startConnecting .quiet .sample []), .commit 0 [1], .commit 0 [2],
        .table (.nextOutbound .dataReady), .table (.processInbound .quiet ⟨.ack .first .first, []⟩),
        .table (.nextOutbound .dataReady),
        .table (.processInbound .quiet ⟨.data .first .first, [7]⟩),
        .table (.processInbound .quiet ⟨.reset .first .goAway, []⟩), .commit 6 [3],
        .table (.processInbound .quiet ⟨.connect ⟨2, by decide⟩ .sample, []⟩),
        .table (.nextOutbound .dataReady)]
      (fun reached => (streamed 0 reached.2, streamed 6 reached.2, reached.1.committed 0,
        reached.1.arrived 0))
      (show _ = some ([[1]], [[3]], [[1], [2]], [[7]]) by decide +kernel)
  simp only [Prod.mk.injEq] at observed
  obtain ⟨first, second, committed, -⟩ := observed
  exact ⟨history, final, run, first, second, committed, streams_of_run run 0,
    streams_of_run run 6⟩

end Runs

end Calliope

end Mgnp
