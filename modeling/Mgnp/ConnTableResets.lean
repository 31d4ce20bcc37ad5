import Mgnp.ConnTableChannels

/-!
# One RESET for every connection

A socket whose stream has closed stays in the table, marked dead, until the next
call of `next_outbound`, and a socket whose ACK finds its initiator gone stays there
open.  Each can be reset once more while it is there.  Apart from these two, a socket
that was reset is never found again.
-/

namespace Mgnp

namespace Calliope

open ExceptRules LabelledRuns

def Frame.isReset (frame : OutboundFrame) : Bool :=
  match frame.header with
  | .reset _ _ => true
  | .connect _ _ | .data _ _ | .ack _ _ | .reject _ _ => false

def Frame.isData (frame : OutboundFrame) : Bool :=
  match frame.header with
  | .data _ _ => true
  | .connect _ _ | .ack _ _ | .reject _ _ | .reset _ _ => false

/-- On account of every socket, no RESET and no DATA follows a RESET. -/
def ResetsOnce (history : List Event) : Prop :=
  ∀ channel, (emissions channel history).Pairwise fun first second =>
    first.isReset = true → second.isReset = false ∧ second.isData = false

def WasReset (channel : Nat) (history : List Event) : Prop :=
  ∃ frame ∈ emissions channel history, frame.isReset = true

section Condition

variable {capacity : Nat}

/-- The socket under an id. -/
def ConnTable.socket (table : ConnTable capacity) (id : Id) : Option Socket :=
  (table.entry id).bind Entry.socket

/-- A DATA frame finds no socket that was marked dead, or it is delivered to it. -/
def deliversMarked (past : List Event) (locals : Locals) (localId remoteId : Id)
    (body : List UInt8) : Option Socket → Prop
  | some ⟨.opened bound, channel⟩ =>
      localId = bound → .markedDead remoteId channel ∈ past →
        (locals.send channel body).isOk = true
  | some ⟨.connecting _, _⟩ | none => True

/-- An ACK finds the initiator of a connecting socket. -/
def findsInitiator (locals : Locals) : Option Socket → Prop
  | some ⟨.connecting rsp, _⟩ => locals.initiatorAlive rsp = true
  | some ⟨.opened _, _⟩ | none => True

/-- No DATA frame fails to be delivered to a socket that was marked dead, and no ACK
finds the initiator of its socket gone. -/
def sparesReset (reached : Session capacity × List Event) : Action → Prop
  | .processInbound locals ⟨.data localId remoteId, body⟩ =>
      deliversMarked reached.2 locals localId remoteId body (reached.1.table.socket remoteId)
  | .processInbound locals ⟨.ack _ remoteId, _⟩ =>
      findsInitiator locals (reached.1.table.socket remoteId)
  | .processInbound _ ⟨.connect _ _, _⟩ | .processInbound _ ⟨.reject _ _, _⟩
  | .processInbound _ ⟨.reset _ _, _⟩ | .startConnecting _ _ _ | .nextOutbound _ => True

instance (past : List Event) (locals : Locals) (localId remoteId : Id) (body : List UInt8)
    (socket : Option Socket) :
    Decidable (deliversMarked past locals localId remoteId body socket) :=
  match socket with
  | some ⟨.opened bound, channel⟩ => inferInstanceAs (Decidable
      (localId = bound → .markedDead remoteId channel ∈ past →
        (locals.send channel body).isOk = true))
  | some ⟨.connecting _, _⟩ | none => isTrue trivial

instance (locals : Locals) (socket : Option Socket) : Decidable (findsInitiator locals socket) :=
  match socket with
  | some ⟨.connecting _, _⟩ => inferInstanceAs (Decidable (_ = true))
  | some ⟨.opened _, _⟩ | none => isTrue trivial

instance (reached : Session capacity × List Event) (action : Action) :
    Decidable (sparesReset reached action) :=
  match action with
  | .processInbound _ ⟨.data _ _, _⟩ => inferInstanceAs (Decidable (deliversMarked ..))
  | .processInbound _ ⟨.ack _ _, _⟩ => inferInstanceAs (Decidable (findsInitiator ..))
  | .processInbound _ ⟨.connect _ _, _⟩ | .processInbound _ ⟨.reject _ _, _⟩
  | .processInbound _ ⟨.reset _ _, _⟩ | .startConnecting _ _ _ | .nextOutbound _ =>
      isTrue trivial

end Condition

/-- What a run knows about the sockets that were reset. -/
structure Resets (history : List Event) (view : Sockets) (fresh : Nat) : Prop where
  distinct : view.Distinct fresh
  emitted : ∀ {channel}, emissions channel history ≠ [] → channel < fresh
  gone : ∀ {id socket}, view.socket id = some socket → WasReset socket.channel history →
    view.dead = some id ∧ .markedDead id socket.channel ∈ history
  once : ResetsOnce history

section Steps

variable {view next : Sockets} {history events : List Event} {frame : Option OutboundFrame}
  {account : Option Nat} {locals : Locals} {fresh later : Nat}

theorem resets_empty : Resets [] .empty 0 where
  distinct := Sockets.distinct_empty
  emitted emits := absurd rfl emits
  gone found := by cases found
  once channel := List.Pairwise.nil

theorem WasReset.lt {channel : Nat} (resets : Resets history view fresh)
    (wasReset : WasReset channel history) : channel < fresh := by
  obtain ⟨frame, member, -⟩ := wasReset
  exact resets.emitted (List.ne_nil_of_mem member)

theorem wasReset_step {channel : Nat} (silent : ∀ event ∈ events, event.silent = true) :
    WasReset channel (history ++ (events ++ frame.toList.map (.emitted · account))) ↔
      WasReset channel history ∨
        (account = some channel ∧ ∃ sent ∈ frame, sent.isReset = true) := by
  unfold WasReset
  rw [emissions_step silent]
  simp only [List.mem_append, or_and_right, exists_or]
  apply or_congr_right
  split
  · rename_i same
    simp [same]
  · rename_i other
    simp [other]

theorem ResetsOnce.step (once : ResetsOnce history)
    (silent : ∀ event ∈ events, event.silent = true)
    (unreset : ∀ channel, account = some channel → ¬ WasReset channel history) :
    ResetsOnce (history ++ (events ++ frame.toList.map (.emitted · account))) := by
  intro channel
  rw [emissions_step silent]
  split
  · rename_i same
    refine List.pairwise_append.mpr ⟨once channel, ?_, ?_⟩
    · cases frame <;> simp
    · intro first member second _ isReset
      exact absurd ⟨first, member, isReset⟩ (unreset channel same)
  · rw [List.append_nil]
    exact once channel

/-- A step emits on account of a socket that was not reset, and keeps no socket that
was, unless it is marked dead. -/
theorem Resets.emit (resets : Resets history view fresh) (grows : fresh ≤ later)
    (distinct : next.Distinct later) (silent : ∀ event ∈ events, event.silent = true)
    (bounded : ∀ channel, account = some channel → channel < later)
    (unreset : ∀ channel, account = some channel → ¬ WasReset channel history)
    (gone : ∀ {id socket}, next.socket id = some socket →
      (WasReset socket.channel history ∨
        (account = some socket.channel ∧ ∃ sent ∈ frame, sent.isReset = true)) →
      next.dead = some id ∧ .markedDead id socket.channel ∈ history ++ events) :
    Resets (history ++ (events ++ frame.toList.map (.emitted · account))) next later := by
  constructor
  · exact distinct
  · intro channel emits
    rw [emissions_step silent] at emits
    by_cases same : account = some channel
    · exact bounded channel same
    · simp only [same, if_false, List.append_nil] at emits
      exact Nat.lt_of_lt_of_le (resets.emitted emits) grows
  · intro id socket found wasReset
    obtain ⟨isDead, marked⟩ := gone found ((wasReset_step silent).mp wasReset)
    refine ⟨isDead, ?_⟩
    rw [← List.append_assoc]
    exact List.mem_append_left _ marked
  · exact resets.once.step silent unreset

/-- An operation that inherits its sockets and does not reset one that it keeps. -/
theorem Resets.inherits {new : Option Id} (resets : Resets history view fresh)
    (inherits : view.Inherits next fresh new) (silent : ∀ event ∈ events, event.silent = true)
    (bounded : ∀ channel, account = some channel → channel ≤ fresh)
    (unreset : ∀ channel, account = some channel → ¬ WasReset channel history)
    (spent : ∀ {id socket sent}, next.socket id = some socket → account = some socket.channel →
      sent ∈ frame → sent.isReset = false) :
    Resets (history ++ (events ++ frame.toList.map (.emitted · account))) next (fresh + 1) := by
  refine resets.emit (Nat.le_succ fresh) (resets.distinct.inherits inherits) silent
    (fun channel same => Nat.lt_succ_of_le (bounded channel same)) unreset ?_
  intro id socket found reset
  rcases reset with wasReset | ⟨same, sent, member, isReset⟩
  · rcases inherits.inherited found with ⟨-, isFresh⟩ | ⟨old, before, kept⟩
    · rw [isFresh] at wasReset
      exact absurd (wasReset.lt resets) (Nat.lt_irrefl fresh)
    · rw [← kept] at wasReset ⊢
      obtain ⟨isDead, marked⟩ := resets.gone before wasReset
      exact ⟨inherits.dead.trans isDead, List.mem_append_left _ marked⟩
  · cases (spent found same member).symm.trans isReset

theorem Resets.starts {reserved : Option Id} {connect : OutboundConnect}
    (resets : Resets history view fresh) (isFresh : connect.channel = fresh)
    (starts : view.Starts reserved connect next frame account events) :
    Resets (history ++ (events ++ frame.toList.map (.emitted · account))) next (fresh + 1) := by
  subst isFresh
  obtain ⟨new, inherits⟩ := starts.inherits
  refine resets.inherits inherits starts.silent ?_ ?_ ?_
  · cases starts <;> simp
  · intro channel same wasReset
    have old := wasReset.lt resets
    cases starts with
    | full => cases same
    | started =>
        cases same
        exact Nat.lt_irrefl _ old
  · intro id socket sent found same member
    cases starts with
    | full => cases member
    | started =>
        cases member
        rfl

/-- A frame whose delivery fails finds a socket that was not marked, and an ACK finds
its initiator. -/
theorem Resets.receives {granted : Option Id} {header : Header}
    (resets : Resets history view fresh)
    (receives : view.Receives locals granted fresh header next frame account events)
    (unmarked : ∀ {localId remoteId channel}, header = .data localId remoteId →
      account = some channel → view.socket remoteId = some ⟨.opened localId, channel⟩ →
      .markedDead remoteId channel ∉ history)
    (alive : ∀ {localId remoteId rsp channel}, header = .ack localId remoteId →
      view.socket remoteId = some ⟨.connecting rsp, channel⟩ →
      locals.initiatorAlive rsp = true) :
    Resets (history ++ (events ++ frame.toList.map (.emitted · account))) next (fresh + 1) := by
  obtain ⟨new, inherits⟩ := receives.inherits
  refine resets.inherits inherits receives.silent ?_ ?_ ?_
  · intro channel same
    cases receives with
    | dataFailed isOpen =>
        cases same
        exact Nat.le_of_lt (resets.distinct.bounded isOpen)
    | ackAbandoned isConnecting =>
        cases same
        exact Nat.le_of_lt (resets.distinct.bounded isConnecting)
    | connectAccepted =>
        cases same
        exact Nat.le_refl fresh
    | _ => cases same
  · intro channel same wasReset
    cases receives with
    | dataFailed isOpen =>
        cases same
        exact unmarked rfl rfl isOpen (resets.gone isOpen wasReset).2
    | ackAbandoned isConnecting gone => cases gone.symm.trans (alive rfl isConnecting)
    | connectAccepted =>
        cases same
        exact Nat.lt_irrefl fresh (wasReset.lt resets)
    | _ => cases same
  · intro id socket sent found same member
    cases receives with
    | dataFailed isOpen =>
        cases same
        obtain ⟨different, before⟩ := Sockets.socket_erase_eq_some_iff.mp found
        exact absurd (resets.distinct.unique isOpen before rfl) different
    | ackAbandoned isConnecting gone => cases gone.symm.trans (alive rfl isConnecting)
    | connectAccepted =>
        cases member
        rfl
    | _ => cases same

/-- Polling after the cleanup finds no socket that was reset. -/
theorem Resets.sends (resets : Resets history view fresh)
    (sends : view.cleaned.Sends locals next frame account events) :
    Resets (history ++ (view.cleanupEvents ++ events ++ frame.toList.map (.emitted · account)))
      next (fresh + 1) := by
  have clean : ∀ {id socket}, view.cleaned.socket id = some socket →
      ¬ WasReset socket.channel history := by
    intro id socket found wasReset
    obtain ⟨notDead, before⟩ := Sockets.socket_cleaned_eq_some_iff.mp found
    exact notDead (resets.gone before wasReset).1
  have distinct := resets.distinct.cleaned
  refine resets.emit (Nat.le_succ fresh) ((distinct.sends sends).mono (Nat.le_succ fresh))
    sends.silent ?_ ?_ ?_
  · intro channel same
    cases sends with
    | idle => cases same
    | data isOpen | closed isOpen =>
        cases same
        exact Nat.lt_succ_of_lt (distinct.bounded isOpen)
  · intro channel same
    cases sends with
    | idle => cases same
    | data isOpen | closed isOpen =>
        cases same
        exact clean isOpen
  · intro id socket found reset
    rw [sends.socket_eq] at found
    rcases reset with wasReset | ⟨same, sent, member, isReset⟩
    · exact absurd wasReset (clean found)
    · cases sends with
      | idle => cases same
      | data isOpen =>
          cases member
          cases isReset
      | closed isOpen streamClosed =>
          cases same
          cases distinct.unique found isOpen rfl
          simp

end Steps

section Runs

variable {capacity : Nat} {build : Build} {table : ConnTable capacity} {view : Sockets}
  {locals : Locals}

/-- A DATA frame is answered on account of a socket only when its delivery fails. -/
theorem ConnTable.processData_account (localId id : Id) (body : List UInt8) :
    Ensures (table.processData locals localId id body) fun outcome =>
      ∀ channel, outcome.account = some channel →
        (locals.send channel body).isOk = false := by
  unfold ConnTable.processData
  split
  · exact ensures_ok.mpr (by simp)
  · dsimp only
    split
    · exact ensures_ok.mpr (by simp)
    · split
      · exact ensures_ok.mpr (by simp)
      · rename_i error failed
        refine Ensures.bind (fun _ _ => trivial : Ensures _ fun _ => True) ?_
        rintro ⟨removed, socket⟩ -
        refine ensures_pure.mpr ?_
        intro channel same
        cases same
        rw [failed]
        rfl
  · exact ensures_ok.mpr (by simp)

theorem Session.resets_step {reached next : Session capacity × List Event} {action : Action}
    {events : List Event} (agrees : reached.1.table.Shows view)
    (resets : Resets reached.2 view reached.1.freshChannel)
    (spares : sparesReset reached action)
    (stepTo : reached.1.step build action = some (next.1, events)) :
    ∃ after, next.1.table.Shows after ∧
      Resets (reached.2 ++ events) after next.1.freshChannel := by
  rcases reached.1.step_cases stepTo with
    ⟨message, -, isNext, rfl⟩ | ⟨outcome, operated, isNext, rfl⟩
  · rw [isNext, List.append_nil]
    exact ⟨view, agrees, resets⟩
  rw [isNext]
  cases action with
  | startConnecting locals identity hello =>
      obtain ⟨after, holds, starts⟩ := agrees.startConnecting _ outcome operated
      exact ⟨after, holds, resets.starts rfl starts⟩
  | processInbound locals frame =>
      obtain ⟨header, body⟩ := frame
      obtain ⟨after, holds, receives⟩ := agrees.processInbound _ ⟨header, body⟩ outcome operated
      refine ⟨after, holds, resets.receives receives ?_ ?_⟩
      · rintro localId remoteId channel rfl same isOpen marked
        have found : reached.1.table.socket remoteId = some ⟨.opened localId, channel⟩ :=
          (agrees.socket_eq remoteId).trans isOpen
        have failed := ConnTable.processData_account localId remoteId body outcome operated
          channel same
        rw [sparesReset, found] at spares
        cases failed.symm.trans (spares rfl marked)
      · rintro localId remoteId rsp channel rfl isConnecting
        have found : reached.1.table.socket remoteId = some ⟨.connecting rsp, channel⟩ :=
          (agrees.socket_eq remoteId).trans isConnecting
        rw [sparesReset, found] at spares
        exact spares
  | nextOutbound locals =>
      obtain ⟨after, polled, holds, sends, eventsEq⟩ :=
        agrees.nextOutbound build outcome operated
      rw [eventsEq]
      exact ⟨after, holds, resets.sends sends⟩

theorem resetsOnce_of_run {history : List Event} {final : Session capacity × List Event}
    (run : Run (recorded (Session.step build)) sparesReset (Session.new capacity, []) history
      final) : ResetsOnce history := by
  have holds : final.2 = history ∧ ∃ view, final.1.table.Shows view ∧
      Resets final.2 view final.1.freshChannel := by
    apply run.invariant fun past reached => reached.2 = past ∧
      ∃ view, reached.1.table.Shows view ∧ Resets reached.2 view reached.1.freshChannel
    · exact ⟨rfl, .empty, .new capacity, resets_empty⟩
    · intro past events reached next action invariant spares stepTo
      obtain ⟨rfl, view, agrees, resets⟩ := invariant
      obtain ⟨stepsTo, remembers⟩ := recorded_eq_some_iff.mp stepTo
      refine ⟨remembers, ?_⟩
      rw [remembers]
      exact Session.resets_step agrees resets spares stepsTo
  obtain ⟨remembers, view, -, resets⟩ := holds
  rw [← remembers]
  exact resets.once

/-- A connection that is reset by a failed delivery, and one that closes and is
cleaned up. -/
theorem resetsOnce_of_run_twoResets :
    ∃ history final,
      Run (recorded (Session.step .debug)) sparesReset (Session.new 1, []) history final ∧
      WasReset 0 history ∧ WasReset 2 history ∧ ResetsOnce history := by
  obtain ⟨history, final, run, observed⟩ :=
    exists_run_of_exec (recorded (Session.step .debug)) sparesReset (Session.new 1, [])
      [.processInbound .quiet ⟨.connect .first .sample, []⟩,
        .processInbound .sendFails ⟨.data .first .first, [7]⟩,
        .processInbound .quiet ⟨.connect .first .sample, []⟩, .nextOutbound .dataReady,
        .nextOutbound .streamClosed, .processInbound .quiet ⟨.data .first .first, [7]⟩,
        .nextOutbound .quiet, .processInbound .sendFails ⟨.data .first .first, [7]⟩]
      (fun reached => (emissions 0 reached.2, emissions 2 reached.2))
      (show _ = some ([.ack .first .first, .reset .first .becauseISaidSo],
        [.ack .first .first, .data .first .first [0], .reset .first .becauseISaidSo])
        by decide +kernel)
  simp only [Prod.mk.injEq] at observed
  refine ⟨history, final, run, ?_, ?_, resetsOnce_of_run run⟩
  · exact ⟨_, by rw [observed.1]; exact List.mem_cons_of_mem _ (List.mem_cons_self ..), rfl⟩
  · refine ⟨.reset .first .becauseISaidSo, ?_, rfl⟩
    rw [observed.2]
    simp

/-- A DATA frame that cannot be delivered arrives before the cleanup of a socket that
was marked dead. -/
theorem not_resetsOnce_of_run_marked :
    ¬ ∀ history (final : Session 1),
      Run (Session.step .debug) anyStep (Session.new 1) history final → ResetsOnce history := by
  intro always
  obtain ⟨history, final, run, observed⟩ :=
    exists_run_of_exec (Session.step .debug) anyStep (Session.new 1)
      [.processInbound .quiet ⟨.connect .first .sample, []⟩, .nextOutbound .streamClosed,
        .processInbound .sendFails ⟨.data .first .first, [7]⟩]
      (fun reached => emissions 0 reached.2)
      (show _ = some [.ack .first .first, .reset .first .becauseISaidSo,
        .reset .first .becauseISaidSo] by decide +kernel)
  have once := always history final run 0
  rw [observed] at once
  simp [Frame.isReset, Frame.reset, Frame.ack] at once

/-- A socket whose initiator is gone when it is acknowledged stays open, and sends
DATA and another RESET. -/
example :
    (exec (Session.step .debug) anyStep (Session.new 1)
      [.startConnecting .quiet .sample [],
        .processInbound { Locals.quiet with initiatorAlive := fun _ => false }
          ⟨.ack .first .first, []⟩,
        .nextOutbound .dataReady, .nextOutbound .streamClosed]).map
      (fun reached => emissions 0 reached.2) =
    some [.connect .first .sample [], .reset .first .becauseISaidSo,
      .data .first .first [0], .reset .first .becauseISaidSo] := by
  decide +kernel

end Runs

end Calliope

end Mgnp
