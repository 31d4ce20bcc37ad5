import Mgnp.ConnTableOccupancy
import Mgnp.MachineAgreement
import Mgnp.MachineConnect

/-!
# What connect requests are told

A connect request is answered by the table that it is given to, or by the peer after its
registry has decided.  The history of this file keeps the requests, the decisions and
the answers.  As long as no RESET removes a connecting socket, every request has one
frame of its handshake on a wire until it is answered, and what it is told is what has
been decided about it.
-/

namespace Mgnp

namespace Calliope

open ExceptRules LabelledRuns

inductive Report
  /-- `start_connecting` was given a request, with every entry of the table taken if
  `full`. -/
  | requested (side : Side) (connection : Nat) (identity : Identity) (hello : List UInt8)
      (full : Bool)
  /-- `Registry::connect` was asked about a request, with `none` when it accepted and with
  every entry of the table taken if `full`. -/
  | consulted (side : Side) (connection : Nat) (identity : Identity) (hello : List UInt8)
      (full : Bool) (refusal : Option Rejection)
  /-- `rsp.send`, with `none` for `Ok(())`. -/
  | answered (side : Side) (connection : Nat) (rejection : Option Rejection)
  deriving DecidableEq

namespace Report

def requests (connection : Nat) : Report → Bool
  | .requested _ about _ _ _ => about == connection
  | .consulted _ _ _ _ _ _ | .answered _ _ _ => false

def consults (connection : Nat) : Report → Bool
  | .consulted _ about _ _ _ _ => about == connection
  | .requested _ _ _ _ _ | .answered _ _ _ => false

def answers (connection : Nat) : Report → Bool
  | .answered _ about _ => about == connection
  | .requested _ _ _ _ _ | .consulted _ _ _ _ _ _ => false

end Report

/-- How the registry's answer is reported. -/
def refusalOf : Except Rejection Unit → Option Rejection
  | .ok () => none
  | .error reason => some reason

def Occurrence.report : Occurrence → Option Report
  | ⟨side, _, .answered rsp rejection _⟩ => some (.answered side rsp rejection)
  | _ => none

/-- Whether `start_connecting` finds every entry taken, once the table is cleaned up. -/
def World.startsFull {capacity : Side → Nat} (world : World capacity) (side : Side) : Bool :=
  match (world.machine side).table.cleanupDead with
  | .ok (table, _) => table.isFull
  | .error _ => false

/-- The request that a step is given, or the question that it asks the registry. -/
def World.reports {capacity : Side → Nat} (world : World capacity) (action : WorldAction) :
    List Report :=
  match action.move with
  | .connect _ identity hello =>
      [.requested action.side world.freshConnection identity hello
        (world.startsFull action.side)]
  | .receive locals =>
      match (world.machine action.side.other).sent.head? with
      | some ⟨connection, ⟨.connect _ identity, body⟩⟩ =>
          [.consulted action.side connection identity body.toVec
            (world.machine action.side).table.isFull
            (refusalOf (locals.connect identity body.toVec))]
      | _ => []
  | .poll _ | .close _ => []

/-- The machines, with what becomes of the connect requests as their history. -/
def World.converse {capacity : Side → Nat} (build : Build) (world : World capacity)
    (action : WorldAction) : Option (World capacity × List Report) :=
  (world.step build action).map fun outcome =>
    (outcome.1, world.reports action ++ outcome.2.filterMap Occurrence.report)

/-- What an answer to a CONNECT frame tells the initiator. -/
def Header.tells : Header → Option (Option Rejection)
  | .ack _ _ => some none
  | .reject _ reason => some (some reason)
  | .connect _ _ | .data _ _ | .reset _ _ => none

def Header.isConnect : Header → Bool
  | .connect _ _ => true
  | .ack _ _ | .reject _ _ | .data _ _ | .reset _ _ => false

@[simp] theorem Header.isConnect_connect (id : Id) (identity : Identity) :
    (Header.connect id identity).isConnect = true := rfl

/-- The CONNECT frame of this connection. -/
def Tagged.asks (connection : Nat) (tagged : Tagged) : Bool :=
  tagged.connection == connection && tagged.frame.header.isConnect

/-- A frame of the handshake of this connection. -/
def Tagged.shakes (connection : Nat) (tagged : Tagged) : Bool :=
  tagged.connection == connection &&
    (tagged.frame.header.isConnect || tagged.frame.header.tells.isSome)

/-- How a table of this capacity answers a CONNECT frame, after the registry has
accepted it or refused it. -/
def Header.Replies (capacity : Nat) (full : Bool) (refusal : Option Rejection)
    (header : Header) : Prop :=
  match refusal with
  | some reason => header.tells = some (some reason)
  | none => header.tells = some (if full then some (.connTableFull capacity) else none)

/-- How many frames on the two wires are of a kind. -/
def Network.carrying (net : Network) (kind : Tagged → Bool) : Nat :=
  (net.sent .left).countP kind + (net.sent .right).countP kind

/-- What a step of one side takes off the wire towards it and puts on its own. -/
structure Network.Moves (net : Network) (side : Side) (taken sends : List Tagged)
    (after : Network) : Prop where
  takes : net.sent side.other = taken ++ after.sent side.other
  sends : after.sent side = net.sent side ++ sends

theorem Network.carrying_eq (net : Network) (side : Side) (kind : Tagged → Bool) :
    net.carrying kind =
      (net.sent side).countP kind + (net.sent side.other).countP kind := by
  cases side with
  | left => rfl
  | right => exact Nat.add_comm _ _

theorem Network.Moves.carrying {net after : Network} {side : Side} {taken sends : List Tagged}
    (moves : net.Moves side taken sends after) (kind : Tagged → Bool) :
    after.carrying kind + taken.countP kind = net.carrying kind + sends.countP kind := by
  rw [after.carrying_eq side, net.carrying_eq side, moves.takes, moves.sends,
    List.countP_append, List.countP_append]
  omega

/-- What a step does with the connect requests. -/
inductive Network.Deal (capacity : Side → Nat) (net : Network) (side : Side)
    (after : Network) : List Report → Prop
  | quiet {taken sends : List Tagged} (moves : net.Moves side taken sends after)
      (fresh : after.fresh = net.fresh)
      (silent : ∀ tagged ∈ taken ++ sends, ∀ connection, tagged.shakes connection = false) :
      Deal capacity net side after []
  | refused {identity : Identity} {hello : List UInt8} (moves : net.Moves side [] [] after)
      (fresh : after.fresh = net.fresh + 1) :
      Deal capacity net side after [.requested side net.fresh identity hello true,
        .answered side net.fresh (some (.connTableFull (capacity side)))]
  | requested {id : Id} {identity : Identity} {hello : List UInt8}
      (moves : net.Moves side [] [⟨net.fresh, .connect id identity hello⟩] after)
      (fresh : after.fresh = net.fresh + 1) :
      Deal capacity net side after [.requested side net.fresh identity hello false]
  | consulted {connection : Nat} {id : Id} {identity : Identity} {body : OutboundData}
      {full : Bool} {refusal : Option Rejection} {reply : OutboundFrame}
      (moves : net.Moves side [⟨connection, ⟨.connect id identity, body⟩⟩]
        [⟨connection, reply⟩] after)
      (fresh : after.fresh = net.fresh)
      (replies : reply.header.Replies (capacity side) full refusal) :
      Deal capacity net side after
        [.consulted side connection identity body.toVec full refusal]
  | answered {tagged : Tagged} {sends : List Tagged} {rejection : Option Rejection}
      (moves : net.Moves side [tagged] sends after) (fresh : after.fresh = net.fresh)
      (tells : tagged.frame.header.tells = some rejection)
      (silent : ∀ tagged ∈ sends, ∀ connection, tagged.shakes connection = false) :
      Deal capacity net side after [.answered side tagged.connection rejection]

/-- What the peer may tell the initiator of a request on this side. -/
inductive Promised (capacity : Side → Nat) (history : List Report) (side : Side)
    (connection : Nat) : Option Rejection → Prop
  | accepted {identity : Identity} {hello : List UInt8}
      (requested : .requested side connection identity hello false ∈ history)
      (consulted : .consulted side.other connection identity hello false none ∈ history) :
      Promised capacity history side connection none
  | refused {identity : Identity} {hello : List UInt8} {full : Bool} {reason : Rejection}
      (requested : .requested side connection identity hello false ∈ history)
      (consulted : .consulted side.other connection identity hello full (some reason) ∈
        history) :
      Promised capacity history side connection (some reason)
  /-- The registry accepted, and no entry of the peer's table was left. -/
  | full {identity : Identity} {hello : List UInt8}
      (requested : .requested side connection identity hello false ∈ history)
      (consulted : .consulted side.other connection identity hello true none ∈ history) :
      Promised capacity history side connection
        (some (.connTableFull (capacity side.other)))

/-- What the initiator of a request on this side may be told: what the peer decided, or
that the table of its own side was full and the peer was never asked. -/
inductive Justified (capacity : Side → Nat) (history : List Report) (side : Side)
    (connection : Nat) : Option Rejection → Prop
  | promised {rejection : Option Rejection}
      (promised : Promised capacity history side connection rejection) :
      Justified capacity history side connection rejection
  | full {identity : Identity} {hello : List UInt8}
      (requested : .requested side connection identity hello true ∈ history)
      (unasked : history.countP (Report.consults connection) = 0) :
      Justified capacity history side connection (some (.connTableFull (capacity side)))

section Histories

variable {capacity : Side → Nat} {history reports : List Report} {side : Side}
  {connection : Nat} {rejection : Option Rejection} {identity : Identity}
  {hello : List UInt8} {full : Bool}

theorem Promised.mono (promised : Promised capacity history side connection rejection)
    (reports : List Report) :
    Promised capacity (history ++ reports) side connection rejection := by
  cases promised with
  | accepted requested consulted =>
      exact .accepted (List.mem_append_left _ requested) (List.mem_append_left _ consulted)
  | refused requested consulted =>
      exact .refused (List.mem_append_left _ requested) (List.mem_append_left _ consulted)
  | full requested consulted =>
      exact .full (List.mem_append_left _ requested) (List.mem_append_left _ consulted)

theorem Justified.mono (justified : Justified capacity history side connection rejection)
    (unasked : reports.countP (Report.consults connection) = 0) :
    Justified capacity (history ++ reports) side connection rejection := by
  cases justified with
  | promised promised => exact .promised (promised.mono reports)
  | full requested none =>
      exact .full (List.mem_append_left _ requested) (by simp [none, unasked])

/-- The reply to a request tells what was decided. -/
theorem Header.Replies.promised {header : Header} {refusal : Option Rejection}
    (replies : header.Replies (capacity side.other) full refusal)
    (requested : .requested side connection identity hello false ∈ history)
    (consulted : .consulted side.other connection identity hello full refusal ∈ history)
    (tells : header.tells = some rejection) :
    Promised capacity history side connection rejection := by
  cases refusal with
  | some reason =>
      obtain rfl := Option.some.inj (tells.symm.trans replies)
      exact .refused requested consulted
  | none =>
      obtain rfl := Option.some.inj (tells.symm.trans replies)
      cases full with
      | false => exact .accepted requested consulted
      | true => exact .full requested consulted

theorem Header.Replies.isAnswer {header : Header} {refusal : Option Rejection} {size : Nat}
    (replies : header.Replies size full refusal) :
    header.isConnect = false ∧ header.tells.isSome = true := by
  cases header with
  | ack | reject => exact ⟨rfl, rfl⟩
  | connect | data | reset => cases refusal <;> simp [Replies, Header.tells] at replies

end Histories

section Frames

variable {tagged : Tagged} {connection : Nat} {frame : OutboundFrame}

theorem Tagged.shakes_iff_of_answer {rejection : Option Rejection}
    (tells : tagged.frame.header.tells = some rejection) (connection : Nat) :
    tagged.shakes connection = (tagged.connection == connection) ∧
      tagged.asks connection = false := by
  cases at_header : tagged.frame.header <;>
    simp_all [shakes, asks, Header.tells, Header.isConnect]

/-- A frame that is no part of the handshake asks nothing. -/
theorem Tagged.asks_of_silent (silent : tagged.shakes connection = false) :
    tagged.asks connection = false := by
  simp only [shakes, Bool.and_eq_false_iff, Bool.or_eq_false_iff] at silent
  simp only [asks, Bool.and_eq_false_iff]
  rcases silent with other | ⟨notConnect, -⟩
  · exact .inl other
  · exact .inr notConnect

theorem Tagged.countP_shakes_silent {frames : List Tagged}
    (silent : ∀ tagged ∈ frames, ∀ connection, tagged.shakes connection = false)
    (connection : Nat) :
    frames.countP (Tagged.shakes connection) = 0 ∧
      frames.countP (Tagged.asks connection) = 0 := by
  constructor
  · exact List.countP_eq_zero.mpr fun tagged member => by simp [silent tagged member connection]
  · exact List.countP_eq_zero.mpr fun tagged member => by
      simp [Tagged.asks_of_silent (silent tagged member connection)]

end Frames

/-- What a frame says about a request is on record. -/
structure Vouched (capacity : Side → Nat) (history : List Report) (side : Side)
    (tagged : Tagged) : Prop where
  asks : ∀ id identity, tagged.frame.header = .connect id identity →
    .requested side tagged.connection identity tagged.frame.body.toVec false ∈ history
  tells : ∀ rejection, tagged.frame.header.tells = some rejection →
    Promised capacity history side.other tagged.connection rejection

/-- How the history, the wires and the requests that have been made belong together. -/
structure Conversation (capacity : Side → Nat) (history : List Report) (net : Network) :
    Prop where
  requested : ∀ connection, history.countP (Report.requests connection) =
    if connection < net.fresh then 1 else 0
  /-- A request that has been made is on a wire or has been answered. -/
  answered : ∀ connection,
    net.carrying (Tagged.shakes connection) + history.countP (Report.answers connection) =
      if connection < net.fresh then 1 else 0
  consulted : ∀ connection,
    net.carrying (Tagged.asks connection) + history.countP (Report.consults connection) ≤
      if connection < net.fresh then 1 else 0
  vouched : ∀ side, ∀ tagged ∈ net.sent side, Vouched capacity history side tagged
  questions : ∀ side connection identity hello full refusal,
    .consulted side connection identity hello full refusal ∈ history →
      .requested side.other connection identity hello false ∈ history
  justified : ∀ side connection rejection, .answered side connection rejection ∈ history →
    Justified capacity history side connection rejection

section Conversations

variable {capacity : Side → Nat} {history reports : List Report} {net after : Network}
  {side : Side} {taken sends : List Tagged} {tagged : Tagged}

theorem Vouched.mono (vouched : Vouched capacity history side tagged) (reports : List Report) :
    Vouched capacity (history ++ reports) side tagged where
  asks id identity isConnect := List.mem_append_left _ (vouched.asks id identity isConnect)
  tells rejection isAnswer := (vouched.tells rejection isAnswer).mono reports

theorem Vouched.of_silent (silent : ∀ connection, tagged.shakes connection = false) :
    Vouched capacity history side tagged := by
  have quiet := silent tagged.connection
  simp only [Tagged.shakes, beq_self_eq_true, Bool.true_and, Bool.or_eq_false_iff] at quiet
  constructor
  · intro id identity isConnect
    simp [isConnect, Header.isConnect] at quiet
  · intro rejection isAnswer
    simp [isAnswer] at quiet

/-- The frames on the wires stay vouched for when those that are sent are. -/
theorem Conversation.vouched_after (conversation : Conversation capacity history net)
    (moves : net.Moves side taken sends after) (reports : List Report)
    (sent : ∀ tagged ∈ sends, Vouched capacity (history ++ reports) side tagged) :
    ∀ other, ∀ tagged ∈ after.sent other, Vouched capacity (history ++ reports) other tagged := by
  intro other tagged member
  rcases other.eq_or_eq_other side with rfl | rfl
  · rw [moves.sends] at member
    rcases List.mem_append.mp member with old | new
    · exact (conversation.vouched other tagged old).mono reports
    · exact sent tagged new
  · refine (conversation.vouched side.other tagged ?_).mono reports
    rw [moves.takes]
    exact List.mem_append_right _ member

/-- The answers of a longer history are justified when those that are new are, and no
request that has been answered is asked about. -/
theorem Conversation.justified_after (conversation : Conversation capacity history net)
    (unasked : ∀ side connection rejection,
      .answered side connection rejection ∈ history →
      reports.countP (Report.consults connection) = 0)
    (told : ∀ side connection rejection, .answered side connection rejection ∈ reports →
      Justified capacity (history ++ reports) side connection rejection) :
    ∀ side connection rejection, .answered side connection rejection ∈ history ++ reports →
      Justified capacity (history ++ reports) side connection rejection := by
  intro side connection rejection member
  rcases List.mem_append.mp member with old | new
  · exact (conversation.justified side connection rejection old).mono
      (unasked side connection rejection old)
  · exact told side connection rejection new

/-- The questions of a longer history are about requests when those that are new are. -/
theorem Conversation.questions_after (conversation : Conversation capacity history net)
    (asked : ∀ side connection identity hello full refusal,
      .consulted side connection identity hello full refusal ∈ reports →
        .requested side.other connection identity hello false ∈ history) :
    ∀ side connection identity hello full refusal,
      .consulted side connection identity hello full refusal ∈ history ++ reports →
        .requested side.other connection identity hello false ∈ history ++ reports := by
  intro side connection identity hello full refusal member
  apply List.mem_append_left
  rcases List.mem_append.mp member with old | new
  · exact conversation.questions side connection identity hello full refusal old
  · exact asked side connection identity hello full refusal new

theorem Conversation.initial : Conversation capacity [] .empty := by
  constructor <;> simp [Network.carrying, Network.empty]

/-- A step that has nothing to do with a handshake. -/
theorem Conversation.quiet (conversation : Conversation capacity history net)
    (moves : net.Moves side taken sends after) (fresh : after.fresh = net.fresh)
    (silent : ∀ tagged ∈ taken ++ sends, ∀ connection, tagged.shakes connection = false) :
    Conversation capacity (history ++ []) after := by
  have takes := Tagged.countP_shakes_silent
    fun tagged member => silent tagged (List.mem_append_left _ member)
  have speaks := Tagged.countP_shakes_silent
    fun tagged member => silent tagged (List.mem_append_right _ member)
  have grown := conversation.vouched_after moves [] fun tagged member =>
    .of_silent (silent tagged (List.mem_append_right _ member))
  rw [List.append_nil] at grown ⊢
  constructor
  · rw [fresh]
    exact conversation.requested
  · intro connection
    have carried := moves.carrying (Tagged.shakes connection)
    rw [(takes connection).1, (speaks connection).1] at carried
    rw [fresh, ← conversation.answered connection]
    omega
  · intro connection
    have carried := moves.carrying (Tagged.asks connection)
    have before := conversation.consulted connection
    rw [(takes connection).2, (speaks connection).2] at carried
    rw [fresh]
    omega
  · exact grown
  · exact conversation.questions
  · exact conversation.justified

/-- Nothing is known of a request that has not been made. -/
theorem Conversation.unmade (conversation : Conversation capacity history net) :
    net.carrying (Tagged.shakes net.fresh) = 0 ∧ net.carrying (Tagged.asks net.fresh) = 0 ∧
      history.countP (Report.answers net.fresh) = 0 ∧
      history.countP (Report.consults net.fresh) = 0 := by
  have answered := conversation.answered net.fresh
  have consulted := conversation.consulted net.fresh
  rw [if_neg (Nat.lt_irrefl _)] at answered consulted
  omega

/-- The request that a step makes is the next one. -/
theorem countP_fresh {connection fresh : Nat} :
    (if connection < fresh + 1 then 1 else 0) =
      (if connection < fresh then 1 else 0) + if fresh = connection then 1 else 0 := by
  by_cases same : fresh = connection
  · simp [same]
  · by_cases before : connection < fresh
    · simp [same, before, Nat.lt_succ_of_lt before]
    · have later : ¬ connection < fresh + 1 := by omega
      simp [same, before, later]

theorem Conversation.refused (conversation : Conversation capacity history net)
    {identity : Identity} {hello : List UInt8} (moves : net.Moves side [] [] after)
    (fresh : after.fresh = net.fresh + 1) :
    Conversation capacity (history ++ [.requested side net.fresh identity hello true,
      .answered side net.fresh (some (.connTableFull (capacity side)))]) after := by
  constructor
  · intro connection
    rw [fresh, countP_fresh, ← conversation.requested connection, List.countP_append]
    simp [Report.requests, List.countP_cons]
  · intro connection
    have carried := moves.carrying (Tagged.shakes connection)
    simp only [List.countP_nil, Nat.add_zero] at carried
    rw [fresh, countP_fresh, ← conversation.answered connection, List.countP_append, carried]
    simp [Report.answers, List.countP_cons, Nat.add_assoc]
  · intro connection
    have carried := moves.carrying (Tagged.asks connection)
    have before := conversation.consulted connection
    simp only [List.countP_nil, Nat.add_zero] at carried
    rw [fresh, countP_fresh, List.countP_append, carried]
    simp only [Report.consults, List.countP_cons, List.countP_nil, Bool.false_eq_true, if_false]
    omega
  · exact conversation.vouched_after moves _ (by simp)
  · exact conversation.questions_after (by simp)
  · apply conversation.justified_after
    · intro _ connection _ _
      simp [Report.consults]
    · intro other connection rejection member
      obtain ⟨rfl, rfl, rfl⟩ := by simpa using member
      refine .full (List.mem_append_right _ List.mem_cons_self) ?_
      rw [List.countP_append, conversation.unmade.2.2.2]
      simp [Report.consults]

theorem Conversation.started (conversation : Conversation capacity history net) {id : Id}
    {identity : Identity} {hello : List UInt8}
    (moves : net.Moves side [] [⟨net.fresh, .connect id identity hello⟩] after)
    (fresh : after.fresh = net.fresh + 1) :
    Conversation capacity (history ++ [.requested side net.fresh identity hello false]) after := by
  constructor
  · intro connection
    rw [fresh, countP_fresh, ← conversation.requested connection, List.countP_append]
    simp [Report.requests, List.countP_cons]
  · intro connection
    have carried := moves.carrying (Tagged.shakes connection)
    rw [List.countP_nil, Nat.add_zero] at carried
    rw [fresh, countP_fresh, ← conversation.answered connection, List.countP_append, carried]
    simp only [List.countP_cons, List.countP_nil, Tagged.shakes, Frame.connect,
      Header.isConnect, Report.answers, Bool.true_or, Bool.and_true, beq_iff_eq,
      Bool.false_eq_true, if_false]
    omega
  · intro connection
    have carried := moves.carrying (Tagged.asks connection)
    have before := conversation.consulted connection
    rw [List.countP_nil, Nat.add_zero] at carried
    rw [fresh, countP_fresh, List.countP_append, carried]
    simp only [List.countP_cons, List.countP_nil, Tagged.asks, Frame.connect,
      Header.isConnect, Report.consults, Bool.and_true, beq_iff_eq, Bool.false_eq_true, if_false]
    omega
  · apply conversation.vouched_after moves
    intro tagged member
    obtain rfl := List.mem_singleton.mp member
    constructor
    · intro requestId about isConnect
      obtain ⟨rfl, rfl⟩ := by simpa [Frame.connect] using isConnect
      exact List.mem_append_right _ List.mem_cons_self
    · intro rejection isAnswer
      cases isAnswer
  · exact conversation.questions_after (by simp)
  · apply conversation.justified_after
    · intro _ connection _ _
      simp [Report.consults]
    · simp

/-- A request whose CONNECT frame is on a wire has not been asked about or answered. -/
theorem Conversation.unasked (conversation : Conversation capacity history net)
    (member : tagged ∈ net.sent side) (isConnect : tagged.frame.header.isConnect = true) :
    tagged.connection < net.fresh ∧
      history.countP (Report.answers tagged.connection) = 0 ∧
      history.countP (Report.consults tagged.connection) = 0 := by
  have shakes : 0 < (net.sent side).countP (Tagged.shakes tagged.connection) :=
    List.countP_pos_iff.mpr ⟨tagged, member, by simp [Tagged.shakes, isConnect]⟩
  have asks : 0 < (net.sent side).countP (Tagged.asks tagged.connection) :=
    List.countP_pos_iff.mpr ⟨tagged, member, by simp [Tagged.asks, isConnect]⟩
  have answered := conversation.answered tagged.connection
  have consulted := conversation.consulted tagged.connection
  rw [net.carrying_eq side] at answered consulted
  split at answered <;> rename_i made
  · rw [if_pos made] at consulted
    omega
  · omega

theorem Conversation.replied (conversation : Conversation capacity history net)
    {connection : Nat} {id : Id} {identity : Identity} {body : OutboundData}
    {full : Bool} {refusal : Option Rejection} {reply : OutboundFrame}
    (moves : net.Moves side [⟨connection, ⟨.connect id identity, body⟩⟩] [⟨connection, reply⟩]
      after)
    (fresh : after.fresh = net.fresh)
    (replies : reply.header.Replies (capacity side) full refusal) :
    Conversation capacity
      (history ++ [.consulted side connection identity body.toVec full refusal]) after := by
  have inFront : ⟨connection, ⟨.connect id identity, body⟩⟩ ∈ net.sent side.other := by
    rw [moves.takes]
    exact List.mem_append_left _ List.mem_cons_self
  have requested : .requested side.other connection identity body.toVec false ∈ history :=
    (conversation.vouched side.other _ inFront).asks id identity rfl
  obtain ⟨made, unanswered, unasked⟩ := conversation.unasked inFront rfl
  obtain ⟨notConnect, isAnswer⟩ := replies.isAnswer
  constructor
  · intro about
    rw [fresh, ← conversation.requested about, List.countP_append]
    simp [Report.requests]
  · intro about
    have carried := moves.carrying (Tagged.shakes about)
    rw [fresh, ← conversation.answered about, List.countP_append]
    simp only [List.countP_cons, List.countP_nil, Tagged.shakes, Header.isConnect, isAnswer,
      Report.answers, Bool.true_or, Bool.or_true, Bool.and_true, beq_iff_eq,
      Bool.false_eq_true, if_false] at carried ⊢
    omega
  · intro about
    have carried := moves.carrying (Tagged.asks about)
    have before := conversation.consulted about
    rw [fresh, List.countP_append]
    simp only [List.countP_cons, List.countP_nil, Tagged.asks, Header.isConnect_connect,
      notConnect, Report.consults, Bool.and_true, Bool.and_false, beq_iff_eq, Bool.false_eq_true,
      if_false] at carried ⊢
    omega
  · apply conversation.vouched_after moves
    intro tagged member
    obtain rfl := List.mem_singleton.mp member
    constructor
    · intro requestId about isConnect
      rw [isConnect] at notConnect
      cases notConnect
    · intro rejection tells
      apply Header.Replies.promised (by simpa using replies)
        (List.mem_append_left _ requested) _ tells
      simp
  · apply conversation.questions_after
    intro other about who hello found answer member
    obtain ⟨rfl, rfl, rfl, rfl, rfl, rfl⟩ := by simpa using member
    exact requested
  · apply conversation.justified_after
    · intro other about rejection member
      have answered : 0 < history.countP (Report.answers about) :=
        List.countP_pos_iff.mpr ⟨_, member, by simp [Report.answers]⟩
      have different : connection ≠ about := by
        rintro rfl
        exact absurd unanswered (Nat.pos_iff_ne_zero.mp answered)
      simp [Report.consults, different]
    · simp

/-- An answer on a wire is the only one, and its request will not be asked about. -/
theorem Conversation.told (conversation : Conversation capacity history net)
    {rejection : Option Rejection} (moves : net.Moves side [tagged] sends after)
    (fresh : after.fresh = net.fresh) (tells : tagged.frame.header.tells = some rejection)
    (silent : ∀ tagged ∈ sends, ∀ connection, tagged.shakes connection = false) :
    Conversation capacity (history ++ [.answered side tagged.connection rejection]) after := by
  have inFront : tagged ∈ net.sent side.other := by
    rw [moves.takes]
    exact List.mem_append_left _ List.mem_cons_self
  have promised := (conversation.vouched side.other tagged inFront).tells rejection tells
  rw [Side.other_other] at promised
  have speaks := Tagged.countP_shakes_silent silent
  constructor
  · intro about
    rw [fresh, ← conversation.requested about, List.countP_append]
    simp [Report.requests]
  · intro about
    have carried := moves.carrying (Tagged.shakes about)
    obtain ⟨shakes, -⟩ := Tagged.shakes_iff_of_answer tells about
    rw [(speaks about).1] at carried
    rw [fresh, ← conversation.answered about, List.countP_append]
    simp only [List.countP_cons, List.countP_nil, shakes, Report.answers, beq_iff_eq]
      at carried ⊢
    omega
  · intro about
    have carried := moves.carrying (Tagged.asks about)
    have before := conversation.consulted about
    obtain ⟨-, asks⟩ := Tagged.shakes_iff_of_answer tells about
    rw [(speaks about).2] at carried
    rw [fresh, List.countP_append]
    simp only [List.countP_cons, List.countP_nil, asks, Report.consults, Bool.false_eq_true,
      if_false] at carried ⊢
    omega
  · exact conversation.vouched_after moves _ fun tagged member => .of_silent (silent tagged member)
  · exact conversation.questions_after (by simp)
  · apply conversation.justified_after
    · intro other about answer member
      simp [Report.consults]
    · intro other about answer member
      obtain ⟨rfl, rfl, rfl⟩ := by simpa using member
      exact .promised (promised.mono _)

/-- Whatever a step does with the requests, the history stays a conversation. -/
theorem Conversation.deal (conversation : Conversation capacity history net)
    (deal : net.Deal capacity side after reports) :
    Conversation capacity (history ++ reports) after := by
  cases deal with
  | quiet moves fresh silent => exact conversation.quiet moves fresh silent
  | refused moves fresh => exact conversation.refused moves fresh
  | requested moves fresh => exact conversation.started moves fresh
  | consulted moves fresh replies => exact conversation.replied moves fresh replies
  | answered moves fresh tells silent => exact conversation.told moves fresh tells silent

end Conversations

section Tables

variable {size : Nat} {table : ConnTable size} {locals : Locals}

theorem ConnTable.Counted.accept_replies (counted : table.Counted) (remoteId : Id)
    (channel : Nat) :
    Ensures (table.accept remoteId channel) fun outcome =>
      ∃ reply, outcome.frame = some reply ∧ reply.header.Replies size table.isFull none := by
  have fullIff := counted.reserveId_eq_none_iff
  unfold ConnTable.accept ConnTable.insert
  cases reserved : table.reserveId with
  | none =>
      refine ensures_ok.mpr ⟨_, rfl, ?_⟩
      simp [Header.Replies, fullIff.mp reserved, Frame.reject, Header.tells]
  | some id =>
      have notFull : table.isFull = false := by
        rw [← Bool.not_eq_true, ← fullIff, reserved]
        simp
      simp only [bind_assoc, pure_bind]
      refine Ensures.bind (fun inserted isInserted => isInserted) fun inserted _ => ?_
      refine ensures_pure.mpr ⟨_, rfl, ?_⟩
      simp [Header.Replies, notFull, Frame.ack, Header.tells]

/-- A CONNECT frame is answered as the registry decides, unless the table is full. -/
theorem ConnTable.Counted.processInbound_replies (counted : table.Counted) (channel : Nat)
    (id : Id) (identity : Identity) (body : List UInt8) :
    Ensures (table.processInbound locals channel ⟨.connect id identity, body⟩) fun outcome =>
      ∃ reply, outcome.frame = some reply ∧
        reply.header.Replies size table.isFull (refusalOf (locals.connect identity body)) := by
  unfold ConnTable.processInbound
  dsimp only
  cases locals.connect identity body with
  | ok => exact counted.accept_replies id channel
  | error reason => exact ensures_ok.mpr ⟨_, rfl, rfl⟩

/-- A table refuses a request of its own side only because it is full. -/
theorem ConnTable.startConnecting_refuses (connect : OutboundConnect) :
    Ensures (table.startConnecting locals connect) fun outcome =>
      ∀ rsp rejection received, .answered rsp rejection received ∈ outcome.events →
        rejection = some (.connTableFull size) := by
  unfold ConnTable.startConnecting
  cases table.reserveId with
  | none =>
      rw [ensures_ok]
      intro rsp rejection received member
      obtain ⟨-, rfl, -⟩ := by simpa using member
      rfl
  | some id =>
      refine Ensures.bind (fun inserted isInserted => isInserted) fun inserted _ => ?_
      rw [ensures_pure]
      simp

end Tables

section Worlds

variable {capacity : Side → Nat} {build : Build} {world next : World capacity}
  {net : Network} {side : Side} {locals : Locals} {occurred : List Occurrence}
  {rest : List Tagged}

/-- The length that each table keeps is the number of its sockets. -/
def World.Counted (world : World capacity) : Prop :=
  ∀ side, (world.machine side).table.Counted

theorem World.Counted.update (counted : world.Counted) (machine : Machine (capacity side))
    (table : machine.table.Counted) (fresh : Nat) :
    Counted ⟨Function.update world.machine side machine, fresh⟩ := by
  intro other
  by_cases same : other = side
  · subst same
    simpa using table
  · simpa [same] using counted other

theorem World.Counted.step {action : WorldAction} (counted : world.Counted)
    (stepTo : world.step build action = some (next, occurred)) : next.Counted := by
  cases World.step_cases stepTo with
  | @receive side _ _ rest outcome head processed =>
      have taken : (world.takeFrame side.other rest).Counted :=
        counted.update { world.machine side.other with sent := rest } (counted side.other) _
      exact taken.update _ ((counted side).processInbound _ _ outcome processed) _
  | @poll side _ outcome polled =>
      exact counted.update _ ((counted side).nextOutbound outcome polled) _
  | @connect side _ _ _ table _ _ outcome pending started =>
      have cleaned : table.Counted := (counted side).nextOutbound _ pending
      exact counted.update _ (cleaned.startConnecting _ outcome started) _
  | close side connection =>
      exact counted.update
        { world.machine side with closed := connection :: (world.machine side).closed }
        (counted side) _

/-- A request is not given an id exactly when every entry is taken. -/
theorem World.Counted.startsFull_iff (counted : world.Counted) {identity : Identity}
    {hello : List UInt8}
    (stepTo : world.step build ⟨side, .connect locals identity hello⟩ = some (next, occurred)) :
    world.startsFull side = true ↔
      world.grants ⟨side, .connect locals identity hello⟩ = none := by
  cases World.step_cases stepTo with
  | @connect _ _ _ _ table _ _ _ pending started =>
      have cleanedUp := ConnTable.cleanupDead_of_pending pending
      have cleaned : table.Counted := (counted side).cleanupDead _ cleanedUp
      unfold World.startsFull World.grants
      dsimp only
      rw [cleanedUp]
      exact cleaned.reserveId_eq_none_iff.symm

theorem World.step_replies {connection : Nat} {id : Id} {identity : Identity}
    {body : OutboundData} (counted : world.Counted)
    (head : (world.machine side.other).sent =
      ⟨connection, ⟨.connect id identity, body⟩⟩ :: rest)
    (stepTo : world.step build ⟨side, .receive locals⟩ = some (next, occurred)) :
    ∃ reply, (next.machine side).sent = (world.machine side).sent ++ [⟨connection, reply⟩] ∧
      reply.header.Replies (capacity side) (world.machine side).table.isFull
        (refusalOf (locals.connect identity body.toVec)) := by
  cases World.step_cases stepTo with
  | @receive _ _ tagged _ outcome arrived processed =>
      obtain ⟨rfl, rfl⟩ := List.cons.inj (head.symm.trans arrived)
      obtain ⟨reply, isReply, replies⟩ :=
        (counted side).processInbound_replies connection id identity body.toVec outcome processed
      refine ⟨reply, ?_, replies⟩
      simp [World.perform, World.takeFrame, isReply, Tagged.send]

theorem World.step_refuses {identity : Identity} {hello : List UInt8} {rsp : Nat}
    {rejection : Option Rejection} {received : Bool} {who : Side} {answering : Option Nat}
    (agrees : world.Shows net)
    (stepTo : world.step build ⟨side, .connect locals identity hello⟩ = some (next, occurred))
    (occurs : ⟨who, answering, .answered rsp rejection received⟩ ∈ occurred) :
    rejection = some (.connTableFull (capacity side)) := by
  cases World.step_cases stepTo with
  | @connect _ _ _ _ table _ _ outcome pending started =>
      obtain ⟨-, rfl⟩ := (agrees.tables side).cleanupDead _
        (ConnTable.cleanupDead_of_pending pending)
      obtain ⟨event, member, same⟩ := List.mem_map.mp occurs
      cases same
      rcases List.mem_append.mp member with cleanup | own
      · obtain ⟨_, _, isCleanup⟩ := Sockets.mem_cleanupEvents cleanup
        cases isCleanup
      · exact ConnTable.startConnecting_refuses _ outcome started rsp rejection received own

end Worlds

section Deals

variable {capacity : Side → Nat} {build : Build} {world next : World capacity}
  {net after : Network} {side : Side} {locals : Locals} {granted : Option Id} {move : Move}
  {occurred past : List Occurrence} {events : List Event} {answering : Option Nat}

/-- A connecting socket holds the response sender that it was started with. -/
def Network.Paired (net : Network) : Prop :=
  ∀ side id rsp channel,
    (net.sockets side).socket id = some ⟨.connecting rsp, channel⟩ → rsp = channel

theorem Network.Paired.perform (paired : net.Paired) {view : Sockets} {sends : List Tagged}
    (holds : ∀ id rsp channel,
      view.socket id = some ⟨.connecting rsp, channel⟩ → rsp = channel) :
    (net.perform side view sends).Paired := by
  intro other id rsp channel found
  rcases other.eq_or_eq_other side with rfl | rfl
  · exact holds id rsp channel (by simpa using found)
  · exact paired side.other id rsp channel (by simpa using found)

theorem Network.Paired.cleaned (paired : net.Paired) (side : Side) :
    ∀ id rsp channel, (net.sockets side).cleaned.socket id = some ⟨.connecting rsp, channel⟩ →
      rsp = channel := fun id rsp channel found =>
  paired side id rsp channel (Sockets.socket_cleaned_eq_some_iff.mp found).2

theorem Network.Paired.step (paired : net.Paired)
    (moves : net.Step side granted move after occurred) : after.Paired := by
  cases moves with
  | @receive locals tagged rest next frame account events head receives =>
      have taken : (net.takeFrame side rest).Paired := paired
      exact taken.perform fun id rsp channel found =>
        paired side id rsp channel (receives.connecting_old found)
  | @poll locals next frame account events sends =>
      rw [Network.perform_clean]
      apply paired.perform
      cases sends with
      | idle | data => exact paired.cleaned side
      | closed => exact paired.cleaned side
  | @connect locals identity hello next frame account events starts =>
      rw [Network.perform_clean]
      change (net.perform side next (Tagged.send net.fresh frame)).Paired
      apply paired.perform
      cases starts with
      | full => exact paired.cleaned side
      | started =>
          intro id rsp channel found
          rcases Sockets.socket_put_eq_some_iff.mp found with ⟨-, same⟩ | ⟨-, old⟩
          · obtain ⟨rfl, rfl⟩ := by simpa using same
            rfl
          · exact paired.cleaned side id rsp channel old
  | close connection => exact paired

/-- Only answers are reported. -/
theorem report_eq_none {occurred : List Occurrence}
    (silent : ∀ who answering rsp rejection received,
      ⟨who, answering, .answered rsp rejection received⟩ ∉ occurred) :
    occurred.filterMap Occurrence.report = [] := by
  apply List.filterMap_eq_nil_iff.mpr
  rintro ⟨who, answering, event⟩ member
  cases event with
  | answered rsp rejection received => exact absurd member (silent _ _ _ _ _)
  | _ => rfl

theorem Network.moves_receive (view : Sockets) {tagged : Tagged} {rest : List Tagged}
    (head : net.sent side.other = tagged :: rest) (sends : List Tagged) :
    net.Moves side [tagged] sends ((net.takeFrame side rest).perform side view sends) :=
  ⟨by simp [head], by simp⟩

theorem Network.moves_clean (net : Network) (side : Side) (view : Sockets)
    (sends : List Tagged) (fresh : Nat) :
    net.Moves side [] sends { (net.clean side).perform side view sends with fresh := fresh } :=
  ⟨by simp, by simp⟩

/-- DATA and RESET frames are no part of a handshake. -/
theorem Tagged.shakes_eq_false {tagged : Tagged}
    (isOther : tagged.frame.header.isConnect = false ∧ tagged.frame.header.tells = none)
    (connection : Nat) : tagged.shakes connection = false := by
  simp [shakes, isOther.1, isOther.2]

/-- A step that takes and sends nothing of a handshake. -/
theorem Network.Moves.quiet {capacity : Side → Nat} {taken sends : List Tagged}
    (moves : net.Moves side taken sends after) (fresh : after.fresh = net.fresh)
    (others : ∀ tagged ∈ taken ++ sends,
      tagged.frame.header.isConnect = false ∧ tagged.frame.header.tells = none) :
    net.Deal capacity side after [] :=
  .quiet moves fresh fun tagged member => Tagged.shakes_eq_false (others tagged member)

/-- What receiving a frame does with the requests. -/
theorem World.Shows.deal_receive (agrees : world.Shows net) (counted : world.Counted)
    (shown : next.Shows after)
    (handshakes : Handshakes past net) (paired : net.Paired)
    (stepTo : world.step build ⟨side, .receive locals⟩ = some (next, occurred))
    (moves : net.Step side granted (.receive locals) after occurred) :
    net.Deal capacity side after
      (world.reports ⟨side, .receive locals⟩ ++ occurred.filterMap Occurrence.report) := by
  cases moves with
  | @receive _ tagged rest view frame account events head receives =>
      have worldHead := (agrees.sent side.other).trans head
      have taken := Network.moves_receive view head (Tagged.send tagged.connection frame)
      obtain ⟨connection, ⟨header, body⟩⟩ := tagged
      simp only [World.reports, worldHead, List.head?_cons]
      dsimp only at receives taken ⊢
      cases receives with
      | dataStray notOpen =>
          exact taken.quiet rfl (by
            simp [Tagged.send, Frame.reset, Header.isConnect, Header.tells])
      | dataDelivered isOpen =>
          exact taken.quiet rfl (by simp [Tagged.send, Header.isConnect, Header.tells])
      | dataFailed isOpen =>
          exact taken.quiet rfl (by
            simp [Tagged.send, Frame.reset, Header.isConnect, Header.tells])
      | @ackStray localId remoteId reason notConnecting =>
          obtain ⟨-, -, rsp, isConnecting⟩ := handshakes.head_answers remoteId head (by
            simp [Tagged.answers])
          exact absurd isConnecting (notConnecting rsp _)
      | @ackOpened localId remoteId rsp bound isConnecting =>
          obtain ⟨-, -, own, isOwn⟩ := handshakes.head_answers remoteId head (by
            simp [Tagged.answers])
          obtain ⟨rfl, rfl⟩ := by simpa [isConnecting] using isOwn
          obtain rfl := paired side remoteId _ _ isConnecting
          exact .answered taken rfl rfl (by simp [Tagged.send])
      | @ackAbandoned localId remoteId rsp bound isConnecting gone =>
          obtain ⟨-, -, own, isOwn⟩ := handshakes.head_answers remoteId head (by
            simp [Tagged.answers])
          obtain ⟨rfl, rfl⟩ := by simpa [isConnecting] using isOwn
          obtain rfl := paired side remoteId _ _ isConnecting
          refine .answered taken rfl rfl ?_
          intro tagged member
          obtain rfl : tagged = ⟨_, _⟩ := by simpa [Tagged.send] using member
          exact Tagged.shakes_eq_false ⟨rfl, rfl⟩
      | @rejected remoteId reason =>
          obtain ⟨-, -, rsp, isConnecting⟩ := handshakes.head_answers remoteId head (by
            simp [Tagged.answers])
          obtain rfl := paired side remoteId _ _ isConnecting
          rw [isConnecting]
          exact .answered taken rfl rfl (by simp [Tagged.send])
      | @reset remoteId reason =>
          rw [report_eq_none]
          · exact taken.quiet rfl (by simp [Tagged.send, Header.isConnect, Header.tells])
          · intro who answering rsp rejection received occurs
            obtain ⟨event, member, same⟩ := List.mem_map.mp occurs
            cases same
            rcases List.mem_cons.mp member with same | closing
            · cases same
            · obtain ⟨channel, same⟩ := ConnTable.mem_closeReset closing
              cases same
      | @connectAccepted localId id identity isGranted free =>
          obtain ⟨reply, sent, replies⟩ := World.step_replies counted worldHead stepTo
          rw [shown.sent, agrees.sent] at sent
          exact .consulted ⟨taken.takes, sent⟩ rfl replies
      | @connectRefused localId identity reason =>
          obtain ⟨reply, sent, replies⟩ := World.step_replies counted worldHead stepTo
          rw [shown.sent, agrees.sent] at sent
          exact .consulted ⟨taken.takes, sent⟩ rfl replies

/-- What a step does with the requests. -/
theorem World.Shows.deal {action : WorldAction} (agrees : world.Shows net)
    (counted : world.Counted) (shown : next.Shows after) (handshakes : Handshakes past net)
    (paired : net.Paired)
    (stepTo : world.step build action = some (next, occurred))
    (moves : net.Step action.side (world.grants action) action.move after occurred) :
    net.Deal capacity action.side after
      (world.reports action ++ occurred.filterMap Occurrence.report) := by
  obtain ⟨side, move⟩ := action
  cases move with
  | receive locals => exact agrees.deal_receive counted shown handshakes paired stepTo moves
  | poll locals =>
      cases moves with
      | @poll _ view frame account events sends =>
          rw [report_eq_none]
          · refine (net.moves_clean side view _ net.fresh).quiet rfl ?_
            cases sends with
            | idle => simp [Tagged.send]
            | data => simp [Tagged.send, Frame.data, Header.isConnect, Header.tells]
            | closed => simp [Tagged.send, Frame.reset, Header.isConnect, Header.tells]
          · intro who answering rsp rejection received occurs
            obtain ⟨event, member, same⟩ := List.mem_map.mp occurs
            cases same
            exact sends.forall_events (P := fun event =>
              ∀ rsp rejection received, event ≠ .answered rsp rejection received)
              (by simp) (by simp) _ member rsp rejection received rfl
  | connect locals identity hello =>
      cases moves with
      | @connect _ _ _ view frame account events starts =>
          have cleaned : (((net.sockets side).cleanupEvents).map
              (⟨side, none, ·⟩)).filterMap Occurrence.report = [] := by
            apply report_eq_none
            intro who answering rsp rejection received occurs
            obtain ⟨event, member, same⟩ := List.mem_map.mp occurs
            cases same
            obtain ⟨_, _, isCleanup⟩ := Sockets.mem_cleanupEvents member
            cases isCleanup
          have sent := net.moves_clean side view (Tagged.send net.fresh frame) (net.fresh + 1)
          rw [List.map_append, List.filterMap_append, cleaned, List.nil_append]
          have startsFull := counted.startsFull_iff stepTo
          simp only [World.reports, agrees.fresh]
          cases starts with
          | @full rejection received isFull =>
              obtain rfl : rejection = .connTableFull (capacity side) := by
                simpa using World.step_refuses agrees stepTo (List.mem_map.mpr
                  ⟨_, List.mem_append_right _ List.mem_cons_self, rfl⟩)
              rw [startsFull.mpr isFull]
              exact .refused sent rfl
          | started isReserved free =>
              have notFull : world.startsFull side = false := by
                rw [← Bool.not_eq_true, startsFull, isReserved]
                simp
              rw [notFull]
              exact .requested sent rfl
  | close connection =>
      cases moves with
      | close =>
          have nothing : net.Moves side [] [] (net.closeStream side connection) :=
            ⟨rfl, (List.append_nil _).symm⟩
          exact nothing.quiet rfl (by simp)

end Deals

section Runs

variable {capacity : Side → Nat} {build : Build} {history : List Report}
  {final : World capacity}

theorem World.converse_cases {world next : World capacity} {action : WorldAction}
    {reports : List Report} (stepTo : world.converse build action = some (next, reports)) :
    ∃ occurred, world.step build action = some (next, occurred) ∧
      reports = world.reports action ++ occurred.filterMap Occurrence.report := by
  simp only [converse, Option.map_eq_some_iff, Prod.mk.injEq, Prod.exists] at stepTo
  obtain ⟨after, occurred, stepsTo, rfl, rfl⟩ := stepTo
  exact ⟨occurred, stepsTo, rfl⟩

theorem World.conversation_of_run
    (run : Run (World.converse build) World.sparesConnecting (World.new capacity) history
      final) :
    ∃ net, final.Shows net ∧ Conversation capacity history net := by
  have reached : final.Counted ∧ ∃ past net, final.Shows net ∧ Handshakes past net ∧
      net.Paired ∧ Conversation capacity history net := by
    apply run.invariant fun reported world => world.Counted ∧ ∃ past net, world.Shows net ∧
      Handshakes past net ∧ net.Paired ∧ Conversation capacity reported net
    · refine ⟨fun side => .new (capacity side), [], .empty, .new capacity, .initial, ?_,
        .initial⟩
      intro side id rsp channel found
      cases found
    · intro reported reports world next action invariant admitted conversed
      obtain ⟨counted, past, net, agrees, handshakes, paired, kept⟩ := invariant
      obtain ⟨occurred, stepTo, rfl⟩ := World.converse_cases conversed
      obtain ⟨after, shown, moves⟩ := agrees.step stepTo
      exact ⟨counted.step stepTo, past ++ occurred, after, shown,
        handshakes.step agrees admitted moves, paired.step moves,
        kept.deal (agrees.deal counted shown handshakes paired stepTo moves)⟩
  obtain ⟨-, past, net, shown, -, -, conversation⟩ := reached
  exact ⟨net, shown, conversation⟩

/-- The history of the connect requests is truthful.  Every request is made once and
reaches the peer's registry at most once, as it was made.  It is answered at most once,
by what the registry decided or because every entry of a table was taken, and not at all
only while a frame is on a wire. -/
structure Truthful (capacity : Side → Nat) (history : List Report) (final : World capacity) :
    Prop where
  requestedOnce : ∀ connection, history.countP (Report.requests connection) =
    if connection < final.freshConnection then 1 else 0
  consultedOnce : ∀ connection, history.countP (Report.consults connection) ≤ 1
  consulted : ∀ side connection identity hello full refusal,
    .consulted side connection identity hello full refusal ∈ history →
      .requested side.other connection identity hello false ∈ history
  answeredOnce : ∀ connection, history.countP (Report.answers connection) ≤ 1
  answered : ∀ side connection rejection, .answered side connection rejection ∈ history →
    Justified capacity history side connection rejection
  complete : (∀ side, (final.machine side).sent = []) →
    ∀ connection, connection < final.freshConnection →
      history.countP (Report.answers connection) = 1

/-- In every run in which no RESET of a connecting socket is received, every connect
request is told once, and told the truth. -/
theorem connects_told_truth
    (run : Run (World.converse build) World.sparesConnecting (World.new capacity) history
      final) :
    Truthful capacity history final := by
  obtain ⟨net, shown, conversation⟩ := World.conversation_of_run run
  have atMostOne (connection : Nat) : (if connection < net.fresh then 1 else 0) ≤ 1 := by
    split <;> omega
  refine ⟨?_, ?_, conversation.questions, ?_, conversation.justified, ?_⟩
  · rw [shown.fresh]
    exact conversation.requested
  · intro connection
    have consulted := conversation.consulted connection
    have bounded := atMostOne connection
    omega
  · intro connection
    have answered := conversation.answered connection
    have bounded := atMostOne connection
    omega
  · intro unsent connection made
    have answered := conversation.answered connection
    have quiet : net.carrying (Tagged.shakes connection) = 0 := by
      simp [Network.carrying, ← shown.sent, unsent]
    rw [quiet, if_pos (shown.fresh ▸ made)] at answered
    omega

/-- A registry that knows no service. -/
def Locals.unknown : Locals :=
  { Locals.quiet with connect := fun _ _ => .error .notFound }

/-- A table for two requests one. -/
def unequal : Side → Nat
  | .left => 2
  | .right => 1

/-- One request is accepted, one finds the table of the peer full, one is refused by the
registry and one finds the table of its own side full while another is on its way. -/
def eachAnswer : List Report :=
  [.requested .left 0 .sample [] false, .consulted .right 0 .sample [] false none,
    .answered .left 0 none, .requested .left 1 .sample [1] false,
    .consulted .right 1 .sample [1] true none, .answered .left 1 (some (.connTableFull 1)),
    .requested .left 2 .sample [2] false,
    .consulted .right 2 .sample [2] true (some .notFound),
    .answered .left 2 (some .notFound), .requested .left 3 .sample [3] false,
    .requested .left 4 .sample [4] true, .answered .left 4 (some (.connTableFull 2))]

theorem connects_told_truth_eachAnswer :
    ∃ final,
      Run (World.converse .debug) World.sparesConnecting (World.new unequal) eachAnswer
        final ∧
      Truthful unequal eachAnswer final := by
  obtain ⟨history, final, run, told⟩ :=
    exists_run_of_exec (World.converse .debug) World.sparesConnecting (World.new unequal)
      [⟨.left, .connect .quiet .sample []⟩, ⟨.right, .receive .quiet⟩,
        ⟨.left, .receive .quiet⟩, ⟨.left, .connect .quiet .sample [1]⟩,
        ⟨.right, .receive .quiet⟩, ⟨.left, .receive .quiet⟩,
        ⟨.left, .connect .quiet .sample [2]⟩, ⟨.right, .receive .unknown⟩,
        ⟨.left, .receive .quiet⟩, ⟨.left, .connect .quiet .sample [3]⟩,
        ⟨.left, .connect .quiet .sample [4]⟩]
      (fun reached => reached.2) (show _ = some eachAnswer by decide +kernel)
  obtain rfl : history = eachAnswer := told
  exact ⟨final, run, connects_told_truth run⟩

end Runs

end Calliope

end Mgnp
