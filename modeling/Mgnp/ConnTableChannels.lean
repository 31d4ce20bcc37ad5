import Mgnp.ConnTableSockets
import Mgnp.LabelledRuns

/-!
# The channels of the sockets

Every socket that enters the table brings a channel of its own, which stands for
the socket over its whole life: its id may name another socket later.  The frames
that the table emits on account of a socket are found in the history by its channel.
-/

namespace Mgnp

namespace Calliope

variable {view next : Sockets} {events history : List Event} {frame : Option OutboundFrame}
  {account : Option Nat} {locals : Locals} {fresh : Nat}

/-- No two sockets share a channel, and the next channel is new. -/
structure Sockets.Distinct (view : Sockets) (fresh : Nat) : Prop where
  bounded : ∀ {id socket}, view.socket id = some socket → socket.channel < fresh
  unique : ∀ {id other socket found}, view.socket id = some socket →
    view.socket other = some found → found.channel = socket.channel → other = id

/-- The sockets after an operation were there before with the same channel, except
for one with the next channel. -/
structure Sockets.Inherits (view next : Sockets) (fresh : Nat) (new : Option Id) : Prop where
  dead : next.dead = view.dead
  inherited : ∀ {id socket}, next.socket id = some socket →
    (new = some id ∧ socket.channel = fresh) ∨
      ∃ old, view.socket id = some old ∧ old.channel = socket.channel

section Distinct

theorem Sockets.distinct_empty : Sockets.empty.Distinct 0 where
  bounded found := by cases found
  unique found := by cases found

theorem Sockets.Distinct.mono (distinct : view.Distinct fresh) {later : Nat}
    (grows : fresh ≤ later) : view.Distinct later where
  bounded found := Nat.lt_of_lt_of_le (distinct.bounded found) grows
  unique := distinct.unique

theorem Sockets.Distinct.inherits {new : Option Id} (distinct : view.Distinct fresh)
    (inherits : view.Inherits next fresh new) : next.Distinct (fresh + 1) := by
  constructor
  · intro id socket found
    rcases inherits.inherited found with ⟨-, isFresh⟩ | ⟨old, before, same⟩
    · rw [isFresh]
      exact Nat.lt_succ_self fresh
    · rw [← same]
      exact Nat.lt_succ_of_lt (distinct.bounded before)
  · intro id other socket found foundAt otherAt sameChannel
    rcases inherits.inherited foundAt with ⟨atNew, isFresh⟩ | ⟨old, before, same⟩ <;>
      rcases inherits.inherited otherAt with ⟨otherNew, otherFresh⟩ | ⟨other, otherBefore, kept⟩
    · rw [atNew] at otherNew
      cases otherNew
      rfl
    · have bounded := distinct.bounded otherBefore
      omega
    · have bounded := distinct.bounded before
      omega
    · exact distinct.unique before otherBefore (by omega)

theorem Sockets.Inherits.refl (view : Sockets) (fresh : Nat) : view.Inherits view fresh none :=
  ⟨rfl, fun {_ socket} found => .inr ⟨socket, found, rfl⟩⟩

theorem Sockets.Inherits.erase (view : Sockets) (fresh : Nat) (id : Id) :
    view.Inherits (view.erase id) fresh none := by
  refine ⟨rfl, fun {other socket} found => .inr ⟨socket, ?_, rfl⟩⟩
  exact (Sockets.socket_erase_eq_some_iff.mp found).2

theorem Sockets.Inherits.insert (view : Sockets) (fresh : Nat) (id : Id) (state : State) :
    view.Inherits (view.put id ⟨state, fresh⟩) fresh (some id) := by
  refine ⟨rfl, ?_⟩
  intro other socket found
  rcases Sockets.socket_put_eq_some_iff.mp found with ⟨rfl, rfl⟩ | ⟨-, before⟩
  · exact .inl ⟨rfl, rfl⟩
  · exact .inr ⟨socket, before, rfl⟩

/-- A socket changes its state. -/
theorem Sockets.Inherits.setState {id : Id} {old state : State} {channel : Nat}
    (found : view.socket id = some ⟨old, channel⟩) :
    view.Inherits (view.put id ⟨state, channel⟩) fresh none := by
  refine ⟨rfl, ?_⟩
  intro other socket atOther
  rcases Sockets.socket_put_eq_some_iff.mp atOther with ⟨rfl, rfl⟩ | ⟨-, before⟩
  · exact .inr ⟨_, found, rfl⟩
  · exact .inr ⟨socket, before, rfl⟩

theorem Sockets.Starts.inherits {reserved : Option Id} {connect : OutboundConnect}
    (starts : view.Starts reserved connect next frame account events) :
    ∃ new, view.Inherits next connect.channel new := by
  cases starts with
  | full isFull => exact ⟨none, .refl view _⟩
  | started isReserved free => exact ⟨_, .insert view _ _ _⟩

theorem Sockets.Receives.inherits {granted : Option Id} {channel : Nat} {header : Header}
    (receives : view.Receives locals granted channel header next frame account events) :
    ∃ new, view.Inherits next channel new := by
  cases receives with
  | dataStray | dataDelivered | ackStray | connectRefused => exact ⟨none, .refl view _⟩
  | dataFailed | rejected | reset => exact ⟨none, .erase view _ _⟩
  | ackOpened isConnecting | ackAbandoned isConnecting => exact ⟨none, .setState isConnecting⟩
  | connectAccepted isGranted free => exact ⟨_, .insert view _ _ _⟩

theorem Sockets.Distinct.cleaned (distinct : view.Distinct fresh) :
    view.cleaned.Distinct fresh where
  bounded found := distinct.bounded (Sockets.socket_cleaned_eq_some_iff.mp found).2
  unique found otherFound := distinct.unique (Sockets.socket_cleaned_eq_some_iff.mp found).2
    (Sockets.socket_cleaned_eq_some_iff.mp otherFound).2

/-- Polling changes no socket. -/
theorem Sockets.Sends.socket_eq (sends : view.Sends locals next frame account events) :
    next.socket = view.socket := by
  cases sends <;> rfl

theorem Sockets.Distinct.sends (distinct : view.Distinct fresh)
    (sends : view.Sends locals next frame account events) : next.Distinct fresh := by
  constructor
  · intro id socket found
    rw [sends.socket_eq] at found
    exact distinct.bounded found
  · intro id other socket found atId atOther
    rw [sends.socket_eq] at atId atOther
    exact distinct.unique atId atOther

end Distinct

/-- The frames that were emitted on account of a socket. -/
def emissions (channel : Nat) (history : List Event) : List OutboundFrame :=
  history.filterMap fun
    | .emitted frame account => if account = some channel then some frame else none
    | _ => none

/-- The event is no frame. -/
def Event.silent : Event → Bool
  | .emitted _ _ => false
  | _ => true

section Emissions

theorem emissions_append (channel : Nat) :
    emissions channel (history ++ events) =
      emissions channel history ++ emissions channel events :=
  List.filterMap_append

theorem emissions_silent {channel : Nat} (silent : ∀ event ∈ events, event.silent = true) :
    emissions channel events = [] := by
  apply List.filterMap_eq_nil_iff.mpr
  intro event member
  cases event with
  | emitted frame account => cases silent _ member
  | _ => rfl

theorem emissions_emitted (channel : Nat) :
    emissions channel (frame.toList.map (.emitted · account)) =
      if account = some channel then frame.toList else [] := by
  cases frame with
  | none => simp [emissions]
  | some sent =>
      by_cases ours : account = some channel
      · simp [emissions, ours]
      · simp [emissions, ours]

/-- What one step adds to the frames emitted on account of a socket. -/
theorem emissions_step {channel : Nat} (silent : ∀ event ∈ events, event.silent = true) :
    emissions channel (history ++ (events ++ frame.toList.map (.emitted · account))) =
      emissions channel history ++ if account = some channel then frame.toList else [] := by
  rw [emissions_append, emissions_append, emissions_silent silent, emissions_emitted,
    List.nil_append]

theorem Sockets.Starts.silent {reserved : Option Id} {connect : OutboundConnect}
    (starts : view.Starts reserved connect next frame account events) :
    ∀ event ∈ events, event.silent = true := by
  cases starts <;> simp [Event.silent]

theorem Sockets.Receives.silent {granted : Option Id} {channel : Nat} {header : Header}
    (receives : view.Receives locals granted channel header next frame account events) :
    ∀ event ∈ events, event.silent = true := by
  cases receives with
  | rejected => exact ConnTable.forall_rejected rfl fun _ _ => rfl
  | reset => exact ConnTable.forall_reset rfl fun _ => rfl
  | _ => simp [Event.silent]

theorem Sockets.Sends.silent (sends : view.cleaned.Sends locals next frame account events) :
    ∀ event ∈ view.cleanupEvents ++ events, event.silent = true :=
  sends.forall_events (fun _ _ => rfl) fun _ _ => rfl

end Emissions

end Calliope

end Mgnp
