import Mathlib.Data.List.Basic

/-!
# Streams over a FIFO wire

A sender puts messages on a wire, and a receiver takes them off in order while it is
there.  What arrives when it is not is lost.  The receiver has then seen a prefix of
the stream, and while it is there it has seen all that is not still on the wire.
-/

namespace Mgnp

/-- What has become of the messages of one stream. -/
structure FifoStream (Message : Type*) where
  taken : List Message
  inFlight : List Message
  delivered : List Message

namespace FifoStream

variable {Message : Type*}

def empty : FifoStream Message := ⟨[], [], []⟩

/-- The receiver has seen a prefix, and everything but the wire while it is `there`. -/
structure Sound (stream : FifoStream Message) (there : Prop) : Prop where
  isPrefix : stream.delivered <+: stream.taken
  complete : there → stream.taken = stream.delivered ++ stream.inFlight

variable {taken inFlight rest delivered : List Message} {message : Message}
  {there after : Prop}

theorem Sound.initial : (empty : FifoStream Message).Sound there :=
  ⟨List.prefix_refl [], fun _ => rfl⟩

/-- The receiver may leave at any time. -/
theorem Sound.mono {stream : FifoStream Message} (sound : stream.Sound there)
    (weakens : after → there) : stream.Sound after :=
  ⟨sound.isPrefix, fun present => sound.complete (weakens present)⟩

/-- The receiver may come before anything is sent. -/
theorem Sound.begin (sound : Sound ⟨[], inFlight, delivered⟩ there) :
    Sound ⟨[], [], delivered⟩ after := by
  obtain rfl : delivered = [] := List.prefix_nil.mp sound.isPrefix
  exact Sound.initial

theorem Sound.send (sound : Sound ⟨taken, inFlight, delivered⟩ there)
    (messages : List Message) :
    Sound ⟨taken ++ messages, inFlight ++ messages, delivered⟩ there where
  isPrefix := sound.isPrefix.trans (List.prefix_append taken messages)
  complete present := by
    have before := sound.complete present
    simp only at before ⊢
    rw [before, List.append_assoc]

/-- The receiver takes the message in front. -/
theorem Sound.deliver (sound : Sound ⟨taken, message :: rest, delivered⟩ there)
    (present : there) : Sound ⟨taken, rest, delivered ++ [message]⟩ there := by
  have before : taken = delivered ++ message :: rest := sound.complete present
  have split : taken = delivered ++ [message] ++ rest := by
    rw [before, List.append_assoc, List.singleton_append]
  exact ⟨⟨rest, split.symm⟩, fun _ => split⟩

/-- Without a receiver, whatever is in front is lost. -/
theorem Sound.lose (sound : Sound ⟨taken, inFlight, delivered⟩ there) (absent : ¬ after)
    (rest : List Message) : Sound ⟨taken, rest, delivered⟩ after :=
  ⟨sound.isPrefix, fun present => absurd present absent⟩

end FifoStream

end Mgnp
