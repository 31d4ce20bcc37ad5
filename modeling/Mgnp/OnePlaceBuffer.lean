import Mathlib.Data.List.Infix

/-!
# A buffer with one place

An item is put into the empty buffer, and it leaves the buffer when somebody gets
it or tosses it, or when the buffer is cleared.  What is got is, in order, what
was put and is not discarded later.
-/

namespace Mgnp

namespace OnePlaceBuffer

variable {Key Value : Type*}

inductive Op (Key Value : Type*)
  | put (key : Key) (value : Value)
  | get (item : Option (Key × Value))
  | toss (item : Option (Key × Value))
  | clear

inductive Step : Option (Key × Value) → Op Key Value → Option (Key × Value) → Prop
  | put (key : Key) (value : Value) : Step none (.put key value) (some (key, value))
  | get (item : Key × Value) : Step (some item) (.get (some item)) none
  | toss (item : Key × Value) : Step (some item) (.toss (some item)) none
  | clear (slot : Option (Key × Value)) : Step slot .clear none

/-- The operations lead from the first contents to the last. -/
inductive Trace : Option (Key × Value) → List (Op Key Value) → Option (Key × Value) → Prop
  | nil {slot : Option (Key × Value)} : Trace slot [] slot
  | cons {slot middle final : Option (Key × Value)} {op : Op Key Value}
      {ops : List (Op Key Value)} (step : Step slot op middle)
      (rest : Trace middle ops final) : Trace slot (op :: ops) final

variable {slot middle final : Option (Key × Value)} {ops later : List (Op Key Value)}

theorem Trace.append (first : Trace slot ops middle) (second : Trace middle later final) :
    Trace slot (ops ++ later) final := by
  induction first with
  | nil => exact second
  | cons step _ ih => exact .cons step (ih second)

theorem Trace.snoc {op : Op Key Value} (first : Trace slot ops middle)
    (step : Step middle op final) : Trace slot (ops ++ [op]) final :=
  first.append (.cons step .nil)

variable [DecidableEq Key]

/-- Whether the item with this key is tossed or cleared away, and not got. -/
def discards (key : Key) : List (Op Key Value) → Bool
  | [] => false
  | .get (some (other, _)) :: ops => if other = key then false else discards key ops
  | .toss (some (other, _)) :: ops => if other = key then true else discards key ops
  | .clear :: _ => true
  | .put _ _ :: ops | .get none :: ops | .toss none :: ops => discards key ops

/-- The items that were put and are not discarded later. -/
def kept : List (Op Key Value) → List (Key × Value)
  | [] => []
  | .put key value :: ops => if discards key ops then kept ops else (key, value) :: kept ops
  | .get _ :: ops | .toss _ :: ops | .clear :: ops => kept ops

/-- The contents of the buffer, unless they are discarded later. -/
def keptFrom (slot : Option (Key × Value)) (ops : List (Op Key Value)) :
    List (Key × Value) :=
  match slot with
  | none => []
  | some (key, value) => if discards key ops then [] else [(key, value)]

def got (ops : List (Op Key Value)) : List (Option (Key × Value)) :=
  ops.filterMap fun
    | .get item => some item
    | _ => none

/-- By induction on the operations: the item in the buffer comes before those
that are put later. -/
theorem Trace.got_prefix (trace : Trace slot ops final) :
    got ops <+: (keptFrom slot ops ++ kept ops).map some := by
  induction trace with
  | nil => exact List.nil_prefix
  | @cons slot middle final op ops step rest ih =>
      cases step with
      | put key value =>
          by_cases discarded : discards key ops = true
          · simpa [got, keptFrom, kept, discarded] using ih
          · simpa [got, keptFrom, kept, discarded] using ih
      | get item =>
          have own : discards item.1 (Op.get (some item) :: ops) = false := by
            simp [discards]
          simpa [got, keptFrom, kept, own] using ih
      | toss item =>
          have own : discards item.1 (Op.toss (some item) :: ops) = true := by
            simp [discards]
          simpa [got, keptFrom, kept, own] using ih
      | clear slot =>
          have empty : keptFrom slot (Op.clear :: ops) = [] := by
            cases slot <;> rfl
          rw [empty]
          simpa [got, keptFrom, kept] using ih

end OnePlaceBuffer

end Mgnp
