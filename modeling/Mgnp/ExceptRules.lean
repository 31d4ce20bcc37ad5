import Mathlib.Logic.Basic

/-!
# Postconditions of fallible computations

`Returns` is total correctness: the computation does not fail and its result
meets the postcondition.  `Ensures` is partial correctness: whatever it returns
meets the postcondition.
-/

namespace Mgnp

namespace ExceptRules

universe u

variable {Failure : Type*} {Value Result : Type u}
  {computation : Except Failure Value}
  {continuation : Value → Except Failure Result}
  {post weaker : Value → Prop} {ending : Result → Prop}

def Returns (computation : Except Failure Value) (post : Value → Prop) : Prop :=
  ∃ value, computation = .ok value ∧ post value

def Ensures (computation : Except Failure Value) (post : Value → Prop) : Prop :=
  ∀ value, computation = .ok value → post value

@[simp] theorem returns_ok {value : Value} :
    Returns (.ok value : Except Failure Value) post ↔ post value := by
  simp [Returns]

@[simp] theorem returns_pure {value : Value} :
    Returns (pure value : Except Failure Value) post ↔ post value :=
  returns_ok

theorem Returns.mono (returns : Returns computation post)
    (weakens : ∀ value, post value → weaker value) :
    Returns computation weaker := by
  obtain ⟨value, result, holds⟩ := returns
  exact ⟨value, result, weakens value holds⟩

theorem Returns.bind (returns : Returns computation post)
    (continues : ∀ value, post value → Returns (continuation value) ending) :
    Returns (computation >>= continuation) ending := by
  obtain ⟨value, rfl, holds⟩ := returns
  exact continues value holds

/-- A computation that returns also meets every postcondition it ensures. -/
theorem Returns.and (returns : Returns computation post)
    (ensures : Ensures computation weaker) :
    Returns computation fun value => post value ∧ weaker value := by
  obtain ⟨value, result, holds⟩ := returns
  exact ⟨value, result, holds, ensures value result⟩

/-- What a computation returns is all that it can return. -/
theorem Returns.ensures (returns : Returns computation post) : Ensures computation post := by
  intro value result
  obtain ⟨other, returned, holds⟩ := returns
  cases returned.symm.trans result
  exact holds

@[simp] theorem ensures_ok {value : Value} :
    Ensures (.ok value : Except Failure Value) post ↔ post value := by
  simp [Ensures]

@[simp] theorem ensures_pure {value : Value} :
    Ensures (pure value : Except Failure Value) post ↔ post value :=
  ensures_ok

@[simp] theorem ensures_error {failure : Failure} :
    Ensures (.error failure : Except Failure Value) post := by
  simp [Ensures]

theorem Ensures.mono (ensures : Ensures computation post)
    (weakens : ∀ value, post value → weaker value) :
    Ensures computation weaker := by
  intro value result
  exact weakens value (ensures value result)

theorem Ensures.bind (ensures : Ensures computation post)
    (continues : ∀ value, post value → Ensures (continuation value) ending) :
    Ensures (computation >>= continuation) ending := by
  cases computation with
  | error failure => exact ensures_error
  | ok value => exact continues value (ensures value rfl)

end ExceptRules

end Mgnp
