import Mgnp.LabelledRuns

/-!
# What the steps of a component are paid from

Every state of a component is worth some amount.  If each step costs no more than what
it takes from that amount and what its action brings in, then a whole schedule costs no
more than what its actions bring in.  If a state that is not settled always has a step
that lowers its worth, then some run leads to a settled state.
-/

namespace Mgnp

namespace LabelledRuns

section Pooled

variable {Member : Type*} {worth before after : Member → Nat} {pool : List Member}
  {old new : Member} {i : Nat}

/-- What the members of a pool are worth together. -/
def pooled (worth : Member → Nat) : List Member → Nat
  | [] => 0
  | member :: rest => worth member + pooled worth rest

@[simp] theorem pooled_nil : pooled worth [] = 0 := rfl

@[simp] theorem pooled_cons :
    pooled worth (old :: pool) = worth old + pooled worth pool := rfl

theorem pooled_append (first second : List Member) :
    pooled worth (first ++ second) = pooled worth first + pooled worth second := by
  induction first with
  | nil => simp
  | cons member rest ih => simp [ih, Nat.add_assoc]

/-- Replacing a member exchanges its worth. -/
theorem pooled_set (worth : Member → Nat) (new : Member) (at_i : pool[i]? = some old) :
    pooled worth (pool.set i new) + worth old = pooled worth pool + worth new := by
  induction pool generalizing i with
  | nil => simp at at_i
  | cons member pool ih =>
      cases i with
      | zero =>
          obtain rfl : member = old := by simpa using at_i
          simp only [List.set_cons_zero, pooled_cons]
          omega
      | succ i =>
          rw [List.getElem?_cons_succ] at at_i
          have rest := ih at_i
          simp only [List.set_cons_succ, pooled_cons]
          omega

/-- Only the exposed members have become worth more, each by at most the amount. -/
theorem pooled_le_of_raised (pool : List Member) {exposed : Member → Bool} {amount : Nat}
    (raised : ∀ member, after member ≤ before member + amount * (exposed member).toNat) :
    pooled after pool ≤ pooled before pool + amount * pool.countP exposed := by
  induction pool with
  | nil => simp
  | cons member pool ih =>
      have first := raised member
      rw [List.countP_cons]
      simp only [pooled_cons]
      cases isExposed : exposed member with
      | false =>
          simp only [isExposed, Bool.toNat_false, Nat.mul_zero] at first
          simp only [Bool.false_eq_true, if_false, Nat.add_zero]
          omega
      | true =>
          simp only [isExposed, Bool.toNat_true, Nat.mul_one] at first
          simp only [if_true, Nat.mul_add, Nat.mul_one]
          omega

theorem pooled_linear (first second : Nat) :
    pooled (fun member => first * before member + second * after member) pool =
      first * pooled before pool + second * pooled after pool := by
  induction pool with
  | nil => simp
  | cons member pool ih =>
      simp only [pooled_cons, ih, Nat.mul_add]
      omega

theorem pooled_const (amount : Nat) :
    pooled (fun _ => amount) pool = amount * pool.length := by
  induction pool with
  | nil => rfl
  | cons member pool ih => rw [pooled_cons, ih, List.length_cons, Nat.mul_succ, Nat.add_comm]

theorem countP_eq_pooled (counted : Member → Bool) :
    pool.countP counted = pooled (fun member => (counted member).toNat) pool := by
  induction pool with
  | nil => rfl
  | cons member pool ih =>
      rw [List.countP_cons, pooled_cons, ← ih]
      cases counted member <;> simp [Nat.add_comm]

end Pooled

variable {State Action Event : Type*} {step : State → Action → Option (State × List Event)}
  {admits : State → Action → Prop} {start final : State}

/-- A way to pay for the steps. -/
structure Potential (step : State → Action → Option (State × List Event))
    (admits : State → Action → Prop) where
  worth : State → Nat → Prop
  cost : Action → Nat
  credit : Action → Nat
  pays : ∀ {state next action events held}, worth state held → admits state action →
    step state action = some (next, events) →
    ∃ left, worth next left ∧ cost action + left ≤ held + credit action

theorem Potential.exec [∀ state action, Decidable (admits state action)]
    (potential : Potential step admits) {actions : List Action} {events : List Event}
    {held : Nat} (starts : potential.worth start held)
    (ran : exec step admits start actions = some (final, events)) :
    ∃ left, potential.worth final left ∧
      pooled potential.cost actions + left ≤ held + pooled potential.credit actions := by
  induction actions generalizing start events held with
  | nil =>
      obtain ⟨rfl, rfl⟩ := by simpa [LabelledRuns.exec] using ran
      exact ⟨held, starts, by simp⟩
  | cons action actions ih =>
      simp only [LabelledRuns.exec] at ran
      split at ran
      · rename_i admitted
        split at ran
        · contradiction
        · rename_i next first stepTo
          split at ran
          · contradiction
          · rename_i last later rest
            obtain ⟨rfl, rfl⟩ := by simpa using ran
            obtain ⟨middle, worth, paid⟩ := potential.pays starts admitted stepTo
            obtain ⟨left, worthLast, paidLater⟩ := ih worth rest
            refine ⟨left, worthLast, ?_⟩
            simp only [pooled_cons]
            omega
      · contradiction

/-- A state that is not settled can always move towards a settled one. -/
theorem exists_run_settled {worth : State → Nat → Prop} {settled : State → Prop}
    (moves : ∀ {state held}, worth state held → ¬ settled state →
      ∃ action next events left, admits state action ∧
        step state action = some (next, events) ∧ worth next left ∧ left < held)
    {held : Nat} (starts : worth start held) :
    ∃ history final, Run step admits start history final ∧ settled final := by
  induction held using Nat.strongRecOn generalizing start with
  | ind held ih =>
      by_cases isSettled : settled start
      · exact ⟨[], start, .refl, isSettled⟩
      · obtain ⟨action, next, events, left, admitted, stepTo, worthNext, lower⟩ :=
          moves starts isSettled
        obtain ⟨later, final, run, finalSettled⟩ := ih left lower worthNext
        exact ⟨events ++ later, final, (Run.single admitted stepTo).trans run, finalSettled⟩

section Party

/-- A component that counts the steps of one party. -/
def tallied (own : State → Action → Bool)
    (step : State → Action → Option (State × List Event)) (reached : State × Nat)
    (action : Action) : Option ((State × Nat) × List Event) :=
  (step reached.1 action).map fun outcome =>
    ((outcome.1, reached.2 + (own reached.1 action).toNat), outcome.2)

/-- A condition on steps that does not look at the count. -/
def uncounted (admits : State → Action → Prop) (reached : State × Nat) (action : Action) :
    Prop :=
  admits reached.1 action

instance [∀ state action, Decidable (admits state action)] (reached : State × Nat)
    (action : Action) : Decidable (uncounted admits reached action) :=
  inferInstanceAs (Decidable (admits reached.1 action))

variable {own : State → Action → Bool} {inv : State → Prop} {rank : State → Nat}

/-- The steps of one party are paid from its rank, which the steps of others do not
raise. -/
structure Ranked (step : State → Action → Option (State × List Event))
    (admits : State → Action → Prop) (own : State → Action → Bool) (inv : State → Prop)
    (rank : State → Nat) : Prop where
  kept : ∀ {state next action events}, inv state → admits state action →
    step state action = some (next, events) → inv next
  pays : ∀ {state next action events}, inv state → admits state action →
    step state action = some (next, events) → rank next + (own state action).toNat ≤ rank state

theorem tallied_eq_some_iff {reached next : State × Nat} {action : Action}
    {events : List Event} :
    tallied own step reached action = some (next, events) ↔
      step reached.1 action = some (next.1, events) ∧
        next.2 = reached.2 + (own reached.1 action).toNat := by
  obtain ⟨state, taken⟩ := reached
  obtain ⟨after, count⟩ := next
  simp only [tallied, Option.map_eq_some_iff, Prod.mk.injEq, Prod.exists]
  constructor
  · rintro ⟨found, reported, stepTo, ⟨rfl, rfl⟩, rfl⟩
    exact ⟨stepTo, rfl⟩
  · rintro ⟨stepTo, rfl⟩
    exact ⟨after, events, stepTo, ⟨rfl, rfl⟩, rfl⟩

/-- The party moves no more often than its rank tells. -/
theorem Ranked.run (ranked : Ranked step admits own inv rank) (starts : inv start)
    {history : List Event} {reached : State × Nat}
    (run : Run (tallied own step) (uncounted admits) (start, 0) history reached) :
    inv reached.1 ∧ reached.2 + rank reached.1 ≤ rank start := by
  refine run.stateInvariant
    (fun reached => inv reached.1 ∧ reached.2 + rank reached.1 ≤ rank start)
    ⟨starts, by simp⟩ ?_
  intro events reached next action ⟨holds, bounded⟩ admitted stepTo
  obtain ⟨moved, counted⟩ := tallied_eq_some_iff.mp stepTo
  have paid := ranked.pays holds admitted moved
  refine ⟨ranked.kept holds admitted moved, ?_⟩
  rw [counted]
  omega

end Party

end LabelledRuns

end Mgnp
