import Mathlib.Data.Set.Card
import Mathlib.Data.Finset.Card

/-!
# Resources that are in exactly one place

`holds item place` says that a resource is found at a place.  The resources
are uniquely placed when every valid resource is found at exactly one place
and only valid resources are found anywhere.  A step that moves one resource
between two places keeps this, and any collection of distinct occupied places
is bounded by the number of resources.
-/

namespace Mgnp

variable {Item Place : Type*}

/-- Every valid resource is in exactly one place, and nothing else is. -/
structure UniquelyPlaced (holds : Item → Place → Prop) (valid : Item → Prop) :
    Prop where
  isValid : ∀ {item place}, holds item place → valid item
  placed : ∀ {item}, valid item → ∃! place, holds item place

namespace UniquelyPlaced

variable {holds moved : Item → Place → Prop} {valid : Item → Prop}

theorem place_unique (unique : UniquelyPlaced holds valid) {item : Item}
    {first second : Place} (atFirst : holds item first)
    (atSecond : holds item second) : first = second :=
  (unique.placed (unique.isValid atFirst)).unique atFirst atSecond

theorem congr (unique : UniquelyPlaced holds valid)
    (same : ∀ item place, moved item place ↔ holds item place) :
    UniquelyPlaced moved valid := by
  have equal : moved = holds := by
    funext item place
    exact propext (same item place)
  exact equal ▸ unique

/-- Moving one resource from `source` to `target` keeps all of them uniquely
placed. -/
theorem move (unique : UniquelyPlaced holds valid) {item : Item}
    (source target : Place) (found : holds item source) (ne : source ≠ target)
    (atSource : ∀ other, moved other source ↔ holds other source ∧ other ≠ item)
    (atTarget : ∀ other, moved other target ↔ holds other target ∨ other = item)
    (elsewhere : ∀ other place, place ≠ source → place ≠ target →
      (moved other place ↔ holds other place)) :
    UniquelyPlaced moved valid := by
  have atOther {other : Item} (distinct : other ≠ item) (place : Place) :
      moved other place ↔ holds other place := by
    by_cases isSource : place = source
    · subst isSource
      simp [atSource, distinct]
    by_cases isTarget : place = target
    · subst isTarget
      simp [atTarget, distinct]
    exact elsewhere other place isSource isTarget
  have atItem (place : Place) : moved item place ↔ place = target := by
    by_cases isTarget : place = target
    · subst isTarget
      simp [atTarget]
    by_cases isSource : place = source
    · subst isSource
      simp [atSource, isTarget]
    rw [elsewhere item place isSource isTarget]
    simp only [isTarget, iff_false]
    exact fun there => isSource (unique.place_unique there found)
  constructor
  · intro other place there
    by_cases same : other = item
    · subst same
      exact unique.isValid found
    · exact unique.isValid ((atOther same place).mp there)
  · intro other isValid
    by_cases same : other = item
    · subst same
      exact ⟨target, (atItem target).mpr rfl, fun place => (atItem place).mp⟩
    · obtain ⟨place, there, only⟩ := unique.placed isValid
      exact ⟨place, (atOther same place).mpr there,
        fun other' found' => only other' ((atOther same other').mp found')⟩

/-- A family of distinct occupied places has at most as many members as there
are valid resources. -/
theorem card_le {ι : Type*} {holds : Nat → Place → Prop} {capacity : Nat}
    (unique : UniquelyPlaced holds (· < capacity)) (members : Finset ι)
    (place : ι → Place) (injective : Set.InjOn place members)
    (occupied : ∀ i ∈ members, ∃ item, holds item (place i)) :
    members.card ≤ capacity := by
  classical
  let item : ι → Nat := fun i =>
    if member : i ∈ members then (occupied i member).choose else 0
  have holdsItem {i : ι} (member : i ∈ members) : holds (item i) (place i) := by
    simp only [item, member, dif_pos]
    exact (occupied i member).choose_spec
  have inRange : ∀ i ∈ members, item i ∈ Finset.range capacity :=
    fun i member => Finset.mem_range.mpr (unique.isValid (holdsItem member))
  have itemInjective : Set.InjOn item members := by
    intro first firstMem second secondMem equal
    have atSecond := holdsItem secondMem
    rw [← equal] at atSecond
    exact injective firstMem secondMem
      (unique.place_unique (holdsItem firstMem) atSecond)
  calc members.card ≤ (Finset.range capacity).card :=
        Finset.card_le_card_of_injOn item inRange itemInjective
    _ = capacity := Finset.card_range capacity

end UniquelyPlaced

end Mgnp
