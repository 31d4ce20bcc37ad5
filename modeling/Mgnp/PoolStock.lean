import Mathlib.Algebra.Order.Group.Multiset
import Mathlib.Data.List.Basic
import Mathlib.Tactic.Abel

/-!
# Taking stock of a pool

Each member of a pool has at most one item.  The stock of the pool is the
multiset of these items, and replacing one member exchanges its item.
-/

namespace Mgnp

namespace PoolStock

variable {Member Item : Type*} {item other : Member → Option Item} {pool : List Member}
  {old new : Member} {i : Nat}

def stock (item : Member → Option Item) (pool : List Member) : Multiset Item :=
  ↑(pool.filterMap item)

/-- The stock of one member. -/
def single (item : Option Item) : Multiset Item := ↑item.toList

@[simp] theorem single_none : single (none : Option Item) = 0 := rfl

@[simp] theorem single_some (value : Item) : single (some value) = {value} := rfl

@[simp] theorem stock_nil : stock item [] = 0 := rfl

theorem stock_cons : stock item (old :: pool) = single (item old) + stock item pool := by
  cases found : item old with
  | none => simp [stock, found]
  | some value => simp [stock, found]

theorem stock_append : stock item (pool ++ [new]) = stock item pool + single (item new) := by
  induction pool with
  | nil => rw [List.nil_append, stock_cons, stock_nil, add_comm]
  | cons member pool ih => rw [List.cons_append, stock_cons, ih, stock_cons, add_assoc]

/-- Replacing a member exchanges its item. -/
theorem stock_set (at_i : pool[i]? = some old) :
    stock item (pool.set i new) + single (item old) = stock item pool + single (item new) := by
  induction pool generalizing i with
  | nil => simp at at_i
  | cons member pool ih =>
      cases i with
      | zero =>
          obtain rfl : member = old := by simpa using at_i
          rw [List.set_cons_zero, stock_cons, stock_cons]
          abel
      | succ i =>
          rw [List.getElem?_cons_succ] at at_i
          rw [List.set_cons_succ, stock_cons, stock_cons, add_assoc, ih at_i, add_assoc]

theorem stock_congr (same : ∀ member ∈ pool, item member = other member) :
    stock item pool = stock other pool := by
  rw [stock, List.filterMap_congr same, stock]

theorem stock_eq_zero (empty : ∀ member ∈ pool, item member = none) :
    stock item pool = 0 := by
  rw [stock_congr empty]
  simp [stock]

end PoolStock

end Mgnp
