import Mathlib.Data.List.Nodup
import Mathlib.Logic.Function.Basic

/-!
# Free lists threaded through an array

Every slot of the array is taken, free, or fresh.  Free slots form a linked list
through their own contents, the fresh slots are those from `bound` on, and the
list ends at `bound`.  So popping the head reuses the slot released last, and
once the list is empty, the first fresh slot.
-/

namespace Mgnp

namespace ThreadedFreeList

inductive Slot
  | fresh
  | free (next : Nat)
  | taken
  deriving DecidableEq

/-- Following the links from `head` visits the slots of the list in order and
ends at `bound`. -/
def Linked (slot : Nat → Slot) (bound : Nat) : Nat → List Nat → Prop
  | head, [] => head = bound
  | head, index :: rest =>
      index = head ∧ ∃ next, slot index = .free next ∧ Linked slot bound next rest

structure WellFormed (slot : Nat → Slot) (head : Nat) (chain : List Nat)
    (bound : Nat) : Prop where
  linked : Linked slot bound head chain
  nodup : chain.Nodup
  mem_chain_iff : ∀ index, index ∈ chain ↔ ∃ next, slot index = .free next
  fresh_iff : ∀ index, slot index = .fresh ↔ bound ≤ index

section Operations

variable {slot other : Nat → Slot} {head bound index : Nat} {chain : List Nat}

theorem Linked.congr (linked : Linked slot bound head chain)
    (agrees : ∀ index ∈ chain, other index = slot index) :
    Linked other bound head chain := by
  induction chain generalizing head with
  | nil => exact linked
  | cons index rest ih =>
      obtain ⟨isHead, next, isFree, restLinked⟩ := linked
      refine ⟨isHead, next, ?_, ih restLinked ?_⟩
      · rw [agrees index List.mem_cons_self, isFree]
      · intro later member
        exact agrees later (List.mem_cons_of_mem index member)

theorem WellFormed.initial : WellFormed (fun _ => .fresh) 0 [] 0 where
  linked := rfl
  nodup := .nil
  mem_chain_iff := by simp
  fresh_iff := by simp

theorem WellFormed.congr (wellFormed : WellFormed slot head chain bound)
    (agrees : ∀ index, other index = slot index) :
    WellFormed other head chain bound := by
  have same : other = slot := funext agrees
  rwa [same]

/-- The head of the list is never a taken slot. -/
theorem WellFormed.head_ne_taken (wellFormed : WellFormed slot head chain bound) :
    slot head ≠ .taken := by
  obtain ⟨linked, -, -, fresh_iff⟩ := wellFormed
  cases chain with
  | nil =>
      have atBound : head = bound := linked
      rw [(fresh_iff head).mpr (Nat.le_of_eq atBound.symm)]
      simp
  | cons index rest =>
      obtain ⟨rfl, next, isFree, -⟩ := linked
      simp [isFree]

/-- The head lies in range as long as some slot in range is not taken. -/
theorem WellFormed.head_lt {limit : Nat}
    (wellFormed : WellFormed slot head chain bound)
    (outside : ∀ index, limit ≤ index → slot index = .fresh)
    (inRange : index < limit) (available : slot index ≠ .taken) :
    head < limit := by
  obtain ⟨linked, -, mem_chain_iff, fresh_iff⟩ := wellFormed
  cases chain with
  | nil =>
      have atBound : head = bound := linked
      have notFree : ¬ ∃ next, slot index = .free next := by
        rw [← mem_chain_iff]
        simp
      have isFresh : slot index = .fresh := by
        cases slotEq : slot index with
        | fresh => rfl
        | free next => exact absurd ⟨next, slotEq⟩ notFree
        | taken => exact absurd slotEq available
      have := (fresh_iff index).mp isFresh
      omega
  | cons first rest =>
      obtain ⟨rfl, next, isFree, -⟩ := linked
      by_contra beyond
      rw [outside first (Nat.le_of_not_lt beyond)] at isFree
      contradiction

/-- Releasing a taken slot makes it the head. -/
theorem WellFormed.release (wellFormed : WellFormed slot head chain bound)
    (isTaken : slot index = .taken) :
    WellFormed (Function.update slot index (.free head)) index (index :: chain) bound := by
  have notInChain : index ∉ chain := by
    rw [wellFormed.mem_chain_iff]
    simp [isTaken]
  constructor
  · refine ⟨rfl, head, Function.update_self .., wellFormed.linked.congr ?_⟩
    intro later member
    apply Function.update_of_ne
    rintro rfl
    exact notInChain member
  · exact List.nodup_cons.mpr ⟨notInChain, wellFormed.nodup⟩
  · intro later
    by_cases same : later = index
    · subst same
      simp
    · rw [Function.update_of_ne same, ← wellFormed.mem_chain_iff]
      simp [same]
  · intro later
    by_cases same : later = index
    · subst same
      simp [← wellFormed.fresh_iff, isTaken]
    · rw [Function.update_of_ne same, wellFormed.fresh_iff]

/-- A fresh head is the first fresh slot, and taking it moves the boundary. -/
theorem WellFormed.takeFresh (wellFormed : WellFormed slot head chain bound)
    (isFresh : slot head = .fresh) :
    WellFormed (Function.update slot head .taken) (head + 1) [] (bound + 1) := by
  cases chain with
  | cons index rest =>
      obtain ⟨rfl, next, isFree, -⟩ := wellFormed.linked
      simp [isFresh] at isFree
  | nil =>
      have atBound : head = bound := wellFormed.linked
      subst atBound
      have noneFree := wellFormed.mem_chain_iff
      simp only [List.not_mem_nil, false_iff] at noneFree
      constructor
      · rfl
      · exact List.nodup_nil
      · intro index
        by_cases same : index = head
        · subst same
          simp
        · rw [Function.update_of_ne same]
          simpa using noneFree index
      · intro index
        by_cases same : index = head
        · subst same
          simp
        · rw [Function.update_of_ne same, wellFormed.fresh_iff]
          omega

/-- Taking a free head leaves the rest of the list. -/
theorem WellFormed.takeFree {next : Nat}
    (wellFormed : WellFormed slot head chain bound)
    (isFree : slot head = .free next) :
    WellFormed (Function.update slot head .taken) next chain.tail bound := by
  cases chain with
  | nil =>
      have atBound : head = bound := wellFormed.linked
      rw [(wellFormed.fresh_iff head).mpr (Nat.le_of_eq atBound.symm)] at isFree
      contradiction
  | cons index rest =>
      obtain ⟨rfl, linkedNext, sameFree, linked⟩ := wellFormed.linked
      obtain rfl : next = linkedNext := by
        simpa [isFree] using sameFree
      obtain ⟨notInRest, nodupRest⟩ := List.nodup_cons.mp wellFormed.nodup
      constructor
      · apply linked.congr
        intro later member
        apply Function.update_of_ne
        rintro rfl
        exact notInRest member
      · exact nodupRest
      · intro later
        by_cases same : later = index
        · subst same
          simpa using notInRest
        · rw [Function.update_of_ne same, ← wellFormed.mem_chain_iff]
          simp [same]
      · intro later
        by_cases same : later = index
        · subst same
          simp [← wellFormed.fresh_iff, isFree]
        · rw [Function.update_of_ne same, wellFormed.fresh_iff]

end Operations

end ThreadedFreeList

end Mgnp
