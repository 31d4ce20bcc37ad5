import Mathlib.Algebra.Order.Group.Nat

/-!
# Layouts of types and allocations

A layout is a size and an alignment.  `Layout::extend` and a `repr(C)` structure both
place the next part at the first offset behind the others that its alignment admits.
A type is padded in the end to a multiple of its alignment; an allocation need not be.
-/

namespace Mgnp

namespace MemoryLayout

/-- An alignment is a power of two. -/
structure Alignment where
  log2 : Nat
  deriving DecidableEq

def Alignment.toNat (align : Alignment) : Nat := 2 ^ align.log2

instance : Max Alignment := ⟨fun first second => ⟨max first.log2 second.log2⟩⟩

/-- The first multiple of the alignment that is not below `offset`. -/
def Alignment.roundUp (align : Alignment) (offset : Nat) : Nat :=
  (offset + align.toNat - 1) / align.toNat * align.toNat

/-- `Layout`, of a type or of an allocation. -/
structure Layout where
  size : Nat
  align : Alignment
  deriving DecidableEq

/-- The layout of a type, whose size is a multiple of its alignment. -/
structure TypeLayout extends Layout where
  dvd_size : align.toNat ∣ size

section Alignment

variable {align : Alignment} {offset bound : Nat}

theorem Alignment.toNat_pos (align : Alignment) : 0 < align.toNat :=
  Nat.two_pow_pos align.log2

theorem Alignment.dvd_of_le {first second : Alignment} (le : first.log2 ≤ second.log2) :
    first.toNat ∣ second.toNat :=
  Nat.pow_dvd_pow 2 le

theorem Alignment.dvd_max_left (first second : Alignment) :
    first.toNat ∣ (max first second).toNat :=
  Alignment.dvd_of_le (le_max_left first.log2 second.log2)

theorem Alignment.dvd_max_right (first second : Alignment) :
    second.toNat ∣ (max first second).toNat :=
  Alignment.dvd_of_le (le_max_right first.log2 second.log2)

theorem Alignment.dvd_roundUp (align : Alignment) (offset : Nat) :
    align.toNat ∣ align.roundUp offset :=
  Nat.dvd_mul_left _ _

theorem Alignment.le_roundUp (align : Alignment) (offset : Nat) :
    offset ≤ align.roundUp offset := by
  have positive := align.toNat_pos
  have split := Nat.div_add_mod (offset + align.toNat - 1) align.toNat
  have small := Nat.mod_lt (offset + align.toNat - 1) positive
  rw [Nat.mul_comm] at split
  unfold roundUp
  omega

/-- A multiple of the alignment is not moved. -/
theorem Alignment.roundUp_of_dvd (aligned : align.toNat ∣ offset) :
    align.roundUp offset = offset := by
  obtain ⟨count, rfl⟩ := aligned
  have positive := align.toNat_pos
  unfold roundUp
  rw [Nat.add_sub_assoc positive, Nat.mul_add_div positive,
    Nat.div_eq_of_lt (Nat.sub_one_lt positive.ne'), Nat.add_zero, Nat.mul_comm]

end Alignment

/-- Where the next part is placed. -/
def Layout.offsetOf (layout next : Layout) : Nat :=
  next.align.roundUp layout.size

/-- The layout of both parts, before it is padded. -/
def Layout.append (layout next : Layout) : Layout where
  size := layout.offsetOf next + next.size
  align := max layout.align next.align

/-- `Layout::pad_to_align`. -/
def Layout.padToAlign (layout : Layout) : TypeLayout where
  size := layout.align.roundUp layout.size
  align := layout.align
  dvd_size := layout.align.dvd_roundUp layout.size

/-- The fields of a structure in their order, before it is padded. -/
def fieldsLayout (fields : List Layout) : Layout :=
  fields.foldl Layout.append ⟨0, ⟨0⟩⟩

/-- The layout of a `repr(C)` structure. -/
def reprC (fields : List Layout) : TypeLayout :=
  (fieldsLayout fields).padToAlign

/-- The array type `[T; n]`. -/
def TypeLayout.arrayType (element : TypeLayout) (n : Nat) : TypeLayout where
  size := element.size * n
  align := element.align
  dvd_size := Nat.dvd_mul_right_of_dvd element.dvd_size n

/-- `Layout::max_size_for_align`: padded to its alignment, a size has to fit in an
`isize` of `bits` bits. -/
def maxSizeForAlign (bits : Nat) (align : Alignment) : Nat :=
  2 ^ (bits - 1) - 1 - (align.toNat - 1)

/-- `Layout::extend`, with the offset of `next`. -/
def Layout.extend (bits : Nat) (layout next : Layout) : Option (Layout × Nat) :=
  if (layout.append next).size ≤ maxSizeForAlign bits (layout.append next).align then
    some (layout.append next, layout.offsetOf next)
  else none

/-- `Layout::array`. -/
def Layout.array (bits : Nat) (element : TypeLayout) (n : Nat) : Option Layout :=
  if element.size ≠ 0 ∧ maxSizeForAlign bits element.align / element.size < n then none
  else some (element.arrayType n).toLayout

section Append

variable (layout next : Layout)

theorem Layout.dvd_offsetOf : next.align.toNat ∣ layout.offsetOf next :=
  next.align.dvd_roundUp layout.size

theorem Layout.size_le_offsetOf : layout.size ≤ layout.offsetOf next :=
  next.align.le_roundUp layout.size

theorem Layout.size_le_append : layout.size ≤ (layout.append next).size :=
  (layout.size_le_offsetOf next).trans (Nat.le_add_right _ _)

theorem Layout.size_le_padToAlign : layout.size ≤ layout.padToAlign.size :=
  layout.align.le_roundUp layout.size

theorem foldl_append_size_le (fields : List Layout) :
    layout.size ≤ (fields.foldl Layout.append layout).size := by
  induction fields generalizing layout with
  | nil => exact le_rfl
  | cons field fields ih => exact (layout.size_le_append field).trans (ih _)

theorem foldl_append_align_dvd (fields : List Layout) :
    layout.align.toNat ∣ (fields.foldl Layout.append layout).align.toNat := by
  induction fields generalizing layout with
  | nil => exact Nat.dvd_refl _
  | cons field fields ih => exact Nat.dvd_trans (Alignment.dvd_max_left _ _) (ih _)

end Append

/-- The layout of an allocation that has been extended. -/
theorem Layout.extend_eq_some {bits offset : Nat} {layout next extended : Layout}
    (fits : layout.extend bits next = some (extended, offset)) :
    extended = layout.append next ∧ offset = layout.offsetOf next := by
  unfold Layout.extend at fits
  split at fits
  · cases fits
    exact ⟨rfl, rfl⟩
  · cases fits

theorem Layout.array_eq_some {bits n : Nat} {element : TypeLayout} {array : Layout}
    (fits : Layout.array bits element n = some array) :
    array = (element.arrayType n).toLayout := by
  unfold Layout.array at fits
  split at fits
  · cases fits
  · cases fits
    rfl

/-- The first field is at the start. -/
theorem fieldsLayout_singleton_size (field : Layout) :
    (fieldsLayout [field]).size = field.size := by
  change field.align.roundUp 0 + field.size = field.size
  rw [Alignment.roundUp_of_dvd (Nat.dvd_zero _), Nat.zero_add]

/-- Where a field of a structure lies. -/
structure FieldAt (fields : TypeLayout) (before : Layout) (field : Layout)
    (offset : Nat) : Prop where
  aligned : field.align.toNat ∣ offset
  behind : before.size ≤ offset
  inside : offset + field.size ≤ fields.size
  align_dvd : field.align.toNat ∣ fields.align.toNat

/-- Every field is aligned, behind the fields before it and inside of the structure. -/
theorem reprC_fieldAt (before after : List Layout) (field : Layout) :
    FieldAt (reprC (before ++ field :: after)) (fieldsLayout before) field
      ((fieldsLayout before).offsetOf field) := by
  have fieldsEq : fieldsLayout (before ++ field :: after) =
      after.foldl Layout.append ((fieldsLayout before).append field) := by
    rw [fieldsLayout, List.foldl_append]
    rfl
  constructor
  · exact Layout.dvd_offsetOf _ _
  · exact Layout.size_le_offsetOf _ _
  · calc (fieldsLayout before).offsetOf field + field.size
        ≤ (fieldsLayout (before ++ field :: after)).size := by
          rw [fieldsEq]
          exact foldl_append_size_le ((fieldsLayout before).append field) after
      _ ≤ (reprC (before ++ field :: after)).size := Layout.size_le_padToAlign _
  · change _ ∣ (fieldsLayout (before ++ field :: after)).align.toNat
    rw [fieldsEq]
    exact Nat.dvd_trans (Alignment.dvd_max_right _ _) (foldl_append_align_dvd _ after)

end MemoryLayout

end Mgnp
