import Mgnp.MemoryLayout

/-!
# A header with a tail of items in one allocation

`ArcPlugTail::layout` extends the padded `PlugTail`, whose `tail` field has no items, by an
array, and `storage` looks for the items at the offset of that field.  The header is padded
to its own alignment, so rounding up to that of the items leaves nothing to pad, and the
two offsets are the same.
-/

namespace Mgnp

namespace PlugTail

open MemoryLayout

/-- What the layouts depend on in the target. -/
structure Platform where
  /-- `usize::BITS`. -/
  bits : Nat
  bits_pos : 0 < bits
  usize : TypeLayout
  atomicUsize : TypeLayout

/-- `ArcHdr<H>`, whose fields are `strong`, `len` and `hdr`. -/
def arcHdr (platform : Platform) (hdr : TypeLayout) : TypeLayout :=
  reprC [platform.atomicUsize.toLayout, platform.usize.toLayout, hdr.toLayout]

/-- `PlugTail<H, T>`, whose fields are `hdr` and `tail`. -/
def plugTail (hdr item : TypeLayout) : TypeLayout :=
  reprC [hdr.toLayout, (item.arrayType 0).toLayout]

/-- The offset of the field `tail` of `PlugTail<H, T>`. -/
def tailOffset (hdr item : TypeLayout) : Nat :=
  (fieldsLayout [hdr.toLayout]).offsetOf (item.arrayType 0).toLayout

/-- `ArcPlugTail::layout`, `none` when it panics. -/
def layout (platform : Platform) (hdr item : TypeLayout) (n : Nat) : Option Layout := do
  let layout := plugTail (arcHdr platform hdr) item
  let array ← Layout.array platform.bits item n
  let (layout, _) ← layout.extend platform.bits array
  return layout

/-- A part of an allocation. -/
structure Span where
  offset : Nat
  size : Nat

/-- The slice that `ArcPlugTail::storage` forms when `len` is in the header. -/
def storage (platform : Platform) (hdr item : TypeLayout) (len : Nat) : Span where
  offset := tailOffset (arcHdr platform hdr) item
  size := len * item.size

section Storage

variable {platform : Platform} {hdr item : TypeLayout} {n : Nat} {allocated : Layout}

theorem layout_eq_some (allocates : layout platform hdr item n = some allocated) :
    allocated =
      (plugTail (arcHdr platform hdr) item).append (item.arrayType n).toLayout := by
  unfold layout at allocates
  obtain ⟨array, arrayEq, rest⟩ := Option.bind_eq_some_iff.mp allocates
  obtain ⟨⟨extended, offset⟩, fits, returned⟩ := Option.bind_eq_some_iff.mp rest
  obtain rfl : extended = allocated := Option.some.inj returned
  rw [Layout.array_eq_some arrayEq] at fits
  exact (Layout.extend_eq_some fits).1

/-- `PlugTail` needs no padding behind its tail: one of the two alignments is a multiple of
the other, and the offset of the tail is a multiple of both. -/
theorem plugTail_size (hdr item : TypeLayout) :
    (plugTail hdr item).size = tailOffset hdr item := by
  have fields : (fieldsLayout [hdr.toLayout, (item.arrayType 0).toLayout]).size =
      tailOffset hdr item := by
    change tailOffset hdr item + item.size * 0 = _
    rw [Nat.mul_zero, Nat.add_zero]
  have tailEq : tailOffset hdr item = item.align.roundUp hdr.size := by
    change item.align.roundUp (fieldsLayout [hdr.toLayout]).size = _
    rw [fieldsLayout_singleton_size]
  change (Alignment.roundUp (max (max ⟨0⟩ hdr.align) item.align)
    (fieldsLayout [hdr.toLayout, (item.arrayType 0).toLayout]).size) = _
  rw [fields]
  apply Alignment.roundUp_of_dvd
  rcases Nat.le_total hdr.align.log2 item.align.log2 with least | most
  · have alignLe : (max (max ⟨0⟩ hdr.align) item.align).log2 ≤ item.align.log2 := by
      change max (max 0 hdr.align.log2) item.align.log2 ≤ _
      omega
    rw [tailEq]
    exact Nat.dvd_trans (Alignment.dvd_of_le alignLe) (item.align.dvd_roundUp _)
  · have alignLe : (max (max ⟨0⟩ hdr.align) item.align).log2 ≤ hdr.align.log2 := by
      change max (max 0 hdr.align.log2) item.align.log2 ≤ _
      omega
    have placed : item.align.toNat ∣ hdr.size :=
      Nat.dvd_trans (Alignment.dvd_of_le most) hdr.dvd_size
    rw [tailEq, Alignment.roundUp_of_dvd placed]
    exact Nat.dvd_trans (Alignment.dvd_of_le alignLe) hdr.dvd_size

/-- The slice that `storage` forms ends where the allocation ends. -/
theorem layout_size (allocates : layout platform hdr item n = some allocated) :
    allocated.size =
      (storage platform hdr item n).offset + (storage platform hdr item n).size := by
  have tail := reprC_fieldAt [(arcHdr platform hdr).toLayout] [] (item.arrayType 0).toLayout
  have aligned : item.align.toNat ∣ (plugTail (arcHdr platform hdr) item).size := by
    rw [plugTail_size]
    exact tail.aligned
  rw [layout_eq_some allocates]
  change item.align.roundUp (plugTail (arcHdr platform hdr) item).size + item.size * n =
    tailOffset (arcHdr platform hdr) item + n * item.size
  rw [Alignment.roundUp_of_dvd aligned, plugTail_size, Nat.mul_comm]

/-- The slice that `storage` finds in an allocation has room for `n` items and no more.  The
items are aligned, behind the header and inside of the allocation, which is aligned for the
header and for the items. -/
structure StorageWithin (platform : Platform) (hdr item : TypeLayout) (n : Nat)
    (allocated : Layout) : Prop where
  spans : (storage platform hdr item n).size = n * item.size
  items : ∀ i < n, item.align.toNat ∣ (storage platform hdr item n).offset + i * item.size ∧
    (storage platform hdr item n).offset + (i + 1) * item.size ≤ allocated.size
  aligned : item.align.toNat ∣ (storage platform hdr item n).offset
  behind : (arcHdr platform hdr).size ≤ (storage platform hdr item n).offset
  inside : (storage platform hdr item n).offset + (storage platform hdr item n).size ≤
    allocated.size
  arcHdr_dvd : (arcHdr platform hdr).align.toNat ∣ allocated.align.toNat
  hdr_dvd : hdr.align.toNat ∣ allocated.align.toNat
  item_dvd : item.align.toNat ∣ allocated.align.toNat

theorem storage_within_layout (allocates : layout platform hdr item n = some allocated) :
    StorageWithin platform hdr item n allocated := by
  have tail := reprC_fieldAt [(arcHdr platform hdr).toLayout] [] (item.arrayType 0).toLayout
  have header := reprC_fieldAt [] [(item.arrayType 0).toLayout] (arcHdr platform hdr).toLayout
  have inner := reprC_fieldAt [platform.atomicUsize.toLayout, platform.usize.toLayout] []
    hdr.toLayout
  have arcHdrDvd : (arcHdr platform hdr).align.toNat ∣ allocated.align.toNat := by
    rw [layout_eq_some allocates]
    exact Nat.dvd_trans header.align_dvd (Alignment.dvd_max_left _ _)
  constructor
  · rfl
  · intro i inside
    refine ⟨Nat.dvd_add tail.aligned (Nat.dvd_trans item.dvd_size (Nat.dvd_mul_left _ _)), ?_⟩
    rw [layout_size allocates]
    exact Nat.add_le_add_left (Nat.mul_le_mul_right _ inside) _
  · exact tail.aligned
  · have behind := tail.behind
    rw [fieldsLayout_singleton_size] at behind
    exact behind
  · exact (layout_size allocates).ge
  · exact arcHdrDvd
  · exact Nat.dvd_trans inner.align_dvd arcHdrDvd
  · rw [layout_eq_some allocates]
    exact Alignment.dvd_max_right _ _

/-- The layouts of a 64-bit target. -/
def platform64 : Platform where
  bits := 64
  bits_pos := by decide
  usize := ⟨⟨8, ⟨3⟩⟩, by decide⟩
  atomicUsize := ⟨⟨8, ⟨3⟩⟩, by decide⟩

def u8 : TypeLayout := ⟨⟨1, ⟨0⟩⟩, by decide⟩

def u128 : TypeLayout := ⟨⟨16, ⟨4⟩⟩, by decide⟩

/-- Items that need more alignment than the header: the header is padded to twenty-four
bytes and the items begin at the offset thirty-two. -/
theorem storage_within_layout_overAligned : StorageWithin platform64 u8 u128 3 ⟨80, ⟨4⟩⟩ :=
  storage_within_layout (by decide)

end Storage

end PlugTail

end Mgnp
