import Mathlib.Data.Set.Lattice
import Mathlib.Order.CompletePartialOrder
import Mathlib.Order.Interval.Set.Basic
import Mathlib.Tactic.Ring

/-!
# Planes of samples

A plane has rows of a stride in a memory, and in each row a sample every few bytes. Two planes are interleaved
where the samples of one lie between those of the other. A plane is copied row by row.
-/

namespace Nozomi

/-- The first sample, the bytes from row to row, the rows, and the bytes from sample to sample. -/
structure Plane where
  offset : Nat
  stride : Nat
  rows : Nat
  step : Nat
  deriving DecidableEq, Repr

namespace Plane

def bytes (plane : Plane) : Set Nat :=
  {byte | ∃ row < plane.rows, ∃ column, plane.step * column < plane.stride ∧
    byte = plane.offset + row * plane.stride + plane.step * column}

variable {plane other : Plane} {offset otherOffset stride rows step byte size : Nat}

theorem bytes_eq_empty (hempty : plane.rows = 0) : plane.bytes = ∅ := by
  apply Set.eq_empty_of_forall_notMem
  rintro byte ⟨row, hrow, -⟩
  omega

theorem offset_le (hbyte : byte ∈ plane.bytes) : plane.offset ≤ byte := by
  obtain ⟨row, -, column, -, rfl⟩ := hbyte
  omega

theorem lt_end (hbyte : byte ∈ plane.bytes) : byte < plane.offset + plane.stride * plane.rows := by
  obtain ⟨row, hrow, column, hcolumn, rfl⟩ := hbyte
  have hrows : (row + 1) * plane.stride ≤ plane.rows * plane.stride := Nat.mul_le_mul_right _ hrow
  rw [Nat.succ_mul, Nat.mul_comm plane.rows] at hrows
  omega

theorem bytes_subset_iff (hstep : 0 < step) (hdvd : step ∣ stride) (hstride : 0 < stride) (hrows : 0 < rows) :
    (⟨offset, stride, rows, step⟩ : Plane).bytes ⊆ Set.Iio size ↔ offset + stride * rows < size + step := by
  obtain ⟨columns, rfl⟩ := hdvd
  rw [Nat.mul_comm _ rows]
  constructor
  · intro hinside
    have hsome := Nat.pos_of_mul_pos_left hstride
    have hlast : offset + (rows - 1) * (step * columns) + step * (columns - 1) < size :=
      hinside ⟨rows - 1, Nat.sub_one_lt_of_lt hrows, columns - 1,
        Nat.mul_lt_mul_of_pos_left (Nat.sub_one_lt_of_lt hsome) hstep, rfl⟩
    have hrow : rows * (step * columns) = (rows - 1) * (step * columns) + step * columns := by
      rw [← Nat.succ_mul, Nat.succ_eq_add_one, Nat.sub_add_cancel hrows]
    have hcolumn : step * columns = step * (columns - 1) + step := by
      rw [← Nat.mul_succ, Nat.succ_eq_add_one, Nat.sub_add_cancel hsome]
    omega
  · rintro hend byte ⟨row, hrow, column, hcolumn, rfl⟩
    have hrowEnd : (row + 1) * (step * columns) ≤ rows * (step * columns) := Nat.mul_le_mul_right _ hrow
    have hcolumnEnd : step * (column + 1) ≤ step * columns :=
      Nat.mul_le_mul_left _ (Nat.lt_of_mul_lt_mul_left hcolumn)
    rw [Nat.succ_mul] at hrowEnd
    rw [Nat.mul_succ] at hcolumnEnd
    change offset + row * (step * columns) + step * column < size
    omega

theorem mem_of_lt (hle : offset ≤ byte) (hlt : byte < offset + stride * rows) :
    byte ∈ (⟨offset, stride, rows, 1⟩ : Plane).bytes := by
  have hstride : 0 < stride := Nat.pos_of_ne_zero fun hzero => by
    rw [hzero, Nat.zero_mul] at hlt
    omega
  have hrow : (byte - offset) / stride < rows := Nat.div_lt_of_lt_mul (by omega)
  refine ⟨(byte - offset) / stride, hrow, (byte - offset) % stride, ?_, ?_⟩
  · rw [Nat.one_mul]
    exact Nat.mod_lt _ hstride
  · have hsplit := Nat.div_add_mod' (byte - offset) stride
    change byte = offset + (byte - offset) / stride * stride + 1 * ((byte - offset) % stride)
    omega

theorem disjoint_of_le (hle : plane.offset + plane.stride * plane.rows ≤ other.offset) :
    Disjoint plane.bytes other.bytes := by
  rw [Set.disjoint_left]
  intro byte hplane hother
  have := lt_end hplane
  have := offset_le hother
  omega

theorem disjoint_of_mod (hdvd : step ∣ stride) (hmod : offset % step ≠ otherOffset % step) :
    Disjoint (⟨offset, stride, rows, step⟩ : Plane).bytes (⟨otherOffset, stride, rows, step⟩ : Plane).bytes := by
  obtain ⟨columns, rfl⟩ := hdvd
  have hrest : ∀ offset row column, (offset + row * (step * columns) + step * column) % step = offset % step := by
    intro offset row column
    rw [Nat.add_mul_mod_self_left, Nat.mul_left_comm, Nat.add_mul_mod_self_left]
  rw [Set.disjoint_left]
  rintro byte ⟨row, -, column, -, hbyte⟩ ⟨otherRow, -, otherColumn, -, hother⟩
  apply hmod
  rw [← hrest offset row column, ← hrest otherOffset otherRow otherColumn]
  exact congrArg (· % step) (hbyte.symm.trans hother)

end Plane

/-! ### Luma and chroma -/

/-- Three planes are apart and lie inside a memory. -/
structure PlanesFit (luma cb cr : Plane) (size : Nat) : Prop where
  luma_inside : luma.bytes ⊆ Set.Iio size
  cb_inside : cb.bytes ⊆ Set.Iio size
  cr_inside : cr.bytes ⊆ Set.Iio size
  luma_cb : Disjoint luma.bytes cb.bytes
  luma_cr : Disjoint luma.bytes cr.bytes
  cb_cr : Disjoint cb.bytes cr.bytes

namespace PlanesFit

variable {luma cb cr : Plane} {size stride rows chromaStride chromaRows : Nat}

theorem swap (hfit : PlanesFit luma cb cr size) : PlanesFit luma cr cb size :=
  ⟨hfit.luma_inside, hfit.cr_inside, hfit.cb_inside, hfit.luma_cr, hfit.luma_cb, hfit.cb_cr.symm⟩

theorem of_rows (hluma : luma.rows = 0) (hcb : cb.rows = 0) (hcr : cr.rows = 0) : PlanesFit luma cb cr size := by
  constructor <;>
    simp only [Plane.bytes_eq_empty hluma, Plane.bytes_eq_empty hcb, Plane.bytes_eq_empty hcr, Set.empty_subset,
      Set.disjoint_empty]

theorem luma_le (hstride : 0 < stride) (hrows : 0 < rows) (hfit : PlanesFit ⟨0, stride, rows, 1⟩ cb cr size) :
    stride * rows ≤ size := by
  have hinside := (Plane.bytes_subset_iff Nat.one_pos (Nat.one_dvd _) hstride hrows).mp hfit.luma_inside
  omega

theorem luma_le_cb (hstride : 0 < cb.stride) (hrows : 0 < cb.rows)
    (hfit : PlanesFit ⟨0, stride, rows, 1⟩ cb cr size) : stride * rows ≤ cb.offset := by
  by_contra hoverlap
  have hfirst : cb.offset ∈ cb.bytes := ⟨0, hrows, 0, hstride, by rw [Nat.zero_mul, Nat.mul_zero]; rfl⟩
  exact Set.disjoint_left.mp hfit.luma_cb (Plane.mem_of_lt (Nat.zero_le _) (by omega)) hfirst

theorem interleaved_iff (hstride : 0 < stride) (heven : 2 ∣ stride) (hrows : 0 < rows) (hchroma : 0 < chromaRows) :
    PlanesFit ⟨0, stride, rows, 1⟩ ⟨stride * rows, stride, chromaRows, 2⟩ ⟨stride * rows + 1, stride, chromaRows, 2⟩
        size ↔
      stride * rows + stride * chromaRows ≤ size := by
  have hinside : ∀ offset, (⟨offset, stride, chromaRows, 2⟩ : Plane).bytes ⊆ Set.Iio size ↔ _ := fun offset =>
    Plane.bytes_subset_iff Nat.two_pos heven hstride hchroma
  constructor
  · intro hfit
    have hcr := (hinside _).mp hfit.cr_inside
    omega
  · intro hcovers
    refine ⟨(Plane.bytes_subset_iff Nat.one_pos (Nat.one_dvd _) hstride hrows).mpr (by omega),
      (hinside _).mpr (by omega), (hinside _).mpr (by omega), Plane.disjoint_of_le ?_, Plane.disjoint_of_le ?_,
      Plane.disjoint_of_mod heven (by omega)⟩
    · exact (Nat.zero_add _).le
    · exact (Nat.zero_add _).trans_le (Nat.le_succ _)

theorem planar_iff (hstride : 0 < stride) (hrows : 0 < rows) (hchromaStride : 0 < chromaStride)
    (hchroma : 0 < chromaRows) :
    PlanesFit ⟨0, stride, rows, 1⟩ ⟨stride * rows + chromaStride * chromaRows, chromaStride, chromaRows, 1⟩
        ⟨stride * rows, chromaStride, chromaRows, 1⟩ size ↔
      stride * rows + 2 * (chromaStride * chromaRows) ≤ size := by
  have hinside : ∀ offset, (⟨offset, chromaStride, chromaRows, 1⟩ : Plane).bytes ⊆ Set.Iio size ↔ _ := fun offset =>
    Plane.bytes_subset_iff Nat.one_pos (Nat.one_dvd _) hchromaStride hchroma
  constructor
  · intro hfit
    have hcb := (hinside _).mp hfit.cb_inside
    omega
  · intro hcovers
    refine ⟨(Plane.bytes_subset_iff Nat.one_pos (Nat.one_dvd _) hstride hrows).mpr (by omega),
      (hinside _).mpr (by omega), (hinside _).mpr (by omega), Plane.disjoint_of_le ?_, Plane.disjoint_of_le ?_,
      (Plane.disjoint_of_le ?_).symm⟩
    · exact (Nat.zero_add _).trans_le (Nat.le_add_right _ _)
    · exact (Nat.zero_add _).le
    · exact le_rfl

end PlanesFit

/-! ### Copies -/

/-- A copy of bytes from one memory to another. -/
structure ByteCopy where
  dst : Nat
  src : Nat
  width : Nat
  deriving DecidableEq, Repr

namespace ByteCopy

variable {α : Type*} {copies : List ByteCopy} {copy : ByteCopy} {byte : Nat}

def run (source memory : Nat → α) (copy : ByteCopy) : Nat → α := fun byte =>
  if copy.dst ≤ byte ∧ byte < copy.dst + copy.width then source (copy.src + (byte - copy.dst)) else memory byte

def runAll (source memory : Nat → α) (copies : List ByteCopy) : Nat → α := copies.foldl (run source) memory

theorem runAll_of_outside {source memory : Nat → α}
    (houtside : ∀ copy ∈ copies, ¬(copy.dst ≤ byte ∧ byte < copy.dst + copy.width)) :
    runAll source memory copies byte = memory byte := by
  induction copies generalizing memory with
  | nil => rfl
  | cons copy copies ih =>
    rw [List.forall_mem_cons] at houtside
    exact (ih houtside.2).trans (if_neg houtside.1)

/-- Where the copies do not overlap, a byte comes from the copy that it is in. -/
theorem runAll_of_mem {source memory : Nat → α}
    (hpairwise : copies.Pairwise fun first second => first.dst + first.width ≤ second.dst) (hcopy : copy ∈ copies)
    {column : Nat} (hcolumn : column < copy.width) :
    runAll source memory copies (copy.dst + column) = source (copy.src + column) := by
  induction copies generalizing memory with
  | nil => cases hcopy
  | cons first copies ih =>
    obtain ⟨hlater, hrest⟩ := List.pairwise_cons.mp hpairwise
    rcases List.mem_cons.mp hcopy with rfl | hmem
    · change runAll source (run source memory copy) copies _ = _
      refine (runAll_of_outside fun other hother => ?_).trans ?_
      · have := hlater other hother
        omega
      · rw [run.eq_1, if_pos (by omega), Nat.add_sub_cancel_left]
    · exact ih hrest hmem

def swap (copy : ByteCopy) : ByteCopy := ⟨copy.src, copy.dst, copy.width⟩

/-- The same bytes copied there and back. -/
theorem runAll_swap {source memory target : Nat → α}
    (hthere : copies.Pairwise fun first second => first.dst + first.width ≤ second.dst)
    (hback : (copies.map swap).Pairwise fun first second => first.dst + first.width ≤ second.dst)
    (hcopy : copy ∈ copies) {column : Nat} (hcolumn : column < copy.width) :
    runAll (runAll source memory copies) target (copies.map swap) (copy.src + column) = source (copy.src + column) :=
  (runAll_of_mem hback (List.mem_map_of_mem hcopy) hcolumn).trans (runAll_of_mem hthere hcopy hcolumn)

end ByteCopy

end Nozomi
