import Nozomi.Base.Scan
import Nozomi.Vdec.Buffer

/-!
# Start codes of a buffer

The start codes of a frame, said without a scan: `00 00 00 01`, or `00 00 01` with no zero byte before
it. Neither overlaps another one.
-/

namespace Nozomi

def BufferHeader.filled (header : BufferHeader) : List UInt8 :=
  (List.range header.nFilledLen).map header.byteAt

theorem BufferHeader.filled_eq_contents {header : BufferHeader} (hvalid : header.Valid) :
    header.filled = header.contents := by
  have hlength := contents_length hvalid
  apply List.ext_getElem
  · rw [hlength, filled, List.length_map, List.length_range]
  · intro index hleft hright
    have hmemory : header.nOffset + index < header.pBuffer.length := by
      have := hvalid.alloc
      have := hvalid.fits
      omega
    simp only [filled, List.getElem_map, List.getElem_range, byteAt, contents, read,
      List.getElem_take, List.getElem_drop, List.getD_eq_getElem _ _ hmemory]

theorem BufferHeader.filled_getElem? (header : BufferHeader) (index : Nat) (value : UInt8) :
    header.filled[index]? = some value ↔
      index < header.nFilledLen ∧ header.byteAt index = value := by
  simp only [filled, List.getElem?_map, Option.map_eq_some_iff, List.getElem?_eq_some_iff,
    List.length_range, List.getElem_range]
  constructor
  · rintro ⟨_, ⟨hlt, rfl⟩, hvalue⟩
    exact ⟨hlt, hvalue⟩
  · rintro ⟨hlt, hvalue⟩
    exact ⟨index, ⟨hlt, rfl⟩, hvalue⟩

section

variable (data : List UInt8)

def IsThreeByteCode (offset : Nat) : Prop :=
  data[offset]? = some 0 ∧ data[offset + 1]? = some 0 ∧ data[offset + 2]? = some 1

def IsFourByteCode (offset : Nat) : Prop :=
  data[offset]? = some 0 ∧ data[offset + 1]? = some 0 ∧ data[offset + 2]? = some 0 ∧
    data[offset + 3]? = some 1

instance (offset : Nat) : Decidable (IsThreeByteCode data offset) := by
  unfold IsThreeByteCode
  infer_instance

instance (offset : Nat) : Decidable (IsFourByteCode data offset) := by
  unfold IsFourByteCode
  infer_instance

def IsStartCode (offset : Nat) : Prop :=
  IsFourByteCode data offset ∨
    IsThreeByteCode data offset ∧ (offset = 0 ∨ data[offset - 1]? ≠ some 0)

instance (offset : Nat) : Decidable (IsStartCode data offset) := by
  unfold IsStartCode
  infer_instance

def startCodeLength (offset : Nat) : Nat := if IsFourByteCode data offset then 4 else 3

def startCodes : List Nat := (List.range data.length).filter (IsStartCode data ·)

def nextStartCode (offset : Nat) : Nat := ((startCodes data).find? (offset < ·)).getD data.length

end

variable {data : List UInt8} {offset : Nat}

theorem IsStartCode.zeros (hstart : IsStartCode data offset) :
    data[offset]? = some 0 ∧ data[offset + 1]? = some 0 := by
  obtain ⟨hfirst, hsecond, -⟩ | ⟨⟨hfirst, hsecond, -⟩, -⟩ := hstart <;> exact ⟨hfirst, hsecond⟩

theorem IsStartCode.lt (hstart : IsStartCode data offset) : offset + 2 < data.length := by
  obtain ⟨-, -, hthird, -⟩ | ⟨⟨-, -, hthird⟩, -⟩ := hstart <;>
    exact (List.getElem?_eq_some_iff.mp hthird).1

theorem mem_startCodes : offset ∈ startCodes data ↔ IsStartCode data offset := by
  simp only [startCodes, List.mem_filter, List.mem_range, decide_eq_true_eq, and_iff_right_iff_imp]
  intro hstart
  have := hstart.lt
  omega

theorem startCodes_pairwise (data : List UInt8) : (startCodes data).Pairwise (· < ·) :=
  List.Pairwise.filter _ List.pairwise_lt_range

theorem IsStartCode.ends (hstart : IsStartCode data offset) :
    data[offset + startCodeLength data offset - 1]? = some 1 ∧ 3 ≤ startCodeLength data offset := by
  unfold startCodeLength
  split
  · exact ⟨‹IsFourByteCode data offset›.2.2.2, by omega⟩
  · exact ⟨(hstart.resolve_left ‹_›).1.2.2, by omega⟩

theorem IsStartCode.not_inside (hstart : IsStartCode data offset) {other : Nat}
    (hleft : offset < other) (hright : other < offset + startCodeLength data offset) :
    ¬ IsStartCode data other := by
  intro hother
  obtain ⟨hzero, hnext⟩ := hother.zeros
  unfold startCodeLength at hright
  split at hright
  · rename_i hfour
    obtain ⟨-, hsecond, hthird, hone⟩ := hfour
    obtain rfl | rfl | rfl : other = offset + 1 ∨ other = offset + 2 ∨ other = offset + 3 := by omega
    · obtain hinner | ⟨-, hfirst | hbefore⟩ := hother
      · have := hone.symm.trans hinner.2.2.1
        simp at this
      · omega
      · exact hbefore hstart.zeros.1
    · have := hone.symm.trans hnext
      simp at this
    · have := hone.symm.trans hzero
      simp at this
  · rename_i hfour
    obtain ⟨-, hsecond, hone⟩ := (hstart.resolve_left hfour).1
    obtain rfl | rfl : other = offset + 1 ∨ other = offset + 2 := by omega
    · have := hone.symm.trans hnext
      simp at this
    · have := hone.symm.trans hzero
      simp at this

theorem IsStartCode.le_next (hstart : IsStartCode data offset) :
    offset + 3 ≤ nextStartCode data offset := by
  have hlength := hstart.ends.2
  rw [nextStartCode]
  cases hnext : (startCodes data).find? (offset < ·) with
  | none => exact hstart.lt
  | some next =>
    have hlater : offset < next := by simpa using List.find?_some hnext
    have hother := mem_startCodes.mp (List.mem_of_find?_eq_some hnext)
    by_contra hinside
    rw [Option.getD_some] at hinside
    exact hstart.not_inside hlater (by omega) hother

end Nozomi
