import Nozomi.Vdec.Demux.Table

/-!
# The size of a descriptor table

`handle_demux_data` tests once, in front of its loop, whether the entries of a frame fit the buffer. A table
for VC-1 has an entry more than that, and every table ends with a word of zeros.
-/

namespace Nozomi

/-! ### Frames of start codes -/

def codesOnly (count : Nat) : List UInt8 :=
  (List.range (3 * count)).map fun index => if index % 3 = 2 then 1 else 0

theorem codesOnly_getElem? (count index : Nat) (value : UInt8) :
    (codesOnly count)[index]? = some value ↔
      index < 3 * count ∧ (if index % 3 = 2 then 1 else 0) = value := by
  simp only [codesOnly, List.getElem?_map, Option.map_eq_some_iff, List.getElem?_eq_some_iff,
    List.length_range, List.getElem_range]
  constructor
  · rintro ⟨_, ⟨hlt, rfl⟩, hvalue⟩
    exact ⟨hlt, hvalue⟩
  · rintro ⟨hlt, hvalue⟩
    exact ⟨index, ⟨hlt, rfl⟩, hvalue⟩

theorem isStartCode_codesOnly {count offset : Nat} (hoffset : offset < 3 * count) :
    IsStartCode (codesOnly count) offset ↔ offset % 3 = 0 := by
  constructor
  · intro hstart
    obtain ⟨hfirst, hsecond⟩ := hstart.zeros
    have hzero := ((codesOnly_getElem? count offset 0).mp hfirst).2
    have hnext := ((codesOnly_getElem? count (offset + 1) 0).mp hsecond).2
    have hne : offset % 3 ≠ 2 := fun heq => by simp [heq] at hzero
    have hne' : (offset + 1) % 3 ≠ 2 := fun heq => by simp [heq] at hnext
    omega
  · intro hmod
    refine .inr ⟨⟨?_, ?_, ?_⟩, ?_⟩
    · exact (codesOnly_getElem? _ _ _).mpr ⟨hoffset, if_neg (by omega)⟩
    · exact (codesOnly_getElem? _ _ _).mpr ⟨by omega, if_neg (by omega)⟩
    · exact (codesOnly_getElem? _ _ _).mpr ⟨by omega, if_pos (by omega)⟩
    · by_cases hzero : offset = 0
      · exact .inl hzero
      · refine .inr fun hbefore => ?_
        have hvalue := ((codesOnly_getElem? _ _ _).mp hbefore).2
        rw [if_pos (by omega)] at hvalue
        exact absurd hvalue (by decide)

theorem length_filter_multiples (count : Nat) :
    ((List.range (3 * count)).filter fun index => index % 3 = 0).length = count := by
  induction count with
  | zero => rfl
  | succ count ih =>
    have hparts : List.range (3 * (count + 1)) =
        List.range (3 * count) ++ [3 * count, 3 * count + 1, 3 * count + 2] := by
      rw [Nat.mul_add, List.range_add]
      rfl
    rw [hparts, List.filter_append, List.length_append, ih]
    simp

theorem length_startCodes_codesOnly (count : Nat) : (startCodes (codesOnly count)).length = count := by
  have hlength : (codesOnly count).length = 3 * count := by simp [codesOnly]
  rw [startCodes, hlength]
  have hsame : (List.range (3 * count)).filter (IsStartCode (codesOnly count) ·) =
      (List.range (3 * count)).filter fun index => index % 3 = 0 := by
    refine List.filter_congr fun index hindex => ?_
    exact decide_eq_decide.mpr (isStartCode_codesOnly (List.mem_range.mp hindex))
  rw [hsame, length_filter_multiples]

theorem length_extract_codesOnly {count : Nat} (hcount : count ≤ 8192) :
    (extractDemuxAddrOffsets (.ofBytes (codesOnly count))).1.length = count := by
  have hlength : (codesOnly count).length = 3 * count := by
    rw [codesOnly, List.length_map, List.length_range]
  have hfilled : (BufferHeader.ofBytes (codesOnly count)).filled = codesOnly count := by
    rw [BufferHeader.filled_eq_contents (BufferHeader.ofBytes_valid (by omega))]
    exact List.take_of_length_le (Nat.le_refl _)
  have hlast : (BufferHeader.ofBytes (codesOnly count)).filled.getLast? ≠ some 0 := by
    rw [hfilled, List.getLast?_eq_getElem?, hlength]
    intro hzero
    obtain ⟨hlt, hvalue⟩ := (codesOnly_getElem? count _ 0).mp hzero
    rw [if_pos (by omega)] at hvalue
    exact absurd hvalue (by decide)
  rw [(BufferHeader.extractDemuxAddrOffsets_eq hlast).1, hfilled, List.length_take,
    length_startCodes_codesOnly, Nat.min_eq_right hcount]

/-! ### What is written -/

namespace DemuxState

variable (state : DemuxState) (index : Nat) (header : BufferHeader)

def tableWords : List Word :=
  header.demuxWords state.mDemuxOffsets ++ terminatorWords state.codecType ++ [0#32]

def HasTable : Prop :=
  index ≤ state.actualcount ∧ (state.descBuffer index).any (·.bufAddr.isSome) = true

/-- `handle_demux_data` writes nothing at all, or a table that ends inside the descriptor buffer and has the
size that is reported. -/
def TableInside : Prop :=
  (state.handleDemuxData index header).2.1 = state ∨
    4 * (state.tableWords header).length ≤ descBufferSize ∧
      ∃ memory size, state.descBuffer index = some ⟨some memory, size⟩ ∧
        (state.handleDemuxData index header).2.1.descBuffer index =
          some ⟨some (state.tableWords header ++ memory.drop (state.tableWords header).length),
            4 * (state.tableWords header).length⟩

theorem length_tableWords : 4 * (state.tableWords header).length =
    16 * (state.mDemuxOffsets.length + if state.codecType = .vc1 then 1 else 0) + 4 := by
  simp only [tableWords, List.length_append, BufferHeader.demuxWords_length, terminatorWords_length,
    List.length_singleton]
  omega

theorem handleDemuxData_refused (hrefused : ¬(state.HasTable index ∧ state.mDemuxOffsets.length < 8192)) :
    (state.handleDemuxData index header).2.1 = state := by
  rw [handleDemuxData]
  split
  · rfl
  split
  · rfl
  next hindex =>
    cases hmemory : (state.descBuffer index).bind DescBuffer.bufAddr with
    | none => rfl
    | some memory =>
      obtain ⟨buffer, hbuffer, haddr⟩ := Option.bind_eq_some_iff.mp hmemory
      have htable : state.HasTable index := ⟨by omega, by simp [hbuffer, haddr]⟩
      have hcount : ¬state.mDemuxOffsets.length < 8192 := fun hlt => hrefused ⟨htable, hlt⟩
      have hroom : descBufferSize < state.mDemuxOffsets.length * 16 + 1 := by
        unfold descBufferSize
        omega
      dsimp only
      rw [if_pos hroom]

theorem handleDemuxData_table (htable : state.HasTable index) (hcount : state.mDemuxOffsets.length < 8192) :
    (state.handleDemuxData index header).2.1.mDemuxOffsets = [] ∧
      ∃ memory size, state.descBuffer index = some ⟨some memory, size⟩ ∧
        (state.handleDemuxData index header).2.1.descBuffer index =
          some ⟨some (state.tableWords header ++ memory.drop (state.tableWords header).length),
            4 * (state.tableWords header).length⟩ := by
  obtain ⟨hindex, hsome⟩ := htable
  obtain ⟨⟨bufAddr, size⟩, hbuffer, haddr⟩ := (Option.any_eq_true _ _).mp hsome
  obtain ⟨memory, rfl⟩ := Option.isSome_iff_exists.mp haddr
  obtain ⟨buffers, hbuffers, hmember⟩ := Option.bind_eq_some_iff.mp hbuffer
  have hlength : index < buffers.length := (List.getElem?_eq_some_iff.mp hmember).1
  rw [@handleDemuxData_eq state index header buffers memory size hbuffers hmember hindex hcount]
  refine ⟨rfl, memory, size, hbuffer, ?_⟩
  rw [descBuffer, Option.bind_some, List.getElem?_set_self hlength, Nat.mul_comm]
  rfl

/-- The one test in front of the loop keeps every table inside its buffer, but for that of 8191 start codes
and the VC-1 terminator. -/
theorem handleDemuxData_inside_iff :
    state.TableInside index header ↔
      (state.HasTable index → state.codecType = .vc1 → state.mDemuxOffsets.length ≠ 8191) := by
  have hlength := state.length_tableWords header
  by_cases hwritten : state.HasTable index ∧ state.mDemuxOffsets.length < 8192
  · obtain ⟨htable, hcount⟩ := hwritten
    obtain ⟨hused, hmemory⟩ := state.handleDemuxData_table index header htable hcount
    constructor
    · rintro (hsame | ⟨hfits, -⟩) - hcodec hfull
      · rw [hsame] at hused
        rw [hused] at hfull
        exact absurd hfull (by decide)
      · rw [hlength, if_pos hcodec, hfull] at hfits
        exact absurd hfits (by decide)
    · intro hnot
      refine .inr ⟨?_, hmemory⟩
      rw [hlength, descBufferSize]
      split
      next hcodec =>
        have := hnot htable hcodec
        omega
      next => omega
  · refine iff_of_true (.inl (state.handleDemuxData_refused index header hwritten)) ?_
    intro htable _ hfull
    exact hwritten ⟨htable, by omega⟩

theorem not_inside_of_count {frame : BufferHeader} (hcount : (extractDemuxAddrOffsets frame).1.length = 8191) :
    ¬(((init .vc1 true false 1).allocateDescBuffer 0).extractOffsets frame).1.TableInside 0 frame := by
  have hoffsets : (((init .vc1 true false 1).allocateDescBuffer 0).extractOffsets frame).1.mDemuxOffsets =
      (extractDemuxAddrOffsets frame).1 := rfl
  have hcodec : (((init .vc1 true false 1).allocateDescBuffer 0).extractOffsets frame).1.codecType = .vc1 := rfl
  obtain ⟨hused, -⟩ := handleDemuxData_table (((init .vc1 true false 1).allocateDescBuffer 0).extractOffsets
    frame).1 0 frame ⟨Nat.zero_le _, rfl⟩ (by rw [hoffsets]; omega)
  rintro (hsame | ⟨hfits, -⟩)
  · rw [hsame, hoffsets] at hused
    rw [hused] at hcount
    exact absurd hcount (by decide)
  · rw [length_tableWords, hoffsets, hcount, if_pos hcodec] at hfits
    exact absurd hfits (by decide)

/-- The table of a VC-1 frame of 8191 start codes ends four bytes behind its buffer. -/
theorem codesOnly_not_inside : ∃ last,
    runSteps step (init .vc1 true false 1) [.allocateDescBuffer 0] = some last ∧
      ¬(last.extractOffsets (.ofBytes (codesOnly 8191))).1.TableInside 0 (.ofBytes (codesOnly 8191)) :=
  ⟨(init .vc1 true false 1).allocateDescBuffer 0, rfl,
    not_inside_of_count (length_extract_codesOnly (by decide))⟩

end DemuxState

end Nozomi
