import Mathlib.Data.List.Forall2
import Nozomi.Vdec.Demux.Code
import Nozomi.Vdec.Demux.StartCodes

/-!
# The descriptor table of a frame
-/

namespace Nozomi

/-- An entry of a descriptor table, read back from its first two words: bits 1 to 20 hold the offset in
units of eight bytes, bits 21 to 23 the bytes beyond them, the upper eight bits the suffix byte. -/
structure DemuxEntry where
  offset : Nat
  suffix : UInt8
  nalSize : Word
  deriving DecidableEq, Repr

def DemuxEntry.decode (desc nalSize : Word) : DemuxEntry where
  offset := 8 * (desc >>> 1 &&& 0xFFFFF#32).toNat + (desc >>> 21 &&& 7#32).toNat
  suffix := UInt8.ofNat (desc >>> 24).toNat
  nalSize := nalSize

def demuxEntries : List Word → List DemuxEntry
  | desc :: nalSize :: _ :: _ :: words => .decode desc nalSize :: demuxEntries words
  | _ => []

/-- The entry describes the start code of the data at the offset. -/
structure DemuxEntry.Describes (data : List UInt8) (start : Nat) (entry : DemuxEntry) : Prop where
  offset : entry.offset = start
  suffix : data[start + startCodeLength data start]? = some entry.suffix
  nalSize : entry.nalSize = BitVec.ofNat 32 (nextStartCode data start - start - 2)

def DecodeFrame.table (frame : DecodeFrame) : Option (List Word) :=
  frame.desc.map fun desc => desc.1.take (desc.2 / 4)

/-- The descriptors of a frame describe that frame, and were made without a look outside its bytes. -/
structure DecodeFrame.Described (codecType : CodecType) (frame : DecodeFrame) : Prop where
  table : ∀ words, frame.table = some words → ∃ entries,
    demuxEntries words = entries ++ demuxEntries (terminatorWords codecType) ∧
    List.Forall₂ (DemuxEntry.Describes frame.header.filled)
      (startCodes frame.header.filled) entries
  reads : ∀ index ∈ frame.reads,
    frame.header.nOffset ≤ index ∧ index < frame.header.nOffset + frame.header.nFilledLen

/-- A frame whose table comes out right. The table is made with bytes from `pBuffer` on instead of
`pBuffer + nOffset`; an offset of one byte makes up for the fourth byte taken there of a three-byte
code. -/
structure BufferHeader.Describable (header : BufferHeader) : Prop where
  base : ∀ offset ∈ startCodes header.filled,
    header.nOffset = 0 ∨ header.nOffset = 1 ∧ ¬ IsFourByteCode header.filled offset
  lastByte : header.filled.getLast? ≠ some 0
  followed : ∀ offset ∈ startCodes header.filled,
    offset + startCodeLength header.filled offset < header.nFilledLen
  count : (startCodes header.filled).length < 8192
  addressed : ∀ offset ∈ startCodes header.filled, offset < 2 ^ 23

instance (header : BufferHeader) : Decidable header.Describable :=
  decidable_of_iff
    ((∀ offset ∈ startCodes header.filled,
        header.nOffset = 0 ∨ header.nOffset = 1 ∧ ¬ IsFourByteCode header.filled offset) ∧
      header.filled.getLast? ≠ some 0 ∧
      (∀ offset ∈ startCodes header.filled,
        offset + startCodeLength header.filled offset < header.nFilledLen) ∧
      (startCodes header.filled).length < 8192 ∧
      ∀ offset ∈ startCodes header.filled, offset < 2 ^ 23)
    ⟨fun ⟨hbase, hlast, hfollowed, hcount, haddressed⟩ =>
        ⟨hbase, hlast, hfollowed, hcount, haddressed⟩,
      fun hheader => ⟨hheader.base, hheader.lastByte, hheader.followed, hheader.count,
        hheader.addressed⟩⟩

/-! ### OffsetScan -/

theorem compareBytes_reads {byteAt : Nat → UInt8} {values : List UInt8}
    (hzeros : ∀ value ∈ values.dropLast, value = 0) :
    ∀ index, ∀ read ∈ (compareBytes byteAt index values).2,
      index ≤ read ∧ ∀ other, index ≤ other → other < read → byteAt other = 0 := by
  induction values with
  | nil =>
    intro index read hread
    simp [compareBytes] at hread
  | cons value values ih =>
    intro index read hread
    have hself : read = index →
        index ≤ read ∧ ∀ other, index ≤ other → other < read → byteAt other = 0 := by
      intro hread
      exact ⟨by omega, fun other hleft hright => by omega⟩
    rw [compareBytes] at hread
    split at hread
    · rename_i hvalue
      obtain hread | hread := List.mem_cons.mp hread
      · exact hself hread
      cases values with
      | nil => simp [compareBytes] at hread
      | cons second values =>
        have hzero : value = 0 := hzeros value (by simp)
        obtain ⟨hle, hbytes⟩ := ih (fun other hother => hzeros other (by simp [hother])) _ _ hread
        refine ⟨by omega, fun other hleft hright => ?_⟩
        by_cases hfirst : other = index
        · rw [hfirst, hvalue, hzero]
        · exact hbytes other (by omega) hright
    · exact hself (List.mem_singleton.mp hread)

theorem compareBytes_fourByte (byteAt : Nat → UInt8) (index : Nat) :
    (compareBytes byteAt index [0x00, 0x00, 0x00, 0x01]).1 = true ↔
      byteAt index = 0 ∧ byteAt (index + 1) = 0 ∧ byteAt (index + 2) = 0 ∧ byteAt (index + 3) = 1 := by
  simp only [compareBytes]
  split_ifs <;> simp_all

theorem compareBytes_threeByte (byteAt : Nat → UInt8) (index : Nat) :
    (compareBytes byteAt index [0x00, 0x00, 0x01]).1 = true ↔
      byteAt index = 0 ∧ byteAt (index + 1) = 0 ∧ byteAt (index + 2) = 1 := by
  simp only [compareBytes]
  split_ifs <;> simp_all

namespace BufferHeader

variable {header : BufferHeader}

theorem filled_length (header : BufferHeader) : header.filled.length = header.nFilledLen := by
  rw [filled, List.length_map, List.length_range]

theorem zeros_inside (hlast : header.filled.getLast? ≠ some 0) {first last : Nat}
    (hfirst : first < header.nFilledLen)
    (hzeros : ∀ other, first ≤ other → other < last → header.byteAt other = 0) :
    last < header.nFilledLen := by
  by_contra hout
  apply hlast
  rw [List.getLast?_eq_getElem?, header.filled_getElem?, header.filled_length]
  exact ⟨by omega, hzeros _ (by omega) (by omega)⟩

theorem compareBytes_four (hlast : header.filled.getLast? ≠ some 0) {index : Nat}
    (hindex : index < header.nFilledLen) :
    (compareBytes header.byteAt index [0x00, 0x00, 0x00, 0x01]).1 = true ↔
      IsFourByteCode header.filled index := by
  simp only [compareBytes_fourByte, IsFourByteCode, header.filled_getElem?]
  constructor
  · rintro ⟨hfirst, hsecond, hthird, hfourth⟩
    have hinside : index + 3 < header.nFilledLen := by
      refine zeros_inside hlast hindex fun other hleft hright => ?_
      obtain rfl | rfl | rfl : other = index ∨ other = index + 1 ∨ other = index + 2 := by omega
      · exact hfirst
      · exact hsecond
      · exact hthird
    exact ⟨⟨hindex, hfirst⟩, ⟨by omega, hsecond⟩, ⟨by omega, hthird⟩, hinside, hfourth⟩
  · rintro ⟨⟨-, hfirst⟩, ⟨-, hsecond⟩, ⟨-, hthird⟩, -, hfourth⟩
    exact ⟨hfirst, hsecond, hthird, hfourth⟩

theorem compareBytes_three (hlast : header.filled.getLast? ≠ some 0) {index : Nat}
    (hindex : index < header.nFilledLen) :
    (compareBytes header.byteAt index [0x00, 0x00, 0x01]).1 = true ↔
      IsThreeByteCode header.filled index := by
  simp only [compareBytes_threeByte, IsThreeByteCode, header.filled_getElem?]
  constructor
  · rintro ⟨hfirst, hsecond, hthird⟩
    have hinside : index + 2 < header.nFilledLen := by
      refine zeros_inside hlast hindex fun other hleft hright => ?_
      obtain rfl | rfl : other = index ∨ other = index + 1 := by omega
      · exact hfirst
      · exact hsecond
    exact ⟨⟨hindex, hfirst⟩, ⟨by omega, hsecond⟩, hinside, hthird⟩
  · rintro ⟨⟨-, hfirst⟩, ⟨-, hsecond⟩, -, hthird⟩
    exact ⟨hfirst, hsecond, hthird⟩

theorem compareBytes_inside (hlast : header.filled.getLast? ≠ some 0) {values : List UInt8}
    (hzeros : ∀ value ∈ values.dropLast, value = 0) {index : Nat}
    (hindex : index < header.nFilledLen) :
    ∀ read ∈ (compareBytes header.byteAt index values).2, read < header.nFilledLen := by
  intro read hread
  obtain ⟨-, hbytes⟩ := compareBytes_reads hzeros index read hread
  exact zeros_inside hlast hindex hbytes

end BufferHeader

theorem BufferHeader.stride_eq (header : BufferHeader) {offset : Nat}
    (hstart : IsStartCode header.filled offset) :
    (if header.byteAt (offset + 2) = 0x01 then 3 else 4) = startCodeLength header.filled offset := by
  unfold startCodeLength
  split
  · rename_i hone
    rw [if_neg]
    intro hcode
    have := ((header.filled_getElem? _ _).mp hcode.2.2.1).2
    rw [hone] at this
    exact absurd this (by decide)
  · rename_i hone
    rw [if_pos]
    by_contra hcode
    exact hone ((header.filled_getElem? _ _).mp (hstart.resolve_left hcode).1.2.2).2

/-- What the loop has done when it comes to its index. -/
structure OffsetScan.Sound (header : BufferHeader) (loop : OffsetScan) : Prop where
  offsets : loop.mDemuxOffsets =
    ((List.range loop.index).filter (IsStartCode header.filled ·)).take 8192
  inside : loop.index ≤ header.nFilledLen
  reads : ∀ read ∈ loop.reads, read < header.nFilledLen
  fresh : IsThreeByteCode header.filled loop.index →
    loop.index = 0 ∨ header.filled[loop.index - 1]? ≠ some 0

theorem insertDemuxAddrOffset_take (offsets : List Nat) (offset : Nat) :
    insertDemuxAddrOffset (offsets.take 8192) offset = (offsets ++ [offset]).take 8192 := by
  rw [insertDemuxAddrOffset, List.length_take]
  split
  · have hshort : offsets.length < 8192 := by omega
    rw [List.take_of_length_le (by omega), List.take_of_length_le]
    rw [List.length_append, List.length_singleton]
    omega
  · rw [List.take_append_of_le_length (by omega)]

namespace OffsetScan.Sound

variable {header : BufferHeader} {loop : OffsetScan}

theorem hit (hsound : loop.Sound header) (hstart : IsStartCode header.filled loop.index)
    {reads : List Nat} (hreads : ∀ read ∈ reads, read < header.nFilledLen) :
    OffsetScan.Sound header
      { index := loop.index + startCodeLength header.filled loop.index
        mDemuxOffsets := insertDemuxAddrOffset loop.mDemuxOffsets loop.index
        reads := reads } := by
  obtain ⟨hone, hlength⟩ := hstart.ends
  refine ⟨?_, ?_, hreads, fun _ => Or.inr ?_⟩
  · rw [filter_range_hit (by omega) (by simpa using hstart)
      (fun other hleft hright => by simpa using hstart.not_inside hleft hright),
      ← insertDemuxAddrOffset_take, hsound.offsets]
  · have := (List.getElem?_eq_some_iff.mp hone).1
    rw [header.filled_length] at this
    simp only
    omega
  · simp only
    rw [hone]
    decide

theorem miss (hsound : loop.Sound header) (hindex : loop.index < header.nFilledLen)
    (hstart : ¬ IsStartCode header.filled loop.index)
    {reads : List Nat} (hreads : ∀ read ∈ reads, read < header.nFilledLen) :
    OffsetScan.Sound header { loop with index := loop.index + 1, reads := reads } := by
  refine ⟨?_, hindex, hreads, fun hthree => Or.inr fun hzero => hstart ?_⟩
  · rw [filter_range_skip (fun other hleft hright => ?_), hsound.offsets]
    obtain rfl : other = loop.index := by omega
    simpa using hstart
  · exact Or.inl ⟨by simpa using hzero, hthree⟩

theorem next (hlast : header.filled.getLast? ≠ some 0) (hsound : loop.Sound header)
    (hindex : loop.index < header.nFilledLen) : (loop.next header.byteAt).Sound header := by
  have hfour := header.compareBytes_four hlast hindex
  have hthree := header.compareBytes_three hlast hindex
  have hfourReads : ∀ read ∈ (compareBytes header.byteAt loop.index [0, 0, 0, 1]).2,
      read < header.nFilledLen := header.compareBytes_inside hlast (by simp) hindex
  have hthreeReads : ∀ read ∈ (compareBytes header.byteAt loop.index [0, 0, 1]).2,
      read < header.nFilledLen := header.compareBytes_inside hlast (by simp) hindex
  have hfound (hstart : IsStartCode header.filled loop.index) {reads : List Nat}
      (hreads : ∀ read ∈ reads, read < header.nFilledLen) :
      OffsetScan.Sound header
        { index := loop.index + if header.byteAt (loop.index + 2) = 0x01 then 3 else 4
          mDemuxOffsets := insertDemuxAddrOffset loop.mDemuxOffsets loop.index
          reads := loop.reads ++ reads ++ [loop.index + 2] } := by
    rw [header.stride_eq hstart]
    refine hsound.hit hstart fun read hread => ?_
    simp only [List.mem_append, List.mem_singleton] at hread
    obtain (hread | hread) | rfl := hread
    · exact hsound.reads read hread
    · exact hreads read hread
    · have := hstart.lt
      rwa [header.filled_length] at this
  rw [OffsetScan.next]
  by_cases hcode : IsFourByteCode header.filled loop.index
  · simp only [hfour.mpr hcode, if_true, List.append_nil]
    exact hfound (Or.inl hcode) hfourReads
  have hfalse := Bool.eq_false_iff.mpr (mt hfour.mp hcode)
  have hreads : ∀ read ∈ (compareBytes header.byteAt loop.index [0, 0, 0, 1]).2 ++
      (compareBytes header.byteAt loop.index [0, 0, 1]).2, read < header.nFilledLen := by
    intro read hread
    exact (List.mem_append.mp hread).elim (hfourReads read) (hthreeReads read)
  simp only [hfalse, Bool.false_eq_true, if_false, List.append_assoc loop.reads]
  by_cases hcode : IsThreeByteCode header.filled loop.index
  · rw [if_pos (hthree.mpr hcode)]
    simpa only [List.append_assoc] using hfound (Or.inr ⟨hcode, hsound.fresh hcode⟩) hreads
  · rw [if_neg (mt hthree.mp hcode)]
    refine hsound.miss hindex (fun hstart => ?_) fun read hread => ?_
    · exact hstart.elim ‹_› fun hother => hcode hother.1
    · exact (List.mem_append.mp hread).elim (hsound.reads read) (hreads read)

end OffsetScan.Sound

namespace BufferHeader

variable {header : BufferHeader}

theorem extraction_sound (hlast : header.filled.getLast? ≠ some 0) :
    header.extraction.Sound header ∧ header.extraction.index = header.nFilledLen := by
  have hstart : OffsetScan.Sound header ⟨0, [], []⟩ :=
    ⟨rfl, Nat.zero_le _, fun read hread => absurd hread List.not_mem_nil, fun _ => Or.inl rfl⟩
  have hbody : ∀ loop : OffsetScan, loop.Sound header → decide (loop.index < header.nFilledLen) = true →
      (loop.next header.byteAt).Sound header :=
    fun loop hsound htest => hsound.next hlast (of_decide_eq_true htest)
  have hsound := whileLoop_invariant hbody (header.nFilledLen + 1) _ hstart
  refine ⟨hsound, Nat.le_antisymm hsound.inside ?_⟩
  have hexit := whileLoop_exit (fun loop => header.nFilledLen - loop.index) hbody ?_
    (header.nFilledLen + 1) _ hstart (by simp only; omega)
  · exact Nat.le_of_not_lt (of_decide_eq_false hexit)
  · intro loop hsound htest
    have hindex := of_decide_eq_true htest
    have hmore : loop.index < (loop.next header.byteAt).index := by
      rw [OffsetScan.next]
      split_ifs <;> exact Nat.lt_add_of_pos_right (by decide)
    omega

theorem extractDemuxAddrOffsets_eq (hlast : header.filled.getLast? ≠ some 0) :
    (extractDemuxAddrOffsets header).1 = (startCodes header.filled).take 8192 ∧
      ∀ read ∈ (extractDemuxAddrOffsets header).2,
        header.nOffset ≤ read ∧ read < header.nOffset + header.nFilledLen := by
  obtain ⟨hsound, hindex⟩ := header.extraction_sound hlast
  constructor
  · have hoffsets := hsound.offsets
    rw [hindex, ← header.filled_length] at hoffsets
    exact hoffsets
  · intro read hread
    obtain ⟨index, hmem, rfl⟩ := List.mem_map.mp hread
    have := hsound.reads index hmem
    omega

end BufferHeader

/-! ### Entries -/

private theorem or_mul_two_pow {high low i : Nat} (hlow : low < 2 ^ i) :
    low ||| high * 2 ^ i = low + high * 2 ^ i := by
  rw [Nat.or_comm, Nat.mul_comm, ← Nat.two_pow_add_eq_or_of_lt hlow, Nat.add_comm]

theorem descData_toNat {offset : Nat} (hoffset : offset < 2 ^ 23) (suffix : UInt8) :
    (descData (BitVec.ofNat 32 offset) (BitVec.ofNat 32 suffix.toNat)).toNat =
      offset / 8 * 2 + offset % 8 * 2 ^ 21 + suffix.toNat * 2 ^ 24 := by
  have hsuffix := suffix.toNat_lt
  have hhigh : (BitVec.ofNat 32 offset >>> 3 <<< 1).toNat = offset / 8 * 2 := by
    simp only [BitVec.toNat_shiftLeft, BitVec.toNat_ushiftRight, BitVec.toNat_ofNat, Nat.shiftLeft_eq,
      Nat.shiftRight_eq_div_pow]
    omega
  have hlow : ((BitVec.ofNat 32 offset &&& 7#32) <<< 21).toNat = offset % 8 * 2 ^ 21 := by
    have hmask : (BitVec.ofNat 32 offset &&& 7#32).toNat = offset % 2 ^ 32 % 2 ^ 3 :=
      Nat.and_two_pow_sub_one_eq_mod _ 3
    simp only [BitVec.toNat_shiftLeft, hmask, Nat.shiftLeft_eq]
    omega
  have htop : (BitVec.ofNat 32 suffix.toNat <<< 24).toNat = suffix.toNat * 2 ^ 24 := by
    simp only [BitVec.toNat_shiftLeft, BitVec.toNat_ofNat, Nat.shiftLeft_eq]
    omega
  rw [descData, BitVec.toNat_or, BitVec.toNat_or, hhigh, hlow, htop,
    @or_mul_two_pow _ (offset / 8 * 2) 21 (by omega), or_mul_two_pow (by omega)]

theorem DemuxEntry.decode_descData {offset : Nat} (hoffset : offset < 2 ^ 23) (suffix : UInt8)
    (nalSize : Word) :
    DemuxEntry.decode (descData (BitVec.ofNat 32 offset) (BitVec.ofNat 32 suffix.toNat)) nalSize =
      ⟨offset, suffix, nalSize⟩ := by
  have hsuffix := suffix.toNat_lt
  have hword := descData_toNat hoffset suffix
  generalize descData (BitVec.ofNat 32 offset) (BitVec.ofNat 32 suffix.toNat) = desc at hword ⊢
  have hhigh : (desc >>> 1 &&& 0xFFFFF#32).toNat = offset / 8 := by
    have hmask : (desc >>> 1 &&& 0xFFFFF#32).toNat = (desc >>> 1).toNat % 2 ^ 20 :=
      Nat.and_two_pow_sub_one_eq_mod _ 20
    rw [hmask, BitVec.toNat_ushiftRight, Nat.shiftRight_eq_div_pow]
    omega
  have hlow : (desc >>> 21 &&& 7#32).toNat = offset % 8 := by
    have hmask : (desc >>> 21 &&& 7#32).toNat = (desc >>> 21).toNat % 2 ^ 3 :=
      Nat.and_two_pow_sub_one_eq_mod _ 3
    have hdiv : desc.toNat / 2 ^ 21 = offset % 8 + suffix.toNat * 8 := by omega
    rw [hmask, BitVec.toNat_ushiftRight, Nat.shiftRight_eq_div_pow, hdiv]
    omega
  have htop : (desc >>> 24).toNat = suffix.toNat := by
    rw [BitVec.toNat_ushiftRight, Nat.shiftRight_eq_div_pow]
    omega
  rw [decode, hhigh, hlow, htop, UInt8.ofNat_toNat, Nat.div_add_mod]

namespace BufferHeader

variable {header : BufferHeader}

theorem Describable.suffixIndex_eq (hheader : header.Describable) {offset : Nat}
    (hstart : IsStartCode header.filled offset) :
    header.suffixIndex offset = header.nOffset + (offset + startCodeLength header.filled offset) := by
  have hstride := header.stride_eq hstart
  obtain hbase | ⟨hbase, hcode⟩ := hheader.base offset (mem_startCodes.mpr hstart)
  · have hsame : header.bufferAt (offset + 2) = header.byteAt (offset + 2) := by
      rw [bufferAt, byteAt, hbase, Nat.zero_add]
    rw [suffixIndex, hsame, hbase, Nat.zero_add, ← hstride]
    split <;> rfl
  · have hzero : header.bufferAt (offset + 2) = 0 := by
      have := ((header.filled_getElem? _ _).mp hstart.zeros.2).2
      rwa [byteAt, hbase, show 1 + (offset + 1) = offset + 2 by omega] at this
    rw [suffixIndex, hzero, if_neg (by decide), hbase, startCodeLength, if_neg hcode]
    omega

theorem Describable.demuxWords_describes (hheader : header.Describable) {before offsets : List Nat}
    (hoffsets : startCodes header.filled = before ++ offsets) (words : List Word) :
    ∃ entries, demuxEntries (header.demuxWords offsets ++ words) = entries ++ demuxEntries words ∧
      List.Forall₂ (DemuxEntry.Describes header.filled) offsets entries := by
  induction offsets generalizing before with
  | nil => exact ⟨[], rfl, .nil⟩
  | cons offset offsets ih =>
    obtain ⟨entries, hentries, hdescribes⟩ :=
      @ih (before ++ [offset]) (by rw [hoffsets, List.append_assoc, List.singleton_append])
    have hmem : offset ∈ startCodes header.filled := by rw [hoffsets]; simp
    have hstart := mem_startCodes.mp hmem
    have hsuffix : header.filled[offset + startCodeLength header.filled offset]? =
        some (header.bufferAt (header.suffixIndex offset)) := by
      rw [header.filled_getElem?, hheader.suffixIndex_eq hstart]
      exact ⟨hheader.followed offset hmem, rfl⟩
    have hnext : offsets.head?.getD header.nFilledLen = nextStartCode header.filled offset := by
      have hordered := startCodes_pairwise header.filled
      rw [hoffsets] at hordered
      rw [nextStartCode, hoffsets, find?_later hordered, header.filled_length]
    have hsize : BitVec.ofNat 32 (nextStartCode header.filled offset) - BitVec.ofNat 32 offset - 2#32 =
        BitVec.ofNat 32 (nextStartCode header.filled offset - offset - 2) := by
      have hle := hstart.le_next
      apply BitVec.eq_of_toNat_eq
      simp only [BitVec.toNat_sub, BitVec.toNat_ofNat]
      omega
    refine ⟨⟨offset, header.bufferAt (header.suffixIndex offset),
      BitVec.ofNat 32 (nextStartCode header.filled offset - offset - 2)⟩ :: entries, ?_,
      .cons ⟨rfl, hsuffix, rfl⟩ hdescribes⟩
    rw [demuxWords, List.cons_append, List.cons_append, List.cons_append, List.cons_append,
      demuxEntries, hentries, DemuxEntry.decode_descData (hheader.addressed offset hmem), hnext, hsize,
      List.cons_append]

theorem Describable.demuxReads_inside (hheader : header.Describable) :
    ∀ read ∈ header.demuxReads (startCodes header.filled),
      header.nOffset ≤ read ∧ read < header.nOffset + header.nFilledLen := by
  intro read hread
  obtain ⟨offset, hmem, hread⟩ := List.mem_flatMap.mp hread
  have hstart := mem_startCodes.mp hmem
  have hfollowed := hheader.followed offset hmem
  have hlength := hstart.ends.2
  simp only [List.mem_cons, List.not_mem_nil, or_false] at hread
  obtain rfl | rfl := hread
  · obtain hbase | ⟨hbase, -⟩ := hheader.base offset hmem <;> omega
  · rw [hheader.suffixIndex_eq hstart]
    omega

theorem demuxWords_length (header : BufferHeader) (offsets : List Nat) :
    (header.demuxWords offsets).length = offsets.length * 4 := by
  induction offsets with
  | nil => rfl
  | cons offset offsets ih =>
    simp only [demuxWords, List.length_cons, ih]
    omega

end BufferHeader

theorem terminatorWords_length (codecType : CodecType) :
    (terminatorWords codecType).length = (if codecType = .vc1 then 1 else 0) * 4 := by
  cases codecType <;> rfl

theorem demuxEntries_terminatorWords (codecType : CodecType) :
    demuxEntries (terminatorWords codecType ++ [0#32]) = demuxEntries (terminatorWords codecType) := by
  cases codecType <;> rfl

/-! ### Frames -/

namespace DemuxState

variable {state : DemuxState} {index : Nat} {header : BufferHeader}

theorem exists_descBuffer (henabled : state.dmxEnabled index = true) :
    ∃ buffers memory size,
      state.mDescBufferPtr = some buffers ∧ buffers[index]? = some ⟨some memory, size⟩ := by
  simp only [dmxEnabled, descBuffer, Bool.and_eq_true, Option.any_eq_true,
    Option.bind_eq_some_iff] at henabled
  obtain ⟨-, ⟨bufAddr, size⟩, ⟨buffers, hbuffers, hbuffer⟩, hsome⟩ := henabled
  obtain ⟨memory, rfl⟩ := Option.isSome_iff_exists.mp hsome
  exact ⟨buffers, memory, size, hbuffers, hbuffer⟩

theorem handleDemuxData_eq {buffers : List DescBuffer} {memory : List Word} {size : Nat}
    (hbuffers : state.mDescBufferPtr = some buffers) (hbuffer : buffers[index]? = some ⟨some memory, size⟩)
    (hindex : index ≤ state.actualcount) (hcount : state.mDemuxOffsets.length < 8192) :
    let words := header.demuxWords state.mDemuxOffsets ++ terminatorWords state.codecType ++ [0#32]
    state.handleDemuxData index header =
      (.none, { state with
        mDescBufferPtr := some
          (buffers.set index ⟨some (words ++ memory.drop words.length), words.length * 4⟩)
        mDemuxOffsets := [] }, header.demuxReads state.mDemuxOffsets) := by
  have hlength : (header.demuxWords state.mDemuxOffsets ++ terminatorWords state.codecType ++
      [0#32]).length * 4 =
        (state.mDemuxOffsets.length + if state.codecType = .vc1 then 1 else 0) * 16 + 4 := by
    simp only [List.length_append, header.demuxWords_length, terminatorWords_length,
      List.length_singleton]
    omega
  have hroom : ¬ descBufferSize < state.mDemuxOffsets.length * 16 + 1 := by
    unfold descBufferSize
    omega
  intro words
  rw [handleDemuxData, if_neg (by simp [hbuffers]), if_neg (by omega), descBuffer, hbuffers,
    Option.bind_some, hbuffer, Option.bind_some]
  simp only [if_neg hroom, setDescBuffer, hbuffers, Option.map_some, words, hlength]

theorem describes_table (hheader : header.Describable) (codecType : CodecType) (memory : List Word)
    {reads : List Nat} (hreads : ∀ read ∈ reads,
      header.nOffset ≤ read ∧ read < header.nOffset + header.nFilledLen) :
    let words := header.demuxWords (startCodes header.filled) ++ terminatorWords codecType ++ [0#32]
    DecodeFrame.Described codecType
      ⟨header, some (words ++ memory.drop words.length, words.length * 4), reads⟩ := by
  intro words
  have hwords : words = header.demuxWords (startCodes header.filled) ++
      (terminatorWords codecType ++ [0#32]) := List.append_assoc _ _ _
  refine ⟨fun table htable => ?_, hreads⟩
  obtain ⟨entries, hentries, hdescribes⟩ := hheader.demuxWords_describes
    (List.nil_append _).symm (terminatorWords codecType ++ [0#32])
  refine ⟨entries, ?_, hdescribes⟩
  simp only [DecodeFrame.table, Option.map_some, Option.some.injEq,
    Nat.mul_div_cancel _ (show 0 < 4 by decide), List.take_left'] at htable
  rw [← htable, hwords, hentries, demuxEntries_terminatorWords]

theorem demuxFrame_described (hidle : state.mDemuxOffsets = []) (hindex : index ≤ state.actualcount)
    (hheader : state.dmxEnabled index = true → header.Describable) :
    (state.demuxFrame index header).1.mDemuxOffsets = [] ∧
      (state.demuxFrame index header).2.Described state.codecType := by
  rw [demuxFrame]
  split
  · rename_i henabled
    have hdescribable := hheader henabled
    obtain ⟨buffers, memory, size, hbuffers, hbuffer⟩ := exists_descBuffer henabled
    obtain ⟨hoffsets, hextracted⟩ := header.extractDemuxAddrOffsets_eq hdescribable.lastByte
    rw [List.take_of_length_le (Nat.le_of_lt hdescribable.count)] at hoffsets
    have hhandled := @handleDemuxData_eq { state with mDemuxOffsets := startCodes header.filled } index
      header buffers memory size hbuffers hbuffer hindex hdescribable.count
    have hlength : index < buffers.length := (List.getElem?_eq_some_iff.mp hbuffer).1
    simp only [extractOffsets, if_pos hidle, hoffsets, hhandled, descBuffer, Option.bind_some,
      List.getElem?_set_self hlength, Option.map_some, true_and]
    apply describes_table hdescribable
    intro read hread
    exact (List.mem_append.mp hread).elim (hextracted read) (hdescribable.demuxReads_inside read)
  · exact ⟨hidle, ⟨fun words hwords => by simp [DecodeFrame.table] at hwords,
      fun read hread => absurd hread List.not_mem_nil⟩⟩

/-! ### Runs -/

theorem handleDemuxData_keeps (state : DemuxState) (index : Nat) (header : BufferHeader) :
    (state.handleDemuxData index header).2.1.codecType = state.codecType ∧
      (state.handleDemuxData index header).2.1.frames = state.frames := by
  unfold handleDemuxData
  split
  · exact ⟨rfl, rfl⟩
  · split
    · exact ⟨rfl, rfl⟩
    · split
      · exact ⟨rfl, rfl⟩
      · split <;> exact ⟨rfl, rfl⟩

theorem demuxFrame_keeps (state : DemuxState) (index : Nat) (header : BufferHeader) :
    (state.demuxFrame index header).1.codecType = state.codecType ∧
      (state.demuxFrame index header).1.frames = state.frames := by
  have hextracted : (state.extractOffsets header).1.codecType = state.codecType ∧
      (state.extractOffsets header).1.frames = state.frames := by
    unfold extractOffsets
    split <;> exact ⟨rfl, rfl⟩
  have hhandled := (state.extractOffsets header).1.handleDemuxData_keeps index header
  unfold demuxFrame
  split
  · exact ⟨hhandled.1.trans hextracted.1, hhandled.2.trans hextracted.2⟩
  · exact ⟨rfl, rfl⟩

theorem checkBuffer_ok {call : InputCall} {buffer : BufferHeader}
    (hbuffer : state.checkBuffer call = .ok buffer) : call.nPortIndex ≤ state.actualcount := by
  unfold checkBuffer at hbuffer
  by_contra hindex
  cases hprivate : call.inputPortPrivate with
  | none => simp [hprivate] at hbuffer
  | some payload => simp [hprivate, show state.actualcount < call.nPortIndex by omega] at hbuffer

theorem checkBuffer_error {call : InputCall} {returned : ErrorType × DemuxState}
    (hreturned : state.checkBuffer call = .error returned) :
    returned.2.codecType = state.codecType ∧ returned.2.mDemuxOffsets = state.mDemuxOffsets ∧
      returned.2.frames = state.frames := by
  unfold checkBuffer at hreturned
  split at hreturned
  · obtain rfl := Except.error.inj hreturned
    exact ⟨rfl, rfl, rfl⟩
  · simp only at hreturned
    split_ifs at hreturned <;> obtain rfl := Except.error.inj hreturned <;> exact ⟨rfl, rfl, rfl⟩

def Regular (state : DemuxState) : DemuxAction → Prop
  | .emptyThisBufferProxy call =>
    match state.checkBuffer call with
    | .ok buffer => state.dmxEnabled call.nPortIndex = true → buffer.Describable
    | .error _ => True
  | _ => True

instance (state : DemuxState) : ∀ action, Decidable (state.Regular action)
  | .emptyThisBufferProxy call =>
    match hbuffer : state.checkBuffer call with
    | .ok buffer =>
      decidable_of_iff (state.dmxEnabled call.nPortIndex = true → buffer.Describable)
        (by simp only [Regular, hbuffer])
    | .error _ => isTrue (by simp only [Regular, hbuffer])
  | .allocateDescBuffer _ => isTrue trivial
  | .freeInputBuffer _ => isTrue trivial
  | .setActualcount _ => isTrue trivial
  | .inputFlush _ => isTrue trivial

/-- Nothing is left of earlier frames, and the table of each one describes it. -/
structure Sound (codecType : CodecType) (state : DemuxState) : Prop where
  codec : state.codecType = codecType
  idle : state.mDemuxOffsets = []
  frames : ∀ frame ∈ state.frames, frame.Described codecType

variable {codecType : CodecType}

theorem emptyThisBufferProxy_sound {call : InputCall}
    (hregular : state.Regular (.emptyThisBufferProxy call)) (hsound : state.Sound codecType) :
    (state.emptyThisBufferProxy call).2.Sound codecType := by
  unfold Regular at hregular
  unfold emptyThisBufferProxy
  cases hbuffer : state.checkBuffer call with
  | error returned =>
    obtain ⟨hcodec, hoffsets, hframes⟩ := checkBuffer_error hbuffer
    exact ⟨hcodec.trans hsound.codec, hoffsets.trans hsound.idle, by
      simpa only [hframes] using hsound.frames⟩
  | ok buffer =>
    simp only [hbuffer] at hregular
    have hindex := checkBuffer_ok hbuffer
    have hcounted : ({ state with pendingInputBuffers := state.pendingInputBuffers + 1 } : DemuxState).Sound
        codecType := ⟨hsound.codec, hsound.idle, hsound.frames⟩
    have hdescribed := @demuxFrame_described
      { state with pendingInputBuffers := state.pendingInputBuffers + 1 } _ buffer hsound.idle hindex
      hregular
    have hkeeps := demuxFrame_keeps
      { state with pendingInputBuffers := state.pendingInputBuffers + 1 } call.nPortIndex buffer
    dsimp only
    generalize demuxFrame _ _ _ = framed at hdescribed hkeeps ⊢
    have hframed : framed.1.Sound codecType :=
      ⟨hkeeps.1.trans hsound.codec, hdescribed.1, by simpa only [hkeeps.2] using hsound.frames⟩
    have hsent : ∀ reset : DemuxState, reset.Sound codecType →
        ({ reset with frames := reset.frames ++ [framed.2] } : DemuxState).Sound codecType := by
      intro reset hreset
      refine ⟨hreset.codec, hreset.idle, fun frame hframe => ?_⟩
      obtain hframe | hframe := List.mem_append.mp hframe
      · exact hreset.frames frame hframe
      · obtain rfl := List.mem_singleton.mp hframe
        exact hsound.codec ▸ hdescribed.2
    have hreset : (if buffer.nFilledLen = 0 || buffer.hasEos then
        { framed.1 with mDemuxOffsets := [] } else framed.1).Sound codecType := by
      split
      · exact ⟨hframed.codec, rfl, hframed.frames⟩
      · exact hframed
    cases hioctl : call.ioctl with
    | true => exact hsent _ hreset
    | false =>
      have hlast := hsent _ hreset
      exact ⟨hlast.codec, hlast.idle, hlast.frames⟩

theorem step_sound {action : DemuxAction} {next : DemuxState} (hregular : state.Regular action)
    (hsound : state.Sound codecType) (hnext : state.step action = some next) : next.Sound codecType := by
  cases action with
  | emptyThisBufferProxy call =>
    obtain rfl := Option.some.inj hnext
    exact emptyThisBufferProxy_sound hregular hsound
  | allocateDescBuffer index =>
    obtain rfl := Option.some.inj hnext
    unfold allocateDescBuffer
    split
    · exact hsound
    · exact ⟨hsound.codec, hsound.idle, hsound.frames⟩
  | freeInputBuffer index =>
    obtain rfl := Option.some.inj hnext
    unfold freeInputBuffer
    split_ifs
    · exact hsound
    · exact ⟨hsound.codec, hsound.idle, hsound.frames⟩
    · exact hsound
  | setActualcount actualcount | inputFlush inProgress =>
    obtain rfl := Option.some.inj hnext
    exact ⟨hsound.codec, hsound.idle, hsound.frames⟩

/-- In a run that sends only such frames, every table that goes to the driver describes its frame, and no
byte outside the frame is read for it. -/
theorem init_run_described {disableDmx inputUseBuffer : Bool} {actualcount : Nat}
    {actions : List DemuxAction} {last : DemuxState}
    (hregular : RunMeets step Regular (init codecType disableDmx inputUseBuffer actualcount) actions)
    (hrun : runSteps step (init codecType disableDmx inputUseBuffer actualcount) actions = some last) :
    ∀ frame ∈ last.frames, frame.Described codecType := by
  have hinit : (init codecType disableDmx inputUseBuffer actualcount).Sound codecType :=
    ⟨rfl, rfl, fun frame hframe => absurd hframe List.not_mem_nil⟩
  have hlast := runSteps_state_of_meets (Sound codecType)
    (fun state action next => step_sound) hregular hinit hrun
  exact hlast.frames

def frameCall (buffer : BufferHeader) : DemuxAction :=
  .emptyThisBufferProxy ⟨0, buffer, .blank 0, some 0, false, true⟩

def sampleFrames : List DemuxAction :=
  [.allocateDescBuffer 0,
    frameCall (.ofBytes [0, 0, 0, 1, 0x65, 0x88, 0, 0, 1, 0x65, 0x40]),
    frameCall ⟨[9, 0, 0, 1, 0x41, 0x9A], 6, 1, 5, 0, 0⟩,
    frameCall ⟨[], 0, 0, 0, 0, bufferFlagEos⟩]

theorem init_run_described_sample : ∃ last,
    runSteps step (init .h264 true false 1) sampleFrames = some last ∧
      last.frames.map (fun frame => (frame.table.map demuxEntries).getD []) =
        [[⟨0, 0x65, 4⟩, ⟨6, 0x65, 3⟩], [⟨0, 0x41, 3⟩], []] ∧
      ∀ frame ∈ last.frames, frame.Described .h264 :=
  ⟨_, rfl, by decide,
    @init_run_described .h264 true false 1 sampleFrames _ (by decide) rfl⟩

/-- A four-byte start code behind one byte of the buffer: the last byte of the start code is taken for the
byte that follows it. -/
theorem not_described_offset : ∃ last,
    runSteps step (init .h264 true false 1)
        [.allocateDescBuffer 0, frameCall ⟨[9, 0, 0, 0, 1, 0x65, 0x88], 7, 1, 6, 0, 0⟩] = some last ∧
      ¬ ∀ frame ∈ last.frames, frame.Described .h264 := by
  refine ⟨_, rfl, fun hdescribed => ?_⟩
  obtain ⟨htable, -⟩ := hdescribed _ (List.mem_singleton_self _)
  obtain ⟨entries, hentries, hall⟩ := htable _ rfl
  have hentry : entries = [⟨0, 0x01, 4⟩] :=
    (List.append_nil entries).symm.trans (hentries.symm.trans (by decide))
  rw [show startCodes _ = [0] by decide, hentry] at hall
  have hsuffix := (List.forall₂_cons.mp hall).1.suffix
  exact absurd hsuffix (by decide)

end DemuxState

end Nozomi
