import Nozomi.Display.Copybit.Surfaces
import Nozomi.Display.Gralloc.Ycbcr

/-!
# Copies between the formats of Android and of C2D

`software_converter.cpp` copies the rows of an image between a buffer of gralloc and a temporary buffer of the device,
whose strides are larger. An `int`, an address and a `size_t` are words of 32 bits; a copy is named by the positions
behind the bases of its buffers.
-/

namespace Nozomi.Copybit

/-! ### The copies -/

/-- `struct copyInfo`. -/
structure CopyInfo where
  width : BitVec 32
  height : BitVec 32
  srcStride : BitVec 32
  dstStride : BitVec 32
  planeWidth : BitVec 32
  planeHeight : BitVec 32
  srcPlaneStride : BitVec 32
  dstPlaneStride : BitVec 32
  srcPlaneOffset : BitVec 32
  dstPlaneOffset : BitVec 32
  deriving DecidableEq, Repr

def rowCopies (srcOffset dstOffset srcStride dstStride width height : BitVec 32) : List ByteCopy :=
  (List.range height.toInt.toNat).map fun i =>
    ⟨(dstOffset + BitVec.ofNat 32 i * dstStride).toNat, (srcOffset + BitVec.ofNat 32 i * srcStride).toNat, width.toNat⟩

def CopyInfo.copies (info : CopyInfo) : List ByteCopy :=
  rowCopies 0 0 info.srcStride info.dstStride info.width info.height ++
    rowCopies info.srcPlaneOffset info.dstPlaneOffset info.srcPlaneStride info.dstPlaneStride info.planeWidth
      info.planeHeight

def copySourceToDestination (srcBase dstBase : BitVec 32) (info : CopyInfo) : Option (List ByteCopy) :=
  if srcBase = 0 ∨ dstBase = 0 then none else some info.copies

/-- The `switch` of both functions, with the alignments of the strides of both sides. -/
def copyInfo (format : PixelFormat) (width height srcStride dstStride srcAlign dstAlign : BitVec 32) :
    Option CopyInfo :=
  match format with
  | .ycbcr420Sp | .ycrcb420Sp =>
    some ⟨width, height, srcStride, dstStride, width, height.sdiv 2, srcStride, dstStride, srcStride * height,
      dstStride * height⟩
  | .nv12Encodeable =>
    some ⟨width, height, srcStride, dstStride, width, height.sdiv 2, srcStride, dstStride,
      alignUp (srcStride * height) 2048, alignUp (dstStride * height) 2048⟩
  | .yv12 =>
    some ⟨width, height, srcStride, dstStride, width.sdiv 2, height, alignUp (width.sdiv 2) srcAlign,
      alignUp (width.sdiv 2) dstAlign, srcStride * height, dstStride * height⟩
  | _ => none

def convertYuvC2dToYuvAndroid (base w h : BitVec 32) (format : PixelFormat) (dstHnd : Gralloc.PrivateHandle) :
    Option (List ByteCopy) :=
  (copyInfo format w h (alignUp w 32) (alignUp w 16) 32 16).bind (copySourceToDestination base dstHnd.base)

def convertYuvAndroidToYuvC2d (hnd : Gralloc.PrivateHandle) (w h : BitVec 32) (format : PixelFormat)
    (dstBase : BitVec 32) : Option (List ByteCopy) :=
  (copyInfo format w h (alignUp hnd.width 16) (alignUp w 32) 16 32).bind (copySourceToDestination hnd.base dstBase)

/-! ### There and back -/

namespace CopyInfo

variable {info : CopyInfo} {size : Nat}

def swap (info : CopyInfo) : CopyInfo :=
  { info with
    srcStride := info.dstStride
    dstStride := info.srcStride
    srcPlaneStride := info.dstPlaneStride
    dstPlaneStride := info.srcPlaneStride
    srcPlaneOffset := info.dstPlaneOffset
    dstPlaneOffset := info.srcPlaneOffset }

theorem swap_copies (info : CopyInfo) : info.swap.copies = info.copies.map ByteCopy.swap := by
  simp only [copies, rowCopies, List.map_append, List.map_map]
  rfl

/-- The rows of the destination are apart and in a buffer. -/
structure Fits (info : CopyInfo) (size : Nat) : Prop where
  height_lt : info.height.toNat < 2 ^ 31
  planeHeight_lt : info.planeHeight.toNat < 2 ^ 31
  width_le : info.width.toNat ≤ info.dstStride.toNat
  planeWidth_le : info.planeWidth.toNat ≤ info.dstPlaneStride.toNat
  luma_le : info.dstStride.toNat * info.height.toNat ≤ info.dstPlaneOffset.toNat
  plane_le : info.dstPlaneOffset.toNat + info.dstPlaneStride.toNat * info.planeHeight.toNat ≤ size
  size_lt : size < 2 ^ 32

theorem toNat_row {offset stride height : BitVec 32} (hfits : offset.toNat + stride.toNat * height.toNat < 2 ^ 32)
    {row : Nat} (hrow : row < height.toNat) :
    (offset + BitVec.ofNat 32 row * stride).toNat = offset.toNat + row * stride.toNat ∧
      row * stride.toNat + stride.toNat ≤ stride.toNat * height.toNat := by
  have hend : (row + 1) * stride.toNat ≤ height.toNat * stride.toNat := Nat.mul_le_mul_right _ hrow
  rw [Nat.succ_mul, Nat.mul_comm height.toNat] at hend
  have hlt := height.isLt
  rw [BitVec.toNat_add, BitVec.toNat_mul, BitVec.toNat_ofNat, Nat.mod_eq_of_lt (a := row) (by omega),
    Nat.mod_eq_of_lt (a := row * stride.toNat) (by omega), Nat.mod_eq_of_lt (by omega)]
  exact ⟨rfl, hend⟩

section

variable {srcOffset dstOffset srcStride dstStride width height : BitVec 32}

theorem lt_of_pos {word : BitVec 32} (hpositive : 0 < word.toInt) : 0 < word.toNat ∧ word.toNat < 2 ^ 31 := by
  rw [BitVec.toInt_eq_toNat_cond] at hpositive
  split at hpositive <;> omega

theorem toInt_toNat (hheight : height.toNat < 2 ^ 31) : height.toInt.toNat = height.toNat := by
  rw [BitVec.toInt_eq_toNat_of_lt (by omega), Int.toNat_natCast]

/-- The rows lie between the start of the plane and its end. -/
theorem rowCopies_bounds (hheight : height.toNat < 2 ^ 31) (hwidth : width.toNat ≤ dstStride.toNat)
    (hfits : dstOffset.toNat + dstStride.toNat * height.toNat < 2 ^ 32) {copy : ByteCopy}
    (hcopy : copy ∈ rowCopies srcOffset dstOffset srcStride dstStride width height) :
    dstOffset.toNat ≤ copy.dst ∧ copy.dst + copy.width ≤ dstOffset.toNat + dstStride.toNat * height.toNat := by
  obtain ⟨row, hrow, rfl⟩ := List.mem_map.mp hcopy
  rw [List.mem_range, toInt_toNat hheight] at hrow
  obtain ⟨hplace, hend⟩ := toNat_row hfits hrow
  simp only [hplace]
  omega

theorem rowCopies_pairwise (hheight : height.toNat < 2 ^ 31) (hwidth : width.toNat ≤ dstStride.toNat)
    (hfits : dstOffset.toNat + dstStride.toNat * height.toNat < 2 ^ 32) :
    (rowCopies srcOffset dstOffset srcStride dstStride width height).Pairwise
      fun first second => first.dst + first.width ≤ second.dst := by
  rw [rowCopies, List.pairwise_map]
  refine List.Pairwise.imp_of_mem (fun {first second} hfirst hsecond hless => ?_) List.pairwise_lt_range
  rw [List.mem_range, toInt_toNat hheight] at hfirst hsecond
  have hstep : (first + 1) * dstStride.toNat ≤ second * dstStride.toNat := Nat.mul_le_mul_right _ hless
  rw [Nat.succ_mul] at hstep
  simp only [(toNat_row hfits hfirst).1, (toNat_row hfits hsecond).1]
  omega

end

theorem Fits.luma_lt (hfits : info.Fits size) :
    (0 : BitVec 32).toNat + info.dstStride.toNat * info.height.toNat < 2 ^ 32 := by
  obtain ⟨-, -, -, -, hluma, hplane, hsize⟩ := hfits
  change 0 + _ < _
  omega

theorem Fits.bounds (hfits : info.Fits size) {copy : ByteCopy} (hcopy : copy ∈ info.copies) :
    copy.dst + copy.width ≤ size := by
  have hlt := hfits.luma_lt
  obtain ⟨hheight, hplaneHeight, hwidth, hplaneWidth, hluma, hplane, hsize⟩ := hfits
  rcases List.mem_append.mp hcopy with hrow | hrow
  · have hend : copy.dst + copy.width ≤ 0 + _ := (rowCopies_bounds hheight hwidth hlt hrow).2
    omega
  · exact (rowCopies_bounds hplaneHeight hplaneWidth (by omega) hrow).2.trans hplane

theorem Fits.pairwise (hfits : info.Fits size) :
    info.copies.Pairwise fun first second => first.dst + first.width ≤ second.dst := by
  have hlt := hfits.luma_lt
  obtain ⟨hheight, hplaneHeight, hwidth, hplaneWidth, hluma, hplane, hsize⟩ := hfits
  refine List.pairwise_append.mpr ⟨?_, ?_, ?_⟩
  · exact rowCopies_pairwise hheight hwidth hlt
  · exact rowCopies_pairwise hplaneHeight hplaneWidth (by omega)
  · intro first hfirst second hsecond
    have hend : first.dst + first.width ≤ 0 + _ := (rowCopies_bounds hheight hwidth hlt hfirst).2
    have hstart := (rowCopies_bounds hplaneHeight hplaneWidth (by omega) hsecond).1
    omega

theorem Fits.swap_bounds (hfits : info.swap.Fits size) {copy : ByteCopy} (hcopy : copy ∈ info.copies) :
    copy.src + copy.width ≤ size := by
  have hmem := List.mem_map_of_mem (f := ByteCopy.swap) hcopy
  rw [← swap_copies] at hmem
  exact hfits.bounds hmem

/-- A sample that is copied. -/
def Sample (info : CopyInfo) (byte : Nat) : Prop :=
  (∃ row < info.height.toNat, ∃ column < info.width.toNat, byte = row * info.srcStride.toNat + column) ∨
    ∃ row < info.planeHeight.toNat, ∃ column < info.planeWidth.toNat,
      byte = info.srcPlaneOffset.toNat + row * info.srcPlaneStride.toNat + column

theorem Fits.sample (hfits : info.swap.Fits size) {byte : Nat} (hsample : info.Sample byte) :
    ∃ copy ∈ info.copies, ∃ column < copy.width, byte = copy.src + column := by
  have hheight : info.height.toNat < 2 ^ 31 := hfits.height_lt
  have hplaneHeight : info.planeHeight.toNat < 2 ^ 31 := hfits.planeHeight_lt
  have hplane : info.srcPlaneOffset.toNat + info.srcPlaneStride.toNat * info.planeHeight.toNat ≤ size := hfits.plane_le
  have hsize := hfits.size_lt
  rcases hsample with ⟨row, hrow, column, hcolumn, rfl⟩ | ⟨row, hrow, column, hcolumn, rfl⟩
  · refine ⟨_, List.mem_append_left _ (List.mem_map.mpr ⟨row, ?_, rfl⟩), column, hcolumn, ?_⟩
    · rwa [List.mem_range, toInt_toNat hheight]
    · exact congrArg (· + column) (((toNat_row hfits.luma_lt hrow).1.trans (Nat.zero_add _)).symm)
  · refine ⟨_, List.mem_append_right _ (List.mem_map.mpr ⟨row, ?_, rfl⟩), column, hcolumn, ?_⟩
    · rwa [List.mem_range, toInt_toNat hplaneHeight]
    · exact congrArg (· + column) (toNat_row (by omega) hrow).1.symm

/-- The samples are copied there and back. -/
theorem Fits.round_trip (hthere : info.Fits size) {srcSize : Nat} (hback : info.swap.Fits srcSize) {byte : Nat}
    (hsample : info.Sample byte) (source temp target : Nat → BitVec 8) :
    ByteCopy.runAll (ByteCopy.runAll source temp info.copies) target info.swap.copies byte = source byte := by
  obtain ⟨copy, hcopy, column, hcolumn, rfl⟩ := hback.sample hsample
  have hpairwise := hback.pairwise
  rw [swap_copies] at hpairwise ⊢
  exact ByteCopy.runAll_swap hthere.pairwise hpairwise hcopy hcolumn

end CopyInfo

/-! ### Sizes -/

/-- The bytes up to the end of the rows that are copied, with the stride of the chroma rows of YV12. -/
def copyBytes (format : PixelFormat) (stride chromaStride height : Nat) : Nat :=
  match format with
  | .ycbcr420Sp | .ycrcb420Sp => stride * height + stride * (height / 2)
  | .nv12Encodeable => align 2048 (stride * height) + stride * (height / 2)
  | .yv12 => stride * height + chromaStride * height
  | _ => 0

/-- `get_size` without a limit. -/
def tempBytes (format : PixelFormat) (width height : Nat) : Nat :=
  let alignedW := align 32 width
  let chroma := align 32 (alignedW / 2) * (height / 2) * 2
  match format with
  | .nv12Encodeable => align 4096 (align 2048 (alignedW * height) + chroma)
  | .ycbcr420Sp | .ycrcb420Sp | .yv12 => align 4096 (alignedW * height + chroma)
  | _ => 0

/-- The size of `getBufferSizeAndDimensions` without a limit. -/
def grallocBytes (format : PixelFormat) (width height : Nat) : Nat :=
  let alignedw := align 16 width
  let chroma := align 16 (alignedw / 2) * (height / 2) * 2
  match format with
  | .nv12Encodeable => align 4096 (align 2048 (alignedw * height) + chroma)
  | .ycbcr420Sp | .ycrcb420Sp => align 4096 (alignedw * height + alignedw * height / 2)
  | .yv12 => align 4096 (alignedw * height + chroma)
  | _ => 0

/-- The constants of the formats. -/
def halFormat : PixelFormat → Option (BitVec 32)
  | .ycbcr420Sp => some 0x109
  | .ycrcb420Sp => some 0x11
  | .nv12Encodeable => some 0x102
  | .yv12 => some 0x32315659
  | _ => none

section

variable {word alignment : BitVec 32}

theorem toNat_half (hword : word.toNat < 2 ^ 31) : (word.sdiv 2).toNat = word.toNat / 2 := by
  have hmsb : word.msb = false := by
    rw [BitVec.msb_eq_decide]
    simpa using hword
  rw [BitVec.sdiv_eq, hmsb]
  rfl

theorem toNat_alignUp_of_lt (halignment : IsPowerOfTwo alignment) (hfits : align alignment.toNat word.toNat < 2 ^ 32) :
    (alignUp word alignment).toNat = align alignment.toNat word.toNat := by
  apply halignment.toNat_alignUp_align
  obtain ⟨count, hcount⟩ := halignment.dvd_size
  have hpositive := halignment.pos
  have hless := Nat.lt_mul_of_div_lt (Nat.lt_succ_self ((word.toNat + (alignment.toNat - 1)) / alignment.toNat))
    hpositive
  have hquotient : (word.toNat + (alignment.toNat - 1)) / alignment.toNat < count := by
    refine @Nat.lt_of_mul_lt_mul_right alignment.toNat _ _ ?_
    rw [Nat.mul_comm count, ← hcount]
    exact hfits
  have hend := Nat.mul_le_mul_left alignment.toNat hquotient
  rw [Nat.mul_comm] at hless
  rw [hcount]
  omega

end

variable {format : PixelFormat} {info : CopyInfo} {w h srcStride dstStride srcAlign dstAlign : BitVec 32} {size : Nat}

theorem copyInfo_swap (format : PixelFormat) (w h srcStride dstStride srcAlign dstAlign : BitVec 32) :
    copyInfo format w h dstStride srcStride dstAlign srcAlign =
      (copyInfo format w h srcStride dstStride srcAlign dstAlign).map CopyInfo.swap := by
  cases format <;> rfl

theorem toNat_mul_of_le {first second : BitVec 32} {limit : Nat} (hle : first.toNat * second.toNat ≤ limit)
    (hlt : limit < 2 ^ 32) : (first * second).toNat = first.toNat * second.toNat :=
  BitVec.toNat_mul_of_lt (Nat.lt_of_le_of_lt hle hlt)

theorem fits_of_copyInfo (hinfo : copyInfo format w h srcStride dstStride srcAlign dstAlign = some info)
    (hw : w.toNat < 2 ^ 31) (hh : h.toNat < 2 ^ 31) (hpositive : 0 < h.toNat) (hstride : w.toNat ≤ dstStride.toNat)
    (halign : IsPowerOfTwo dstAlign)
    (hsize : copyBytes format dstStride.toNat (align dstAlign.toNat (w.toNat / 2)) h.toNat ≤ size)
    (hlt : size < 2 ^ 32) : info.Fits size := by
  have hhalf := toNat_half hh
  have hless : h.toNat / 2 < 2 ^ 31 := by omega
  cases format with
  | ycbcr420Sp | ycrcb420Sp =>
    obtain rfl := Option.some.inj hinfo
    have hluma := toNat_mul_of_le ((Nat.le_add_right _ _).trans hsize) hlt
    exact ⟨hh, hhalf ▸ hless, hstride, hstride, hluma.ge, (by simpa only [copyBytes, hluma, hhalf] using hsize), hlt⟩
  | nv12Encodeable =>
    obtain rfl := Option.some.inj hinfo
    have hrounded := le_align (by decide : 0 < 2048) (dstStride.toNat * h.toNat)
    have hoffset := (Nat.le_add_right _ _).trans hsize
    have hluma := toNat_mul_of_le (hrounded.trans hoffset) hlt
    have halignUp : (alignUp (dstStride * h) 2048).toNat = align 2048 (dstStride.toNat * h.toNat) := by
      rw [← hluma] at hoffset ⊢
      exact toNat_alignUp_of_lt ⟨11, by decide, by decide⟩ (Nat.lt_of_le_of_lt hoffset hlt)
    refine ⟨hh, hhalf ▸ hless, hstride, hstride, ?_, ?_, hlt⟩
    · simpa only [halignUp] using hrounded
    · simpa only [copyBytes, halignUp, hhalf] using hsize
  | yv12 =>
    obtain rfl := Option.some.inj hinfo
    have hluma := toNat_mul_of_le ((Nat.le_add_right _ _).trans hsize) hlt
    have hwidth := toNat_half hw
    have hchroma : align dstAlign.toNat (w.toNat / 2) < 2 ^ 32 := by
      have hrow := Nat.le_mul_of_pos_right (align dstAlign.toNat (w.toNat / 2)) hpositive
      have hrows := (Nat.le_add_left _ _).trans hsize
      omega
    have halignUp : (alignUp (w.sdiv 2) dstAlign).toNat = align dstAlign.toNat (w.toNat / 2) := by
      rw [← hwidth] at hchroma ⊢
      exact toNat_alignUp_of_lt halign hchroma
    refine ⟨hh, hh, hstride, ?_, hluma.ge, ?_, hlt⟩
    · simpa only [halignUp, hwidth] using le_align halign.pos _
    · simpa only [copyBytes, hluma, halignUp] using hsize
  | _ => cases hinfo

/-! ### The sizes of the buffers -/

theorem toNat_rounded {first second : BitVec 32} {luma chroma : Nat} (hfirst : first.toNat = luma)
    (hsecond : second.toNat = chroma) (hlt : align 4096 (luma + chroma) < 2 ^ 32) :
    (alignUp (first + second) 4096).toNat = align 4096 (luma + chroma) := by
  have hle := le_align (by decide : 0 < 4096) (luma + chroma)
  have hsum : (first + second).toNat = luma + chroma := by
    rw [BitVec.toNat_add_of_lt (by omega), hfirst, hsecond]
  rw [← hsum] at hlt ⊢
  exact toNat_alignUp_of_lt ⟨12, by decide, by decide⟩ hlt

theorem toNat_chroma {stride alignment : BitVec 32} (halignment : IsPowerOfTwo alignment)
    (hstride : stride.toNat < 2 ^ 31) (hh : h.toNat < 2 ^ 31) (hrows : 0 < h.toNat / 2)
    (hlt : align alignment.toNat (stride.toNat / 2) * (h.toNat / 2) * 2 < 2 ^ 32) :
    (alignUp (stride.sdiv 2) alignment * h.sdiv 2 * 2).toNat =
      align alignment.toNat (stride.toNat / 2) * (h.toNat / 2) * 2 := by
  have hrow := Nat.le_mul_of_pos_right (align alignment.toNat (stride.toNat / 2)) hrows
  have hword : (alignUp (stride.sdiv 2) alignment).toNat = align alignment.toNat (stride.toNat / 2) := by
    rw [← toNat_half hstride] at hrow hlt ⊢
    exact toNat_alignUp_of_lt halignment (by omega)
  have hplane : (alignUp (stride.sdiv 2) alignment * h.sdiv 2).toNat =
      align alignment.toNat (stride.toNat / 2) * (h.toNat / 2) := by
    rw [BitVec.toNat_mul_of_lt, hword, toNat_half hh]
    rw [hword, toNat_half hh]
    omega
  rw [BitVec.toNat_mul_of_lt, hplane]
  · rfl
  · rw [hplane]
    exact hlt

/-- The size of two planes, or of one that is followed by two, with its luma rounded where the chroma is. -/
theorem toNat_planes {stride alignment : BitVec 32} (halignment : IsPowerOfTwo alignment) (hh : h.toNat < 2 ^ 31)
    (hrows : 0 < h.toNat / 2) (luma : Nat → Nat) (hluma : ∀ bytes, bytes ≤ luma bytes) {first : BitVec 32}
    (hfirst : luma (stride.toNat * h.toNat) < 2 ^ 32 → first.toNat = luma (stride.toNat * h.toNat))
    (hlt : align 4096 (luma (stride.toNat * h.toNat) + align alignment.toNat (stride.toNat / 2) * (h.toNat / 2) * 2) <
      2 ^ 32) :
    (alignUp (first + alignUp (stride.sdiv 2) alignment * h.sdiv 2 * 2) 4096).toNat =
      align 4096 (luma (stride.toNat * h.toNat) + align alignment.toNat (stride.toNat / 2) * (h.toNat / 2) * 2) := by
  have hle := le_align (by decide : 0 < 4096)
    (luma (stride.toNat * h.toNat) + align alignment.toNat (stride.toNat / 2) * (h.toNat / 2) * 2)
  have hbytes := hluma (stride.toNat * h.toNat)
  have hstride : stride.toNat < 2 ^ 31 := by
    have hdouble : stride.toNat * 2 ≤ stride.toNat * h.toNat := Nat.mul_le_mul_left _ (by omega)
    omega
  exact toNat_rounded (hfirst (by omega)) (toNat_chroma halignment hstride hh hrows (by omega)) hlt

theorem toNat_luma {stride : BitVec 32} (hlt : stride.toNat * h.toNat < 2 ^ 32) :
    (stride * h).toNat = stride.toNat * h.toNat := BitVec.toNat_mul_of_lt hlt

theorem toNat_roundedLuma {stride : BitVec 32} (hlt : align 2048 (stride.toNat * h.toNat) < 2 ^ 32) :
    (alignUp (stride * h) 2048).toNat = align 2048 (stride.toNat * h.toNat) := by
  have hle := le_align (by decide : 0 < 2048) (stride.toNat * h.toNat)
  have hluma : (stride * h).toNat = stride.toNat * h.toNat := toNat_luma (by omega)
  rw [← hluma] at hlt ⊢
  exact toNat_alignUp_of_lt ⟨11, by decide, by decide⟩ hlt

theorem toNat_alignUp_width {alignment : BitVec 32} (halignment : IsPowerOfTwo alignment)
    (hsmall : alignment.toNat ≤ 2 ^ 31) (hw : w.toNat < 2 ^ 31) :
    (alignUp w alignment).toNat = align alignment.toNat w.toNat :=
  halignment.toNat_alignUp_align (by omega)

theorem toNat_getSize (hw : w.toNat < 2 ^ 31) (hh : h.toNat < 2 ^ 31) (hrows : 0 < h.toNat / 2)
    (hlt : tempBytes format w.toNat h.toNat < 2 ^ 32) :
    (getSize ⟨w, h, format, none⟩).toNat = tempBytes format w.toNat h.toNat := by
  have hpower : IsPowerOfTwo (32 : BitVec 32) := ⟨5, by decide, by decide⟩
  have hwidth : (alignUp w 32).toNat = align 32 w.toNat := toNat_alignUp_width hpower (by decide) hw
  have hplain := @toNat_planes h (alignUp w 32) 32 hpower hh hrows id (fun _ => le_rfl) _ toNat_luma
  have hrounded := @toNat_planes h (alignUp w 32) 32 hpower hh hrows (align 2048) (le_align (by decide)) _
    toNat_roundedLuma
  rw [hwidth] at hplain hrounded
  cases format with
  | nv12Encodeable => exact hrounded hlt
  | ycbcr420Sp => exact hplain hlt
  | ycrcb420Sp => exact hplain hlt
  | yv12 => exact hplain hlt
  | _ => rfl

theorem chromaRows_le {stride chroma half : Nat} (hstride : stride ≤ half * 2) (hchroma : chroma ≤ half) (rows : Nat) :
    stride * rows ≤ half * rows * 2 ∧ chroma * (2 * rows) ≤ half * rows * 2 := by
  have hplane := Nat.mul_le_mul_right rows hstride
  have hplanes := Nat.mul_le_mul_right (2 * rows) hchroma
  rw [Nat.mul_right_comm] at hplane
  rw [Nat.mul_left_comm half, Nat.mul_comm 2 (half * rows)] at hplanes
  exact ⟨hplane, hplanes⟩

theorem copyBytes_le_tempBytes {width height : Nat} (heven : 2 ∣ height) :
    copyBytes format (align 32 width) (align 32 (width / 2)) height ≤ tempBytes format width height := by
  obtain ⟨rows, rfl⟩ := heven
  have hrows : 2 * rows / 2 = rows := Nat.mul_div_cancel_left rows Nat.two_pos
  have hstride : align 32 width ≤ align 32 (align 32 width / 2) * 2 := by unfold align; omega
  have hchroma : align 32 (width / 2) ≤ align 32 (align 32 width / 2) := by unfold align; omega
  obtain ⟨hplane, hplanes⟩ := chromaRows_le hstride hchroma rows
  unfold copyBytes tempBytes
  simp only [hrows]
  cases format with
  | nv12Encodeable | ycbcr420Sp | ycrcb420Sp => exact (Nat.add_le_add_left hplane _).trans (le_align (by decide) _)
  | yv12 => exact (Nat.add_le_add_left hplanes _).trans (le_align (by decide) _)
  | _ => exact Nat.zero_le _

theorem copyBytes_le_grallocBytes {width height : Nat} (heven : 2 ∣ height) :
    copyBytes format (align 16 width) (align 16 (width / 2)) height ≤ grallocBytes format width height := by
  obtain ⟨rows, rfl⟩ := heven
  have hrows : 2 * rows / 2 = rows := Nat.mul_div_cancel_left rows Nat.two_pos
  have hstride : align 16 width ≤ align 16 (align 16 width / 2) * 2 := by unfold align; omega
  have hchroma : align 16 (width / 2) ≤ align 16 (align 16 width / 2) := by unfold align; omega
  obtain ⟨hplane, hplanes⟩ := chromaRows_le hstride hchroma rows
  have hluma : align 16 width * (2 * rows) / 2 = align 16 width * rows := by
    rw [Nat.mul_left_comm, Nat.mul_div_cancel_left _ Nat.two_pos]
  unfold copyBytes grallocBytes
  simp only [hrows, hluma]
  cases format with
  | nv12Encodeable => exact (Nat.add_le_add_left hplane _).trans (le_align (by decide) _)
  | ycbcr420Sp => exact le_align (by decide) _
  | ycrcb420Sp => exact le_align (by decide) _
  | yv12 => exact (Nat.add_le_add_left hplanes _).trans (le_align (by decide) _)
  | _ => exact Nat.zero_le _

open Gralloc in
theorem toNat_grallocSize {padding : AdrenoPadding} {code : BitVec 32} (hformat : halFormat format = some code)
    (haccepted : (getBufferSizeAndDimensions padding w h (.ofCode code)).Accepted) (hw : w.toNat < 2 ^ 31)
    (hh : h.toNat < 2 ^ 31) (hrows : 0 < h.toNat / 2) (hlt : grallocBytes format w.toNat h.toNat < 2 ^ 31) :
    (getBufferSizeAndDimensions padding w h (.ofCode code)).alignedw = alignUp w 16 ∧
      (getBufferSizeAndDimensions padding w h (.ofCode code)).size.toNat = grallocBytes format w.toNat h.toNat := by
  have hpower : IsPowerOfTwo (16 : BitVec 32) := ⟨4, by decide, by decide⟩
  have hwidth : (alignUp w 16).toNat = align 16 w.toNat := toNat_alignUp_width hpower (by decide) hw
  have hplain := @toNat_planes h (alignUp w 16) 16 hpower hh hrows id (fun _ => le_rfl) _ toNat_luma
  have hrounded := @toNat_planes h (alignUp w 16) 16 hpower hh hrows (align 2048) (le_align (by decide)) _
    toNat_roundedLuma
  have hhalf : grallocBytes .ycbcr420Sp w.toNat h.toNat < 2 ^ 31 →
      (alignUp (alignUp w 16 * h + (alignUp w 16 * h).sdiv 2) 4096).toNat =
        grallocBytes .ycbcr420Sp w.toNat h.toNat := by
    intro hsmall
    have hle := le_align (by decide : 0 < 4096) (align 16 w.toNat * h.toNat + align 16 w.toNat * h.toNat / 2)
    change align 4096 (_ + _) < _ at hsmall
    have hluma : (alignUp w 16 * h).toNat = align 16 w.toNat * h.toNat := by
      rw [BitVec.toNat_mul_of_lt, hwidth]
      rw [hwidth]
      omega
    refine toNat_rounded hluma ?_ (by omega)
    rw [toNat_half (by omega), hluma]
  rw [hwidth] at hplain hrounded
  cases format with
  | nv12Encodeable =>
    obtain rfl := Option.some.inj hformat
    exact ⟨rfl, hrounded (hlt.trans (by decide))⟩
  | ycbcr420Sp | ycrcb420Sp =>
    obtain rfl := Option.some.inj hformat
    exact ⟨rfl, hhalf hlt⟩
  | yv12 =>
    obtain rfl := Option.some.inj hformat
    have hsize : getBufferSizeAndDimensions padding w h .yv12 =
        ⟨alignUp (alignUp w 16 * h + alignUp ((alignUp w 16).sdiv 2) 16 * h.sdiv 2 * 2) 4096, alignUp w 16, h⟩ := by
      rw [getBufferSizeAndDimensions, if_neg (even_of_accepted_yv12 padding w h haccepted)]
      rfl
    change (getBufferSizeAndDimensions padding w h .yv12).alignedw = _ ∧
      (getBufferSizeAndDimensions padding w h .yv12).size.toNat = _
    rw [hsize]
    exact ⟨rfl, hplain (hlt.trans (by decide))⟩
  | _ => cases hformat

open Gralloc in
/-- A buffer that `gralloc_alloc` made for an image holds its planes, with the aligned width in its handle. -/
theorem allocated_bounds {padding : AdrenoPadding} {mdss5 mapFbMemory : Bool} {code usage stride : BitVec 32}
    {data eData : AllocOutcome} {hnd : Gralloc.PrivateHandle} (hformat : halFormat format = some code)
    (hallocated : allocImpl padding mdss5 mapFbMemory w h code usage 0 data eData = .regular (some hnd) stride)
    (hw : w.toNat < 2 ^ 31) (hh : h.toNat < 2 ^ 31) (hrows : 0 < h.toNat / 2)
    (hlt : grallocBytes format w.toNat h.toNat < 2 ^ 31) :
    hnd.width = alignUp w 16 ∧ grallocBytes format w.toNat h.toNat ≤ hnd.size.toNat := by
  have hplain : ¬(code = 0x22 ∨ code = 0x23) := by
    cases format <;> simp only [halFormat, Option.some.injEq, reduceCtorEq] at hformat <;> subst hformat <;> decide
  have hcode : grallocFormat code usage = code := if_neg hplain
  obtain ⟨haccepted, hsize, -, hwidth, -⟩ := allocImpl_eq_regular hallocated
  rw [hcode] at haccepted hsize hwidth
  obtain ⟨haligned, hbytes⟩ := toNat_grallocSize hformat haccepted hw hh hrows hlt
  refine ⟨hwidth.trans haligned, ?_⟩
  by_cases hpositive : grallocBytes format w.toNat h.toNat = 0
  · omega
  obtain ⟨hunit, hlimit, -⟩ := sizeUnit_bounds mdss5 usage
  have hcovers := (le_allocated_iff mdss5 code usage 0 haccepted
    (Int.natCast_pos.mpr (Nat.pos_of_ne_zero hpositive))).mpr ⟨?_, .inr ?_⟩
  · rw [hsize]
    exact Int.ofNat_le.mp hcovers
  · have hzero := (roundUp_bounds hunit 0).2
    change roundUp _ 0 < _
    omega
  · have hround := (roundUp_bounds hunit
      ((getBufferSizeAndDimensions padding w h (.ofCode code)).size.toNat + secureExtra usage)).1
    have hextra := (secureExtra_bounds usage).1
    rw [hbytes] at hround ⊢
    omega

/-! ### The round trip -/

/-- The bytes of the visible samples of a gralloc buffer. -/
def Visible (format : PixelFormat) (width height byte : Nat) : Prop :=
  let stride := align 16 width
  (∃ row < height, ∃ column < width, byte = row * stride + column) ∨
    match format with
    | .yv12 =>
      let chromaStride := align 16 (stride / 2)
      ∃ row < height / 2, ∃ column < width / 2, byte = stride * height + row * chromaStride + column ∨
        byte = stride * height + chromaStride * (height / 2) + row * chromaStride + column
    | .nv12Encodeable =>
      ∃ row < height / 2, ∃ column < width, byte = align 2048 (stride * height) + row * stride + column
    | _ => ∃ row < height / 2, ∃ column < width, byte = stride * height + row * stride + column

theorem sample_of_visible {aligned : BitVec 32} (hinfo : copyInfo format w h aligned dstStride 16 dstAlign = some info)
    (haligned : aligned.toNat = align 16 w.toNat) (hw : w.toNat < 2 ^ 31) (hh : h.toNat < 2 ^ 31)
    (hwidth : 2 ∣ w.toNat) (hheight : 2 ∣ h.toNat) (hlt : grallocBytes format w.toNat h.toNat < 2 ^ 31) {byte : Nat}
    (hvisible : Visible format w.toNat h.toNat byte) : info.Sample byte := by
  have hrows := toNat_half hh
  have hcover := @copyBytes_le_grallocBytes format w.toNat _ hheight
  rw [← haligned] at hcover
  unfold CopyInfo.Sample
  unfold Visible at hvisible
  rw [← haligned] at hvisible
  cases format with
  | ycbcr420Sp | ycrcb420Sp =>
    obtain rfl := Option.some.inj hinfo
    have hluma : (aligned * h).toNat = aligned.toNat * h.toNat :=
      toNat_mul_of_le ((Nat.le_add_right _ _).trans hcover) (hlt.trans (by decide))
    simpa only [hrows, hluma] using hvisible
  | nv12Encodeable =>
    obtain rfl := Option.some.inj hinfo
    have hluma : (alignUp (aligned * h) 2048).toNat = align 2048 (aligned.toNat * h.toNat) :=
      toNat_roundedLuma (((Nat.le_add_right _ _).trans hcover).trans_lt (hlt.trans (by decide)))
    simpa only [hrows, hluma] using hvisible
  | yv12 =>
    obtain rfl := Option.some.inj hinfo
    have hluma : (aligned * h).toNat = aligned.toNat * h.toNat :=
      toNat_mul_of_le ((Nat.le_add_right _ _).trans hcover) (hlt.trans (by decide))
    have hcolumns := toNat_half hw
    have hstride : (alignUp (w.sdiv 2) 16).toNat = align 16 (aligned.toNat / 2) := by
      rw [toNat_alignUp_width ⟨4, by decide, by decide⟩ (by decide) (by omega), hcolumns, haligned]
      change align 16 _ = _
      unfold align
      omega
    simp only [hcolumns, hluma, hstride]
    rcases hvisible with hluma | ⟨row, hrow, column, hcolumn, rfl | rfl⟩
    · exact Or.inl hluma
    · exact Or.inr ⟨row, by omega, column, hcolumn, rfl⟩
    · refine Or.inr ⟨h.toNat / 2 + row, by omega, column, hcolumn, ?_⟩
      rw [Nat.add_mul, Nat.mul_comm (align 16 _) (h.toNat / 2)]
      omega
  | _ => cases hinfo

/-- Between buffers that gralloc allocated, whose sizes do not wrap, a conversion there and back stays inside of the
buffers and gives the visible samples back. -/
theorem convert_round_trip {padding : Gralloc.AdrenoPadding} {mdss5 mapFbMemory : Bool}
    {code srcUsage dstUsage stride dstStride : BitVec 32}
    {srcData srcMetadata dstData dstMetadata : Gralloc.AllocOutcome} {src dst : Gralloc.PrivateHandle}
    {tempBase : BitVec 32} (hformat : halFormat format = some code)
    (hw : 0 < w.toInt) (hh : 0 < h.toInt) (hwidth : 2 ∣ w.toNat) (hheight : 2 ∣ h.toNat)
    (hsrc : Gralloc.allocImpl padding mdss5 mapFbMemory w h code srcUsage 0 srcData srcMetadata =
      .regular (some src) stride)
    (hdst : Gralloc.allocImpl padding mdss5 mapFbMemory w h code dstUsage 0 dstData dstMetadata =
      .regular (some dst) dstStride)
    (hbases : src.base ≠ 0 ∧ dst.base ≠ 0 ∧ tempBase ≠ 0)
    (hgralloc : grallocBytes format w.toNat h.toNat < 2 ^ 31) (htemp : tempBytes format w.toNat h.toNat < 2 ^ 32) :
    ∃ there back, convertYuvAndroidToYuvC2d src w h format tempBase = some there ∧
      convertYuvC2dToYuvAndroid tempBase w h format dst = some back ∧
      (∀ copy ∈ there, copy.src + copy.width ≤ src.size.toNat ∧
        copy.dst + copy.width ≤ (getSize ⟨w, h, format, none⟩).toNat) ∧
      (∀ copy ∈ back, copy.src + copy.width ≤ (getSize ⟨w, h, format, none⟩).toNat ∧
        copy.dst + copy.width ≤ dst.size.toNat) ∧
      ∀ (source temp target : Nat → BitVec 8) (byte : Nat), Visible format w.toNat h.toNat byte →
        ByteCopy.runAll (ByteCopy.runAll source temp there) target back byte = source byte := by
  obtain ⟨hsrcBase, hdstBase, htempBase⟩ := hbases
  have hcolumns := CopyInfo.lt_of_pos hw
  have hrows := CopyInfo.lt_of_pos hh
  have hpower : IsPowerOfTwo (16 : BitVec 32) := ⟨4, by decide, by decide⟩
  have hlarger : IsPowerOfTwo (32 : BitVec 32) := ⟨5, by decide, by decide⟩
  obtain ⟨hsrcWidth, hsrcSize⟩ := allocated_bounds hformat hsrc hcolumns.2 hrows.2 (by omega) hgralloc
  obtain ⟨-, hdstSize⟩ := allocated_bounds hformat hdst hcolumns.2 hrows.2 (by omega) hgralloc
  have haligned : alignUp src.width 16 = alignUp w 16 := by
    rw [hsrcWidth, hpower.alignUp_of_dvd (hpower.dvd_alignUp w)]
  have hsmaller : (alignUp w 16).toNat = align 16 w.toNat := toNat_alignUp_width hpower (by decide) hcolumns.2
  have hlargerStride : (alignUp w 32).toNat = align 32 w.toNat := toNat_alignUp_width hlarger (by decide) hcolumns.2
  obtain ⟨info, hinfo⟩ : ∃ info, copyInfo format w h (alignUp w 16) (alignUp w 32) 16 32 = some info := by
    cases format <;> first | exact ⟨_, rfl⟩ | cases hformat
  have hswap : copyInfo format w h (alignUp w 32) (alignUp w 16) 32 16 = some info.swap := by
    rw [copyInfo_swap, hinfo]
    rfl
  have hthere : info.Fits (tempBytes format w.toNat h.toNat) :=
    fits_of_copyInfo hinfo hcolumns.2 hrows.2 hrows.1 (hlargerStride ▸ le_align (by decide) _) hlarger
      (hlargerStride ▸ copyBytes_le_tempBytes hheight) htemp
  have hback : info.swap.Fits (grallocBytes format w.toNat h.toNat) :=
    fits_of_copyInfo hswap hcolumns.2 hrows.2 hrows.1 (hsmaller ▸ le_align (by decide) _) hpower
      (hsmaller ▸ copyBytes_le_grallocBytes hheight) (hgralloc.trans (by decide))
  have hsize := toNat_getSize hcolumns.2 hrows.2 (by omega) htemp
  refine ⟨info.copies, info.swap.copies, ?_, ?_, ?_, ?_, ?_⟩
  · rw [convertYuvAndroidToYuvC2d, haligned, hinfo]
    exact if_neg (by tauto)
  · rw [convertYuvC2dToYuvAndroid, hswap]
    exact if_neg (by tauto)
  · intro copy hcopy
    rw [hsize]
    exact ⟨(hback.swap_bounds hcopy).trans hsrcSize, hthere.bounds hcopy⟩
  · intro copy hcopy
    rw [hsize]
    exact ⟨@CopyInfo.Fits.swap_bounds info.swap _ hthere _ hcopy, (hback.bounds hcopy).trans hdstSize⟩
  · intro source temp target byte hvisible
    exact hthere.round_trip hback (sample_of_visible hinfo hsmaller hcolumns.2 hrows.2 hwidth hheight hgralloc hvisible)
      source temp target

theorem convert_round_trip_small : ∃ there back,
    convertYuvAndroidToYuvC2d (Gralloc.softwareHandle 462848 640 480) 640 480 .ycrcb420Sp 0x60000000 = some there ∧
      convertYuvC2dToYuvAndroid 0x60000000 640 480 .ycrcb420Sp (Gralloc.softwareHandle 462848 640 480) = some back ∧
      (∀ copy ∈ there, copy.src + copy.width ≤ (462848 : BitVec 32).toNat ∧
        copy.dst + copy.width ≤ (getSize ⟨640, 480, .ycrcb420Sp, none⟩).toNat) ∧
      (∀ copy ∈ back, copy.src + copy.width ≤ (getSize ⟨640, 480, .ycrcb420Sp, none⟩).toNat ∧
        copy.dst + copy.width ≤ (462848 : BitVec 32).toNat) ∧
      ∀ (source temp target : Nat → BitVec 8) (byte : Nat), Visible .ycrcb420Sp 640 480 byte →
        ByteCopy.runAll (ByteCopy.runAll source temp there) target back byte = source byte := by
  have hallocated : Gralloc.allocImpl none false false 640 480 0x11 0x33 0 ⟨0, 5, 0, 0x40000000⟩
      ⟨0, 6, 0, 0x50000000⟩ = .regular (some (Gralloc.softwareHandle 462848 640 480)) 640 := by decide +kernel
  exact convert_round_trip rfl (by decide) (by decide) (by decide) (by decide) hallocated hallocated (by decide)
    (by decide) (by decide)

/-- A size that wraps is accepted, and the fourth row is behind the end of the buffer. -/
theorem convert_not_inside :
    Gralloc.allocImpl none false false 65536 65538 0x11 0x33 0 ⟨0, 5, 0, 0x40000000⟩ ⟨0, 6, 0, 0x50000000⟩ =
        .regular (some (Gralloc.softwareHandle 196608 65536 65538)) 65536 ∧
      ∃ there, convertYuvAndroidToYuvC2d (Gralloc.softwareHandle 196608 65536 65538) 65536 65538 .ycrcb420Sp
          0x60000000 = some there ∧ ∃ copy ∈ there, (196608 : BitVec 32).toNat < copy.src + copy.width := by
  refine ⟨by decide +kernel, _, rfl, ⟨_, _, _⟩, List.mem_append_left _ (List.mem_map.mpr ⟨3, ?_, rfl⟩), ?_⟩
  · exact List.mem_range.mpr (by decide)
  · decide

end Nozomi.Copybit
