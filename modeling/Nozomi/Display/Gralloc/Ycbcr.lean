import Nozomi.Base.Plane
import Nozomi.Display.Gralloc.Allocation
import Nozomi.Display.Gralloc.Mapper

/-!
# Locking planes

`gralloc_lock_ycbcr` describes the planes of a locked buffer from the dimensions that the handle holds, without the
size that was allocated.
-/

namespace Nozomi.Gralloc

structure AndroidYcbcr where
  y : BitVec 32
  cb : BitVec 32
  cr : BitVec 32
  ystride : BitVec 32
  cstride : BitVec 32
  chromaStep : BitVec 32
  reserved : List (BitVec 32)
  deriving DecidableEq, Repr

def PrivateHandle.ycbcr (hnd : PrivateHandle) : Option AndroidYcbcr :=
  let ystride := alignUp hnd.width 16
  let chroma := hnd.base + ystride * hnd.height
  match PixelFormat.ofCode hnd.format with
  | .yCrCb420Sp => some ⟨hnd.base, chroma + 1, chroma, ystride, ystride, 2, List.replicate 8 0⟩
  | .nv12 => some ⟨hnd.base, chroma, chroma + 1, ystride, ystride, 2, List.replicate 8 0⟩
  | .yv12 =>
    let cstride := alignUp (ystride.sdiv 2) 16
    some ⟨hnd.base, chroma + (cstride * hnd.height).sdiv 2, chroma, ystride, cstride, 1, List.replicate 8 0⟩
  | _ => none

def PrivateHandle.grallocLockYcbcr (hnd : PrivateHandle) (usage : BitVec 32) (main metadata : MapOutcome)
    (clean : Int) : Option (Mapping × Option AndroidYcbcr) :=
  match hnd.grallocMapAndInvalidate usage main metadata clean with
  | none => none
  | some mapped =>
    if mapped.status = 0 then
      match mapped.hnd.ycbcr with
      | some ycbcr => some (mapped, some ycbcr)
      | none => some ({ mapped with status := invalidArgument }, none)
    else some (mapped, none)

section

variable {hnd : PrivateHandle} {usage : BitVec 32} {main metadata : MapOutcome} {clean : Int} {mapped : Mapping}

theorem grallocMap_sameBuffer (hmapped : hnd.grallocMap main metadata = some mapped) :
    mapped.hnd.SameBuffer hnd := by
  unfold PrivateHandle.grallocMap at hmapped
  split at hmapped
  · rw [← Option.some.inj hmapped]
    exact .refl hnd
  · split at hmapped
    · contradiction
    · split at hmapped
      · rw [← Option.some.inj hmapped]
        exact ⟨rfl, rfl, rfl, rfl⟩
      · dsimp only at hmapped
        split at hmapped <;> rw [← Option.some.inj hmapped] <;> exact ⟨rfl, rfl, rfl, rfl⟩

theorem grallocMapAndInvalidate_sameBuffer
    (hmapped : hnd.grallocMapAndInvalidate usage main metadata clean = some mapped) : mapped.hnd.SameBuffer hnd := by
  unfold PrivateHandle.grallocMapAndInvalidate at hmapped
  split at hmapped
  · rw [← Option.some.inj hmapped]
    exact .refl hnd
  split at hmapped
  · have hfirst : ∀ made, (if hnd.base = 0 then hnd.grallocMap main metadata else some ⟨0, hnd, []⟩) = some made →
        made.hnd.SameBuffer hnd := by
      intro made hmade
      split at hmade
      · exact grallocMap_sameBuffer hmade
      · rw [← Option.some.inj hmade]
        exact .refl hnd
    generalize (if hnd.base = 0 then hnd.grallocMap main metadata else some ⟨0, hnd, []⟩) = first at hfirst hmapped
    cases first with
    | none => contradiction
    | some made =>
      dsimp only at hmapped
      split at hmapped
      · contradiction
      · obtain ⟨hsize, hformat, hwidth, hheight⟩ := hfirst made rfl
        rw [← Option.some.inj hmapped]
        exact ⟨hsize, hformat, hwidth, hheight⟩
  · rw [← Option.some.inj hmapped]
    exact ⟨rfl, rfl, rfl, rfl⟩

theorem ycbcr_of_locked {ycbcr : AndroidYcbcr}
    (hlocked : hnd.grallocLockYcbcr usage main metadata clean = some (mapped, some ycbcr)) :
    mapped.hnd.SameBuffer hnd ∧ mapped.hnd.ycbcr = some ycbcr := by
  unfold PrivateHandle.grallocLockYcbcr at hlocked
  split at hlocked
  · contradiction
  next made hmade =>
    split at hlocked
    · split at hlocked
      next stored hstored =>
        obtain ⟨rfl, hsame⟩ := Prod.mk.inj (Option.some.inj hlocked)
        exact ⟨grallocMapAndInvalidate_sameBuffer hmade, hstored.trans hsame⟩
      · exact absurd (Prod.mk.inj (Option.some.inj hlocked)).2 (Option.some_ne_none ycbcr).symm
    · exact absurd (Prod.mk.inj (Option.some.inj hlocked)).2 (Option.some_ne_none ycbcr).symm

end

namespace AndroidYcbcr

section

variable (ycbcr : AndroidYcbcr) (base : BitVec 32) (height : Nat)

def luma : Plane := ⟨(ycbcr.y - base).toNat, ycbcr.ystride.toNat, height, 1⟩

def chroma (first : BitVec 32) : Plane :=
  ⟨(first - base).toNat, ycbcr.cstride.toNat, (height + 1) / 2, ycbcr.chromaStep.toNat⟩

def Fits (size : Nat) : Prop :=
  PlanesFit (ycbcr.luma base height) (ycbcr.chroma base height ycbcr.cb) (ycbcr.chroma base height ycbcr.cr) size

end

section

variable {base ystride rows : BitVec 32} {reserved : List (BitVec 32)} {size : Nat}

theorem luma_eq (cb cr cstride chromaStep : BitVec 32) :
    luma ⟨base, cb, cr, ystride, cstride, chromaStep, reserved⟩ base rows.toNat =
      ⟨0, ystride.toNat, rows.toNat, 1⟩ := by
  rw [luma, BitVec.sub_self]
  rfl

theorem fits_swap {y cb cr cstride chromaStep : BitVec 32} {height : Nat} :
    Fits ⟨y, cr, cb, ystride, cstride, chromaStep, reserved⟩ base height size ↔
      Fits ⟨y, cb, cr, ystride, cstride, chromaStep, reserved⟩ base height size :=
  ⟨PlanesFit.swap, PlanesFit.swap⟩

theorem toNat_behind (base : BitVec 32) {offset : BitVec 32} {value : Nat} (hoffset : Wraps offset value)
    (hsmall : value < 2 ^ 32) :
    (base + offset - base).toNat = value := by
  rw [BitVec.add_comm, BitVec.add_sub_cancel]
  exact_mod_cast hoffset.toNat_eq (Int.natCast_nonneg value) (by exact_mod_cast hsmall)

theorem fits_interleaved_iff (hstride : 0 < ystride.toNat) (hdvd : 16 ∣ ystride.toNat) (hrows : 0 < rows.toNat)
    (hsize : size < 2 ^ 32) :
    Fits ⟨base, base + ystride * rows, base + ystride * rows + 1, ystride, ystride, 2, reserved⟩ base rows.toNat
        size ↔
      ystride.toNat * rows.toNat + ystride.toNat * ((rows.toNat + 1) / 2) ≤ size := by
  have heven : 2 ∣ ystride.toNat := Nat.dvd_trans (by decide) hdvd
  have hwraps : Wraps (ystride * rows) (ystride.toNat * rows.toNat : Nat) :=
    Int.natCast_mul _ _ ▸ (wraps_toNat ystride).mul (wraps_toNat rows)
  rw [Fits, luma_eq]
  by_cases hsmall : ystride.toNat * rows.toNat < 2 ^ 32
  · have hroom : ystride.toNat * rows.toNat + 1 < 2 ^ 32 := by
      have := Nat.dvd_mul_right_of_dvd heven rows.toNat
      omega
    have hfirst := toNat_behind base hwraps hsmall
    have hsecond := toNat_behind base (hwraps.add (wraps_toNat 1)) hroom
    rw [← BitVec.add_assoc] at hsecond
    simp only [chroma, hfirst, hsecond]
    exact PlanesFit.interleaved_iff hstride heven hrows (by omega)
  · refine ⟨fun hfit => ?_, fun hcovers => ?_⟩
    · have := PlanesFit.luma_le hstride hrows hfit
      omega
    · omega

theorem fits_planar_iff {cstride : BitVec 32} (hstride : 0 < ystride.toNat) (hcstride : 0 < cstride.toNat)
    (hle : cstride.toNat ≤ ystride.toNat) (hrows : 0 < rows.toNat) (heven : 2 ∣ rows.toNat) (hsize : size < 2 ^ 32) :
    Fits ⟨base, base + ystride * rows + (cstride * rows).sdiv 2, base + ystride * rows, ystride, cstride, 1, reserved⟩
        base rows.toNat size ↔
      ystride.toNat * rows.toNat + 2 * (cstride.toNat * ((rows.toNat + 1) / 2)) ≤ size := by
  have hwraps : Wraps (ystride * rows) (ystride.toNat * rows.toNat : Nat) :=
    Int.natCast_mul _ _ ▸ (wraps_toNat ystride).mul (wraps_toNat rows)
  have hchromaRows : (rows.toNat + 1) / 2 = rows.toNat / 2 := by omega
  have hchroma : cstride.toNat * rows.toNat = 2 * (cstride.toNat * (rows.toNat / 2)) := by
    rw [Nat.mul_left_comm, Nat.mul_div_cancel' heven]
  have hless : cstride.toNat * rows.toNat ≤ ystride.toNat * rows.toNat := Nat.mul_le_mul_right _ hle
  rw [Fits, luma_eq]
  rw [hchromaRows]
  by_cases hsmall : ystride.toNat * rows.toNat < 2 ^ 32
  · have hword : (cstride * rows).toNat = cstride.toNat * rows.toNat := BitVec.toNat_mul_of_lt (by omega)
    have hhalf := wraps_half (cstride * rows)
    have hfirst := toNat_behind base hwraps hsmall
    rw [BitVec.toInt_eq_toNat_cond, hword, hchroma] at hhalf
    simp only [chroma, hchromaRows, hfirst, BitVec.add_assoc]
    have hhalfRows : 0 < rows.toNat / 2 := by omega
    generalize hbytes : cstride.toNat * (rows.toNat / 2) = bytes at *
    by_cases hfits : cstride.toNat * rows.toNat < 2 ^ 31
    · rw [if_pos (by omega), Nat.cast_mul, Nat.cast_ofNat, Int.mul_tdiv_cancel_left _ (by decide)] at hhalf
      by_cases hroom : ystride.toNat * rows.toNat + bytes < 2 ^ 32
      · have hsecond := toNat_behind base (Int.natCast_add _ _ ▸ hwraps.add hhalf) hroom
        rw [hsecond, ← hbytes]
        exact PlanesFit.planar_iff hstride hrows hcstride hhalfRows
      · refine ⟨fun hfit => ?_, fun hcovers => ?_⟩
        · have hinside := (Plane.bytes_subset_iff Nat.one_pos (Nat.one_dvd _) hcstride hhalfRows).mp hfit.cr_inside
          omega
        · omega
    · rw [if_neg (by omega), Nat.cast_mul, Nat.cast_ofNat,
        show (2 : Int) * bytes - ((2 ^ 32 : Nat) : Int) = 2 * (bytes - 2 ^ 31) by omega,
        Int.mul_tdiv_cancel_left _ (by decide)] at hhalf
      have hsum : ((ystride.toNat * rows.toNat : Nat) : Int) + (bytes - 2 ^ 31) =
          (ystride.toNat * rows.toNat + bytes - 2 ^ 31 : Nat) := by
        omega
      have hsecond := toNat_behind base (hsum ▸ hwraps.add hhalf) (by omega)
      rw [hsecond]
      refine ⟨fun hfit => ?_, fun hcovers => ?_⟩
      · have := hfit.luma_le_cb hcstride hhalfRows
        change ystride.toNat * rows.toNat ≤ ystride.toNat * rows.toNat + bytes - 2 ^ 31 at this
        omega
      · omega
  · refine ⟨fun hfit => ?_, fun hcovers => ?_⟩
    · have := PlanesFit.luma_le hstride hrows hfit
      omega
    · omega

end

end AndroidYcbcr

/-! ### The planes of allocated buffers -/

def ycbcrBytes (format : PixelFormat) (stride height : Int) : Int :=
  match format with
  | .yv12 => stride * height + 2 * (roundUp 16 (stride / 2) * ((height + 1) / 2))
  | _ => stride * height + stride * ((height + 1) / 2)

/-- The size that the caller gave covers the planes, or the size of the format does and fits an `int`. For
`HAL_PIXEL_FORMAT_NV12`, what is left of that size in a word may also do. -/
def PlanesCovered (format : PixelFormat) (width height bufferSize extra unit : Int) : Prop :=
  let stride := roundUp 16 width
  let size := exactSize format width height stride height
  let bytes := ycbcrBytes format stride height
  height ≤ 0 ∨
    0 < width ∧ roundUp unit bufferSize < 2 ^ 32 ∧
      (bytes ≤ roundUp unit bufferSize ∨ size < 2 ^ 31 ∧ bytes ≤ roundUp unit (size + extra) ∨
        format = .nv12 ∧ bytes ≤ roundUp unit (size % 2 ^ 32 + extra))

instance (format : PixelFormat) (width height bufferSize extra unit : Int) :
    Decidable (PlanesCovered format width height bufferSize extra unit) := by
  unfold PlanesCovered
  infer_instance

def PixelFormat.IsYcbcr (format : PixelFormat) : Prop := format = .yCrCb420Sp ∨ format = .nv12 ∨ format = .yv12

theorem ycbcrBytes_interleaved {format : PixelFormat} (hformat : format ≠ .yv12) (stride height : Int) :
    ycbcrBytes format stride height = stride * height + stride * ((height + 1) / 2) := by
  unfold ycbcrBytes
  split
  · contradiction
  · rfl

theorem isYcbcr_of_ycbcr {hnd : PrivateHandle} {ycbcr : AndroidYcbcr} (hycbcr : hnd.ycbcr = some ycbcr) :
    (PixelFormat.ofCode hnd.format).IsYcbcr := by
  unfold PrivateHandle.ycbcr at hycbcr
  dsimp only at hycbcr
  split at hycbcr
  next hformat => exact .inl hformat
  next hformat => exact .inr (.inl hformat)
  next hformat => exact .inr (.inr hformat)
  · contradiction

theorem le_ycbcrBytes {stride height : Int} (heven : 2 ∣ stride) (hheight : 0 < height) (format : PixelFormat) :
    stride * height + stride * ((height + 1) / 2) ≤ ycbcrBytes format stride height := by
  have hrows : 0 ≤ (height + 1) / 2 := by omega
  have hhalf : stride ≤ 2 * roundUp 16 (stride / 2) := by
    have := (roundUp_bounds (show (0 : Int) < 16 by decide) (stride / 2)).1
    omega
  have hchroma := mul_le_mul_of_nonneg_right hhalf hrows
  rw [Int.mul_assoc] at hchroma
  unfold ycbcrBytes
  split
  · omega
  · exact le_rfl

theorem two_mul_le_ycbcrBytes {stride height : Int} (heven : 2 ∣ stride) (hstride : 0 ≤ stride) (hheight : 0 < height)
    (format : PixelFormat) : 2 * stride ≤ ycbcrBytes format stride height := by
  have hbytes := le_ycbcrBytes heven hheight format
  have hluma : stride ≤ stride * height := le_mul_of_one_le_right hstride hheight
  have hchroma : stride ≤ stride * ((height + 1) / 2) := le_mul_of_one_le_right hstride (by omega)
  omega

section

variable {hnd : PrivateHandle} {ycbcr : AndroidYcbcr}

theorem toNat_cstride {ystride : BitVec 32} (hdvd : 16 ∣ ystride.toNat) (hpositive : 0 < ystride.toNat)
    (hsmall : ystride.toNat < 2 ^ 31) :
    ((alignUp (ystride.sdiv 2) 16).toNat : Int) = roundUp 16 ((ystride.toNat : Int) / 2) ∧
      0 < (alignUp (ystride.sdiv 2) 16).toNat ∧ (alignUp (ystride.sdiv 2) 16).toNat ≤ ystride.toNat := by
  have hhalf := wraps_half ystride
  rw [BitVec.toInt_eq_toNat_cond, if_pos (by omega), Int.tdiv_eq_ediv_of_nonneg (by omega)] at hhalf
  have hwraps := hhalf.alignUp isPowerOfTwo_16
  have hlow := (roundUp_bounds (show (0 : Int) < 16 by decide) ((ystride.toNat : Int) / 2)).1
  have hhigh : roundUp 16 ((ystride.toNat : Int) / 2) ≤ ystride.toNat :=
    (roundUp_le_iff (by decide) (by exact_mod_cast hdvd)).mpr (by omega)
  have hnat := hwraps.toNat_eq (by change 0 ≤ roundUp 16 _; omega) (by change roundUp 16 _ < _; omega)
  change _ = roundUp 16 _ at hnat
  refine ⟨hnat, ?_, ?_⟩
  · omega
  · omega

theorem fits_iff_ycbcrBytes_le (hycbcr : hnd.ycbcr = some ycbcr) (hdvd : 16 ∣ hnd.width.toNat)
    (hstride : 0 < hnd.width.toNat) (hrows : 0 < hnd.height.toNat)
    (heven : PixelFormat.ofCode hnd.format = .yv12 → 2 ∣ hnd.height.toNat) :
    ycbcr.Fits hnd.base hnd.height.toNat hnd.size.toNat ↔
      ycbcrBytes (PixelFormat.ofCode hnd.format) hnd.width.toNat hnd.height.toNat ≤ hnd.size.toNat := by
  have hsize := hnd.size.isLt
  have haligned : alignUp hnd.width 16 = hnd.width := isPowerOfTwo_16.alignUp_of_dvd hdvd
  unfold PrivateHandle.ycbcr at hycbcr
  rw [haligned] at hycbcr
  dsimp only at hycbcr
  split at hycbcr
  next hformat =>
    rw [hformat, ← Option.some.inj hycbcr, AndroidYcbcr.fits_swap,
      AndroidYcbcr.fits_interleaved_iff hstride hdvd hrows hsize, ycbcrBytes_interleaved (by decide)]
    exact_mod_cast Iff.rfl
  next hformat =>
    rw [hformat, ← Option.some.inj hycbcr, AndroidYcbcr.fits_interleaved_iff hstride hdvd hrows hsize,
      ycbcrBytes_interleaved (by decide)]
    exact_mod_cast Iff.rfl
  next hformat =>
    have hpair := heven hformat
    rw [hformat, ← Option.some.inj hycbcr, ycbcrBytes]
    by_cases hsmall : hnd.width.toNat < 2 ^ 31
    · obtain ⟨hcstride, hpositive, hle⟩ := toNat_cstride hdvd hstride hsmall
      rw [AndroidYcbcr.fits_planar_iff hstride hpositive hle hrows hpair hsize, ← hcstride]
      exact_mod_cast Iff.rfl
    have htwice : hnd.width.toNat * 2 ≤ hnd.width.toNat * hnd.height.toNat :=
      Nat.mul_le_mul_left _ (Nat.le_of_dvd hrows hpair)
    refine ⟨fun hfits => ?_, fun hcovers => ?_⟩
    · rw [AndroidYcbcr.Fits, AndroidYcbcr.luma_eq] at hfits
      have := hfits.luma_le hstride hrows
      omega
    · have hcstride := (roundUp_bounds (show (0 : Int) < 16 by decide) ((hnd.width.toNat : Int) / 2)).1
      have hchroma : 0 ≤ roundUp 16 ((hnd.width.toNat : Int) / 2) * (((hnd.height.toNat : Int) + 1) / 2) :=
        mul_nonneg (by omega) (by omega)
      have : ((hnd.width.toNat * hnd.height.toNat : Nat) : Int) = hnd.width.toNat * hnd.height.toNat :=
        Int.natCast_mul _ _
      omega
  · contradiction

end

section

variable (padding : AdrenoPadding) {width height : BitVec 32} {format : PixelFormat} {dimensions : Dimensions}

theorem aligned_of_isYcbcr (hformat : format.IsYcbcr)
    (hdimensions : getBufferSizeAndDimensions padding width height format = dimensions)
    (haccepted : dimensions.Accepted) : dimensions.alignedw = alignUp width 16 ∧ dimensions.alignedh = height := by
  subst hdimensions
  rcases hformat with rfl | rfl | rfl
  · exact ⟨rfl, rfl⟩
  · exact ⟨rfl, rfl⟩
  · rw [getBufferSizeAndDimensions, if_neg (even_of_accepted_yv12 padding width height haccepted)]
    exact ⟨rfl, rfl⟩

theorem exactSize_nv12 (width height alignedw alignedh otherw otherh : Int) :
    exactSize .nv12 width height alignedw alignedh = exactSize .nv12 width height otherw otherh := rfl

theorem exactSize_nv12_nonneg {width height : Int} (hwidth : 0 < width) (hheight : 0 < height)
    (alignedw alignedh : Int) : 0 ≤ exactSize .nv12 width height alignedw alignedh := by
  have hround : ∀ {multiple x : Int}, 0 < multiple → 0 ≤ x → 0 ≤ roundUp multiple x := fun hmultiple hx =>
    hx.trans (roundUp_bounds hmultiple _).1
  have hpitch : 0 ≤ roundUp 128 width := hround (by decide) hwidth.le
  have hhalf : 0 ≤ height.tdiv 2 := Int.tdiv_nonneg hheight.le (by decide)
  exact add_nonneg (hround (by decide) (mul_nonneg hpitch (hround (by decide) hheight.le)))
    (hround (by decide) (mul_nonneg hpitch (hround (by decide) hhalf)))

theorem exactSize_ycbcr_bounds {stride rows : Int} (hstride : 0 < stride) (hrows : 0 < rows)
    (hformat : format.IsYcbcr) (hnv12 : format ≠ .nv12) (widthArgument heightArgument : Int) :
    0 ≤ exactSize format widthArgument heightArgument stride rows ∧
      exactSize format widthArgument heightArgument stride rows < ycbcrBytes format stride rows + 4096 := by
  have hluma : 0 < stride * rows := mul_pos hstride hrows
  have hround := fun bytes => roundUp_bounds (show (0 : Int) < 4096 by decide) bytes
  rcases hformat with rfl | rfl | rfl
  · have hhalf : stride * rows ≤ 2 * (stride * ((rows + 1) / 2)) := by
      rw [Int.mul_left_comm]
      exact mul_le_mul_of_nonneg_left (by omega) hstride.le
    have := hround (stride * rows + (stride * rows).tdiv 2)
    rw [ycbcrBytes_interleaved (by decide)]
    change 0 ≤ roundUp 4096 (stride * rows + (stride * rows).tdiv 2) ∧ roundUp 4096 _ < _
    rw [Int.tdiv_eq_ediv_of_nonneg hluma.le] at this ⊢
    omega
  · exact absurd rfl hnv12
  · have hchroma : 0 ≤ roundUp 16 (stride / 2) := by
      have := (roundUp_bounds (show (0 : Int) < 16 by decide) (stride / 2)).1
      omega
    have hhalf : roundUp 16 (stride / 2) * (rows / 2) ≤ roundUp 16 (stride / 2) * ((rows + 1) / 2) :=
      mul_le_mul_of_nonneg_left (by omega) hchroma
    have hnonneg : 0 ≤ roundUp 16 (stride / 2) * (rows / 2) := mul_nonneg hchroma (by omega)
    have := hround (stride * rows + roundUp 16 (stride / 2) * (rows / 2) * 2)
    change 0 ≤ roundUp 4096 (stride * rows + roundUp 16 (stride.tdiv 2) * rows.tdiv 2 * 2) ∧
      roundUp 4096 (stride * rows + roundUp 16 (stride.tdiv 2) * rows.tdiv 2 * 2) <
        stride * rows + 2 * (roundUp 16 (stride / 2) * ((rows + 1) / 2)) + 4096
    rw [Int.tdiv_eq_ediv_of_nonneg hstride.le, Int.tdiv_eq_ediv_of_nonneg hrows.le]
    omega

theorem ycbcrBytes_le_formatSize_iff (mdss5 : Bool) (usage : BitVec 32) (hformat : format.IsYcbcr)
    (hdimensions : getBufferSizeAndDimensions padding width height format = dimensions)
    (haccepted : dimensions.Accepted) (hwidth : 0 < width.toInt) (hheight : 0 < height.toInt) :
    ycbcrBytes format (roundUp 16 width.toInt) height.toInt ≤
        roundUp (sizeUnit mdss5 usage) (dimensions.size.toNat + secureExtra usage) ↔
      exactSize format width.toInt height.toInt (roundUp 16 width.toInt) height.toInt < 2 ^ 31 ∧
          ycbcrBytes format (roundUp 16 width.toInt) height.toInt ≤ roundUp (sizeUnit mdss5 usage)
            (exactSize format width.toInt height.toInt (roundUp 16 width.toInt) height.toInt + secureExtra usage) ∨
        format = .nv12 ∧
          ycbcrBytes format (roundUp 16 width.toInt) height.toInt ≤ roundUp (sizeUnit mdss5 usage)
            (exactSize format width.toInt height.toInt (roundUp 16 width.toInt) height.toInt % 2 ^ 32 +
              secureExtra usage) := by
  obtain ⟨hunit, hlimit, -⟩ := sizeUnit_bounds mdss5 usage
  have hextra := (secureExtra_bounds usage).2
  have hsize : 0 < dimensions.size.toNat ∧ dimensions.size.toNat < 2 ^ 31 := by
    rw [Dimensions.Accepted, BitVec.toInt_eq_toNat_cond] at haccepted
    have hlt := dimensions.size.isLt
    split at haccepted <;> omega
  obtain ⟨halignedw, halignedh⟩ := aligned_of_isYcbcr padding hformat hdimensions haccepted
  have hround := fun size => (roundUp_bounds hunit (size + secureExtra usage)).2
  by_cases hnv12 : format = .nv12
  · subst hnv12
    -- The size of this format is that of dimensions that are not given back
    have hwraps := wraps_size padding width height hdimensions haccepted fun h => by
      rcases h with h | h <;> exact absurd h (by decide)
    rw [exactSize_nv12 _ _ _ _ (roundUp 16 width.toInt) height.toInt] at hwraps
    have hmod : (dimensions.size.toNat : Int) =
        exactSize .nv12 width.toInt height.toInt (roundUp 16 width.toInt) height.toInt % 2 ^ 32 := by
      rw [hwraps, BitVec.toNat_ofInt]
      omega
    rw [← hmod, and_iff_right rfl]
    refine ⟨.inr, ?_⟩
    rintro (⟨hsmall, hexact⟩ | hcovers)
    · have hnonneg := exactSize_nv12_nonneg hwidth hheight (roundUp 16 width.toInt) height.toInt
      rwa [hmod, Int.emod_eq_of_lt hnonneg (by omega)]
    · exact hcovers
  · have hbytes := le_ycbcrBytes (show 2 ∣ roundUp 16 width.toInt from
      Int.dvd_trans (by decide) (dvd_roundUp 16 width.toInt)) hheight format
    have hstride : 0 < roundUp 16 width.toInt := by
      have := (roundUp_bounds (show (0 : Int) < 16 by decide) width.toInt).1
      omega
    have hbounds := exactSize_ycbcr_bounds hstride hheight hformat hnv12 width.toInt height.toInt
    rw [or_iff_left fun h => hnv12 h.1]
    by_cases hsmall : ycbcrBytes format (roundUp 16 width.toInt) height.toInt < 2 ^ 31 + 2 ^ 21
    · have hstrides := two_mul_le_ycbcrBytes (Int.dvd_trans (by decide) (dvd_roundUp 16 width.toInt)) hstride.le
        hheight format
      have hluma := mul_pos hstride hheight
      have hchromaRow : roundUp 16 width.toInt * height.toInt ≤
          2 * (roundUp 16 width.toInt * ((height.toInt + 1) / 2)) := by
        rw [Int.mul_left_comm]
        exact mul_le_mul_of_nonneg_left (by omega) hstride.le
      have haligned : Wraps (alignUp width 16) (roundUp 16 width.toInt) :=
        (wraps_toInt width).alignUp isPowerOfTwo_16
      have hword := haligned.toInt_eq (by omega) (by omega)
      have hwraps := wraps_size padding width height hdimensions haccepted fun _ => by
        rw [halignedw, halignedh, hword]
        omega
      rw [halignedw, halignedh, hword] at hwraps
      have hsame := hwraps.toNat_eq hbounds.1 (by omega)
      rw [hsame]
      exact ⟨fun hcovers => ⟨by omega, hcovers⟩, And.right⟩
    · refine ⟨fun hcovers => ?_, fun hfits => ?_⟩
      · have := hround dimensions.size.toNat
        omega
      · have := hround (exactSize format width.toInt height.toInt (roundUp 16 width.toInt) height.toInt)
        omega

theorem stride_bounds (hformat : format.IsYcbcr)
    (hdimensions : getBufferSizeAndDimensions padding width height format = dimensions)
    (haccepted : dimensions.Accepted) (hwidth : width.toInt ≤ 0) : 2 ^ 31 ≤ (alignUp width 16).toNat := by
  have haligned : Wraps (alignUp width 16) (roundUp 16 width.toInt) := (wraps_toInt width).alignUp isPowerOfTwo_16
  have hlow := (roundUp_bounds (show (0 : Int) < 16 by decide) width.toInt).1
  have hhigh : roundUp 16 width.toInt ≤ 0 := (roundUp_le_iff (by decide) (Int.dvd_zero 16)).mpr hwidth
  have hleast := BitVec.le_toInt width
  have hword := haligned.toInt_eq (by omega) (by omega)
  by_cases hzero : roundUp 16 width.toInt = 0
  · exfalso
    have hcolumns : dimensions.alignedw.toInt = 0 := by
      rw [(aligned_of_isYcbcr padding hformat hdimensions haccepted).1, hword, hzero]
    have hwraps := wraps_size padding width height hdimensions haccepted fun _ => by
      rw [hcolumns, Int.zero_mul]
      decide
    have hpitch : roundUp 128 width.toInt = 0 := by
      simp only [roundUp] at hzero ⊢
      omega
    have hnone : exactSize format width.toInt height.toInt 0 dimensions.alignedh.toInt = 0 := by
      rcases hformat with rfl | rfl | rfl
      · simp [exactSize, roundUp]
      · rw [exactSize, hpitch, Int.zero_mul, Int.zero_mul]
        rfl
      · simp [exactSize, roundUp]
    rw [hcolumns, hnone] at hwraps
    rw [Dimensions.Accepted, hwraps] at haccepted
    exact absurd haccepted (by decide)
  · rw [BitVec.toInt_eq_toNat_cond] at hword
    split at hword <;> omega

/-- The planes of a locked buffer are apart and inside exactly where the bytes of its planes are covered. -/
theorem fits_allocated_iff {mdss5 mapFbMemory : Bool} {code usage bufferSize stride : BitVec 32}
    {data eData : AllocOutcome} {allocated hnd : PrivateHandle} {lockUsage : BitVec 32} {main metadata : MapOutcome}
    {clean : Int} {locked : Mapping} {ycbcr : AndroidYcbcr}
    (hallocated : allocImpl padding mdss5 mapFbMemory width height code usage bufferSize data eData =
      .regular (some allocated) stride)
    (hsame : hnd.SameBuffer allocated)
    (hlocked : hnd.grallocLockYcbcr lockUsage main metadata clean = some (locked, some ycbcr)) :
    ycbcr.Fits locked.hnd.base height.toInt.toNat locked.hnd.size.toNat ↔
      PlanesCovered (.ofCode (grallocFormat code usage)) width.toInt height.toInt bufferSize.toNat (secureExtra usage)
        (sizeUnit mdss5 usage) := by
  obtain ⟨haccepted, hsize, hformat, hwidth, hheight⟩ := allocImpl_eq_regular hallocated
  obtain ⟨hkept, hycbcr⟩ := ycbcr_of_locked hlocked
  obtain ⟨hkeptSize, hkeptFormat, hkeptWidth, hkeptHeight⟩ := hkept.trans hsame
  have hknown : (PixelFormat.ofCode (grallocFormat code usage)).IsYcbcr := by
    rw [← hformat, ← hkeptFormat]
    exact isYcbcr_of_ycbcr hycbcr
  obtain ⟨halignedw, halignedh⟩ := aligned_of_isYcbcr padding hknown rfl haccepted
  rw [hwidth, halignedw] at hkeptWidth
  rw [hheight, halignedh] at hkeptHeight
  rw [hsize] at hkeptSize
  rw [hformat] at hkeptFormat
  by_cases hrows : height.toInt ≤ 0
  · rw [Int.toNat_of_nonpos hrows]
    exact iff_of_true (PlanesFit.of_rows rfl rfl rfl) (.inl hrows)
  have hheightNat : (height.toNat : Int) = height.toInt := by
    rw [BitVec.toInt_eq_toNat_cond] at hrows ⊢
    have hlt := height.isLt
    split at hrows
    next hsmall => rw [if_pos hsmall]
    · omega
  have hdvd : 16 ∣ locked.hnd.width.toNat := by
    rw [hkeptWidth]
    exact isPowerOfTwo_16.dvd_alignUp width
  have heven : PixelFormat.ofCode locked.hnd.format = .yv12 → 2 ∣ locked.hnd.height.toNat := by
    intro hyv12
    rw [hkeptFormat] at hyv12
    rw [hyv12] at haccepted
    rw [hkeptHeight]
    have hpair := not_not.mp (not_or.mp (even_of_accepted_yv12 padding width height haccepted)).2
    have hrest := congrArg BitVec.toNat hpair
    rw [BitVec.toNat_and] at hrest
    exact Nat.dvd_of_mod_eq_zero ((Nat.and_one_is_mod _).symm.trans hrest)
  have haligned : Wraps (alignUp width 16) (roundUp 16 width.toInt) := (wraps_toInt width).alignUp isPowerOfTwo_16
  have hlow := (roundUp_bounds (show (0 : Int) < 16 by decide) width.toInt)
  by_cases hcolumns : 0 < width.toInt
  · have hhigh := BitVec.toInt_lt (x := width)
    have hstride := haligned.toNat_eq (by omega) (by omega)
    have hfits := fits_iff_ycbcrBytes_le hycbcr hdvd (by rw [hkeptWidth]; omega) (by rw [hkeptHeight]; omega) heven
    have hpositive : 0 < ycbcrBytes (.ofCode (grallocFormat code usage)) (roundUp 16 width.toInt) height.toInt := by
      have := two_mul_le_ycbcrBytes (Int.dvd_trans (by decide) (dvd_roundUp 16 width.toInt)) (by omega)
        (Int.not_le.mp hrows) (.ofCode (grallocFormat code usage))
      omega
    rw [hkeptFormat, hkeptWidth, hkeptHeight, hkeptSize, hstride, hheightNat,
      le_allocated_iff mdss5 _ usage bufferSize haccepted hpositive,
      ycbcrBytes_le_formatSize_iff padding mdss5 usage hknown rfl haccepted hcolumns (by omega)] at hfits
    rw [show height.toInt.toNat = height.toNat by omega, hkeptSize, hfits, PlanesCovered, or_iff_right hrows,
      and_iff_right hcolumns]
  · have hstride := stride_bounds padding hknown rfl haccepted (Int.not_lt.mp hcolumns)
    have hfits := fits_iff_ycbcrBytes_le hycbcr hdvd (by rw [hkeptWidth]; omega) (by rw [hkeptHeight]; omega) heven
    rw [hkeptFormat, hkeptWidth, hkeptHeight, hheightNat] at hfits
    rw [show height.toInt.toNat = height.toNat by omega, hfits]
    refine iff_of_false (fun hcovers => ?_) (fun hcovered => ?_)
    · have hbytes := @two_mul_le_ycbcrBytes (alignUp width 16).toNat _
        (Int.natCast_dvd_natCast.mpr (Nat.dvd_trans (by decide) (isPowerOfTwo_16.dvd_alignUp width)))
        (Int.natCast_nonneg _) (Int.not_le.mp hrows) (.ofCode (grallocFormat code usage))
      have hsizeLt := locked.hnd.size.isLt
      omega
    · exact hcolumns (hcovered.resolve_left hrows).1

end

def softwareHandle (size width height : BitVec 32) : PrivateHandle :=
  { PrivateHandle.new 5 size (flagItuR601 ||| flagUsesIon) bufferTypeVideo 0x11 width height with
    fdMetadata := 6
    base := 0x40000000
    baseMetadata := 0x50000000 }

/-- The planes of a frame of 640 by 480 are inside. -/
theorem fits_allocated_iff_small :
    AndroidYcbcr.Fits ⟨0x40000000, 0x4004B001, 0x4004B000, 640, 640, 2, List.replicate 8 0⟩ 0x40000000 480 462848 ↔
      PlanesCovered .yCrCb420Sp 640 480 0 0 4096 :=
  fits_allocated_iff none (show allocImpl none false false 640 480 0x11 0x33 0 ⟨0, 5, 0, 0x40000000⟩
      ⟨0, 6, 0, 0x50000000⟩ = .regular (some (softwareHandle 462848 640 480)) 640 by decide +kernel)
    (.refl (softwareHandle 462848 640 480))
    (show (softwareHandle 462848 640 480).grallocLockYcbcr 0x33 ⟨0, 0x40000000, 0⟩ ⟨0, 0x50000000, 0⟩ 0 =
      some (⟨0, { softwareHandle 462848 640 480 with flags := flagItuR601 ||| flagUsesIon ||| flagNeedsFlush }, []⟩,
        some ⟨0x40000000, 0x4004B001, 0x4004B000, 640, 640, 2, List.replicate 8 0⟩) by decide +kernel)

/-- One row of 8192 bytes: the buffer has half a row for its chroma. -/
theorem not_fits_allocated :
    allocImpl none false false 8192 1 0x11 0x33 0 ⟨0, 5, 0, 0x40000000⟩ ⟨0, 6, 0, 0x50000000⟩ =
        .regular (some (softwareHandle 12288 8192 1)) 8192 ∧
      (softwareHandle 12288 8192 1).grallocLockYcbcr 0x33 ⟨0, 0x40000000, 0⟩ ⟨0, 0x50000000, 0⟩ 0 =
        some (⟨0, { softwareHandle 12288 8192 1 with flags := flagItuR601 ||| flagUsesIon ||| flagNeedsFlush }, []⟩,
          some ⟨0x40000000, 0x40002001, 0x40002000, 8192, 8192, 2, List.replicate 8 0⟩) ∧
      ¬AndroidYcbcr.Fits ⟨0x40000000, 0x40002001, 0x40002000, 8192, 8192, 2, List.replicate 8 0⟩ 0x40000000 1
        12288 := by
  refine ⟨by decide +kernel, by decide +kernel, fun hfits => ?_⟩
  have hbyte : 12288 ∈ (⟨8192, 8192, 1, 2⟩ : Plane).bytes := ⟨0, Nat.one_pos, 2048, by decide, rfl⟩
  exact absurd (hfits.cr_inside hbyte) (by simp)

end Nozomi.Gralloc
