import Mathlib.Data.List.Permutation
import Nozomi.Base.Align

/-!
# The colour converter

`C2DColorConverter.cpp`: the buffers and the surfaces of both ports, and one conversion with the calls that it makes
to the C2D library. Sizes are numbers, which the converter keeps in words of 32 bits where they fit.
-/

namespace Nozomi.ColorConvert

inductive ColorConvertFormat where
  | rgb565
  | ycbcr420Tile
  | ycbcr420Sp
  | ycbcr420P
  | ycrcb420P
  | rgba8888
  | nv12In2K
  | nv12In128m
  deriving DecidableEq, Repr

/-- `C2D_PORT`, and the argument `isSource` of the helpers. -/
inductive C2DPort where
  | input
  | output
  deriving DecidableEq, Repr

open ColorConvertFormat

def isYUVSurface : ColorConvertFormat → Bool
  | rgb565 | rgba8888 => false
  | _ => true

/-- The formats with half strides for the two chroma planes. -/
def isPlanar (format : ColorConvertFormat) : Bool := format = ycbcr420P ∨ format = ycrcb420P

def calcStride (mSrcStride : Nat) (format : ColorConvertFormat) (width : Nat) : Nat :=
  match format with
  | rgb565 => align 32 width * 2
  | rgba8888 => if mSrcStride ≠ 0 then mSrcStride * 4 else align 32 width * 4
  | ycbcr420Tile => align 128 width
  | ycbcr420Sp => align 16 width
  | nv12In2K => align 16 width
  | nv12In128m => align 128 width
  | ycbcr420P => width
  | ycrcb420P => align 16 width

def calcYSize (format : ColorConvertFormat) (width height : Nat) : Nat :=
  match format with
  | ycbcr420Sp => align 16 width * height
  | ycbcr420P => width * height
  | ycrcb420P => align 16 width * height
  | ycbcr420Tile => align 8192 (align 128 width * align 32 height)
  | nv12In2K => align 2048 (align 16 width * height)
  | nv12In128m => align 128 width * align 32 height
  | _ => 0

def calcSize (mSrcStride : Nat) (format : ColorConvertFormat) (width height : Nat) : Nat :=
  match format with
  | rgb565 => align 4096 (align 32 width * align 32 height * 2)
  | rgba8888 =>
    align 4096 (if mSrcStride ≠ 0 then mSrcStride * align 32 height * 4 else align 32 width * align 32 height * 4)
  | ycbcr420Sp => align 4096 (align 16 width * height + align 32 (width / 2) * (height / 2) * 2)
  | ycbcr420P => align 4096 (width * height * 3 / 2)
  | ycrcb420P => align 4096 (align 16 width * height + align 16 (width / 2) * (height / 2) * 2)
  | ycbcr420Tile =>
    align 8192 (align 128 width * align 32 height) + align 8192 (align 128 width * align 32 (height / 2))
  | nv12In2K =>
    align 4096 (align 2048 (align 16 width * height) + align 2048 (align 16 width * height / 2))
  | nv12In128m => align 4096 (align 128 width * align 32 height + align 128 width * align 16 (height / 2))

/-- The fields of the converter with `mSrc` in front of their names, or with `mDst`. -/
structure PortConfig where
  width : Nat
  height : Nat
  format : ColorConvertFormat
  size : Nat
  ySize : Nat
  deriving DecidableEq, Repr

structure C2DColorConverter where
  mError : Int
  mSrcStride : Nat
  config : C2DPort → PortConfig

def create (srcWidth srcHeight dstWidth dstHeight : Nat) (srcFormat dstFormat : ColorConvertFormat)
    (srcStride : Nat) : C2DColorConverter where
  mError := 0
  mSrcStride := srcStride
  config
    | .input => ⟨srcWidth, srcHeight, srcFormat, calcSize srcStride srcFormat srcWidth srcHeight,
        calcYSize srcFormat srcWidth srcHeight⟩
    | .output => ⟨dstWidth, dstHeight, dstFormat, calcSize srcStride dstFormat dstWidth dstHeight,
        calcYSize dstFormat dstWidth dstHeight⟩

def calcLumaAlign : ColorConvertFormat → Nat
  | nv12In2K => 2048
  | _ => 1

def calcSizeAlign : ColorConvertFormat → Nat
  | ycbcr420Sp | ycbcr420P | nv12In2K | nv12In128m => 4096
  | _ => 1

def calcBytesPerPixel : ColorConvertFormat → Nat × Nat
  | rgb565 => (2, 1)
  | rgba8888 => (4, 1)
  | _ => (3, 2)

structure C2DBuffReq where
  width : Nat
  height : Nat
  stride : Nat
  sliceHeight : Nat
  lumaAlign : Nat
  sizeAlign : Nat
  size : Nat
  bpp : Nat × Nat
  deriving DecidableEq, Repr

def C2DColorConverter.getBuffReq (converter : C2DColorConverter) (port : C2DPort) : C2DBuffReq :=
  let ⟨width, height, format, _, _⟩ := converter.config port
  { width := width
    height := height
    stride := calcStride converter.mSrcStride format width
    sliceHeight := height
    lumaAlign := calcLumaAlign format
    sizeAlign := calcSizeAlign format
    size := calcSize converter.mSrcStride format width height
    bpp := calcBytesPerPixel format }

/-! ### Surfaces -/

abbrev Pointer := BitVec 32

structure YUVSurfaceDef where
  width : Nat
  height : Nat
  plane0 : Pointer
  phys0 : Pointer
  stride0 : Nat
  plane1 : Pointer
  phys1 : Pointer
  stride1 : Nat
  plane2 : Pointer
  phys2 : Pointer
  stride2 : Nat
  deriving DecidableEq, Repr

structure RGBSurfaceDef where
  width : Nat
  height : Nat
  buffer : Pointer
  phys : Pointer
  stride : Nat
  deriving DecidableEq, Repr

inductive SurfaceDef where
  | yuv (surfaceDef : YUVSurfaceDef)
  | rgb (surfaceDef : RGBSurfaceDef)
  deriving DecidableEq, Repr

def dummyPointer : Pointer := 0xaaaaaaaa

def getDummySurfaceDef (mSrcStride : Nat) (format : ColorConvertFormat) (width height : Nat) : SurfaceDef :=
  let stride := calcStride mSrcStride format width
  if isYUVSurface format then
    .yuv
      { width := width
        height := height
        plane0 := dummyPointer
        phys0 := dummyPointer
        stride0 := stride
        plane1 := dummyPointer
        phys1 := dummyPointer
        stride1 := if isPlanar format then stride / 2 else stride
        plane2 := 0
        phys2 := if isPlanar format then dummyPointer else 0
        stride2 := if isPlanar format then stride / 2 else 0 }
  else
    .rgb ⟨width, height, dummyPointer, dummyPointer, stride⟩

/-- `updateYUVSurfaceDef` and `updateRGBSurfaceDef`, with the address that `getMappedGPUAddr` returned. Every pointer
that they read was written in the same call. -/
def updateSurfaceDef (ySize : Nat) (base data gpuaddr : Pointer) : SurfaceDef → SurfaceDef
  | .yuv surfaceDef =>
    let phys0 := gpuaddr + (data - base)
    let plane1 := data + BitVec.ofNat 32 ySize
    let phys1 := phys0 + BitVec.ofNat 32 ySize
    .yuv
      { surfaceDef with
        plane0 := data
        phys0 := phys0
        plane1 := plane1
        phys1 := phys1
        plane2 := plane1 + BitVec.ofNat 32 (ySize / 4)
        phys2 := phys1 + BitVec.ofNat 32 (ySize / 4) }
  | .rgb surfaceDef => .rgb { surfaceDef with buffer := data, phys := gpuaddr }

/-- The address that is given to `unmapGPUAddr`. -/
def SurfaceDef.phys : SurfaceDef → Pointer
  | .yuv surfaceDef => surfaceDef.phys0
  | .rgb surfaceDef => surfaceDef.phys

def C2DColorConverter.surfaceDef (converter : C2DColorConverter) (port : C2DPort) (base data gpuaddr : Pointer) :
    SurfaceDef :=
  let ⟨width, height, format, _, ySize⟩ := converter.config port
  updateSurfaceDef ySize base data gpuaddr (getDummySurfaceDef converter.mSrcStride format width height)

/-! ### The planes in the buffer -/

/-- A plane at an offset from the data pointer. -/
structure Plane where
  offset : Nat
  rows : Nat
  stride : Nat

def Plane.stop (plane : Plane) : Nat := plane.offset + plane.rows * plane.stride

/-- The planes of a surface of a format. The chroma planes of the formats have half the rows. -/
def SurfaceDef.planes (format : ColorConvertFormat) : SurfaceDef → List Plane
  | .yuv surfaceDef =>
    let offset (plane : Pointer) := (plane - surfaceDef.plane0).toNat
    let chroma := surfaceDef.height / 2
    [⟨0, surfaceDef.height, surfaceDef.stride0⟩, ⟨offset surfaceDef.plane1, chroma, surfaceDef.stride1⟩] ++
      if isPlanar format then [⟨offset surfaceDef.plane2, chroma, surfaceDef.stride2⟩] else []
  | .rgb surfaceDef => [⟨0, surfaceDef.height, surfaceDef.stride⟩]

def firstPlaneBytes : ColorConvertFormat → Nat
  | rgb565 => 2
  | rgba8888 => 4
  | _ => 1

/-- The requirements for a port are enough for the surface of the port. -/
structure C2DColorConverter.Fits (converter : C2DColorConverter) (port : C2DPort) (base data gpuaddr : Pointer) : Prop
    where
  stride : (converter.getBuffReq port).width * firstPlaneBytes (converter.config port).format ≤
    (converter.getBuffReq port).stride
  inside : ∀ plane ∈ (converter.surfaceDef port base data gpuaddr).planes (converter.config port).format,
    plane.stop ≤ (converter.getBuffReq port).size
  disjoint : ((converter.surfaceDef port base data gpuaddr).planes (converter.config port).format).Pairwise
    fun first second => first.stop ≤ second.offset

/-- The sizes of the planes of a YUV format. -/
structure Layout (mSrcStride : Nat) (format : ColorConvertFormat) (width height : Nat) : Prop where
  luma : height * calcStride mSrcStride format width ≤ calcYSize format width height
  chroma : isPlanar format = false → calcYSize format width height +
    height / 2 * calcStride mSrcStride format width ≤ calcSize mSrcStride format width height
  planar : isPlanar format = true →
    height / 2 * (calcStride mSrcStride format width / 2) ≤ calcYSize format width height / 4 ∧
    calcYSize format width height + 2 * (calcYSize format width height / 4) ≤ calcSize mSrcStride format width height

theorem layout_of_yuv {format : ColorConvertFormat} (hyuv : isYUVSurface format = true) {width height : Nat}
    (hwidth : 2 ∣ width) (hheight : 2 ∣ height) (mSrcStride : Nat) : Layout mSrcStride format width height := by
  obtain ⟨columns, rfl⟩ := hwidth
  obtain ⟨rows, rfl⟩ := hheight
  have hrows : 2 * rows / 2 = rows := Nat.mul_div_cancel_left rows Nat.two_pos
  have hcolumns : 2 * columns / 2 = columns := Nat.mul_div_cancel_left columns Nat.two_pos
  cases format with
  | rgb565 => simp [isYUVSurface] at hyuv
  | rgba8888 => simp [isYUVSurface] at hyuv
  | ycbcr420Sp =>
    refine ⟨(Nat.mul_comm _ _).le, fun _ => ?_, by simp [isPlanar]⟩
    have hrow : align 16 (2 * columns) ≤ align 32 columns * 2 := by unfold align; omega
    simp only [calcYSize, calcStride, calcSize, hrows, hcolumns]
    refine Nat.le_trans ?_ (le_align (by decide) _)
    rw [Nat.mul_comm rows, Nat.mul_right_comm (align 32 columns)]
    exact Nat.add_le_add_left (Nat.mul_le_mul_right rows hrow) _
  | nv12In2K =>
    refine ⟨?_, fun _ => ?_, by simp [isPlanar]⟩ <;> simp only [calcYSize, calcStride, calcSize, hrows]
    · rw [Nat.mul_comm]
      exact le_align (by decide) _
    · refine Nat.le_trans (Nat.add_le_add_left ?_ _) (le_align (by decide) _)
      rw [Nat.mul_left_comm, Nat.mul_div_cancel_left _ Nat.two_pos, Nat.mul_comm]
      exact le_align (by decide) _
  | nv12In128m =>
    refine ⟨?_, fun _ => ?_, by simp [isPlanar]⟩ <;> simp only [calcYSize, calcStride, calcSize, hrows]
    · rw [Nat.mul_comm]
      exact Nat.mul_le_mul_left _ (le_align (by decide) _)
    · rw [Nat.mul_comm rows]
      refine Nat.le_trans (Nat.add_le_add_left ?_ _) (le_align (by decide) _)
      exact Nat.mul_le_mul_left _ (le_align (by decide) _)
  | ycbcr420Tile =>
    refine ⟨?_, fun _ => ?_, by simp [isPlanar]⟩ <;> simp only [calcYSize, calcStride, calcSize, hrows]
    · rw [Nat.mul_comm]
      exact Nat.le_trans (Nat.mul_le_mul_left _ (le_align (by decide) _)) (le_align (by decide) _)
    · rw [Nat.mul_comm rows]
      refine Nat.add_le_add_left (Nat.le_trans ?_ (le_align (by decide) _)) _
      exact Nat.mul_le_mul_left _ (le_align (by decide) _)
  | ycbcr420P =>
    have hquarter : 2 * columns * (2 * rows) / 4 = columns * rows := by
      rw [show 2 * columns * (2 * rows) = 4 * (columns * rows) by ring, Nat.mul_div_cancel_left _ (by decide)]
    refine ⟨(Nat.mul_comm _ _).le, by simp [isPlanar], fun _ => ?_⟩
    simp only [calcYSize, calcStride, calcSize, hrows, hcolumns, hquarter]
    refine ⟨(Nat.mul_comm _ _).le, Nat.le_trans ?_ (le_align (by decide) _)⟩
    rw [show 2 * columns * (2 * rows) = 4 * (columns * rows) by ring]
    omega
  | ycrcb420P =>
    have hhalf : align 16 (2 * columns) = 2 * align 8 columns := by unfold align; omega
    have hquarter : 2 * align 8 columns * (2 * rows) / 4 = align 8 columns * rows := by
      rw [show 2 * align 8 columns * (2 * rows) = 4 * (align 8 columns * rows) by ring,
        Nat.mul_div_cancel_left _ (by decide)]
    have hrow : align 8 columns ≤ align 16 columns := by unfold align; omega
    refine ⟨(Nat.mul_comm _ _).le, by simp [isPlanar], fun _ => ?_⟩
    simp only [calcYSize, calcStride, calcSize, hrows, hcolumns, hhalf, hquarter]
    refine ⟨?_, Nat.le_trans (Nat.add_le_add_left ?_ _) (le_align (by decide) _)⟩
    · rw [Nat.mul_div_cancel_left _ Nat.two_pos, Nat.mul_comm]
    · rw [Nat.mul_comm 2]
      exact Nat.mul_le_mul_right 2 (Nat.mul_le_mul_right rows hrow)

theorem rows_le_of_rgb {format : ColorConvertFormat} (hrgb : isYUVSurface format = false)
    (mSrcStride width height : Nat) :
    height * calcStride mSrcStride format width ≤ calcSize mSrcStride format width height := by
  have hrows : height ≤ align 32 height := le_align (by decide) height
  have hbytes (stride bytes : Nat) : height * (stride * bytes) ≤ align 4096 (stride * align 32 height * bytes) := by
    refine Nat.le_trans ?_ (le_align (by decide) _)
    rw [Nat.mul_left_comm, ← Nat.mul_assoc]
    exact Nat.mul_le_mul_right bytes (Nat.mul_le_mul_left stride hrows)
  cases format with
  | rgb565 => exact hbytes _ _
  | rgba8888 =>
    simp only [calcStride, calcSize]
    split <;> exact hbytes _ _
  | _ => simp [isYUVSurface] at hrgb

theorem stride_iff (mSrcStride : Nat) (format : ColorConvertFormat) (width : Nat) :
    width * firstPlaneBytes format ≤ calcStride mSrcStride format width ↔
      (format = rgba8888 → mSrcStride = 0 ∨ width ≤ mSrcStride) := by
  have hwidth {multiple : Nat} (hpositive : 0 < multiple) (bytes : Nat) :
      width * bytes ≤ align multiple width * bytes :=
    Nat.mul_le_mul_right bytes (le_align hpositive width)
  by_cases hrgba : format = rgba8888
  · subst hrgba
    simp only [firstPlaneBytes, calcStride, forall_const]
    split
    · omega
    · exact iff_of_true (hwidth (by decide) 4) (by omega)
  · refine iff_of_true ?_ fun heq => absurd heq hrgba
    cases format with
    | rgba8888 => exact absurd rfl hrgba
    | rgb565 => exact hwidth (by decide) 2
    | ycbcr420P => exact (Nat.mul_one width).le
    | _ => exact Nat.le_trans (hwidth (by decide) 1) (Nat.mul_one _).le

theorem offset_eq {offset : Nat} (hfits : offset < 2 ^ 32) (data : Pointer) :
    (data + BitVec.ofNat 32 offset - data).toNat = offset := by
  rw [BitVec.add_comm, BitVec.add_sub_cancel, BitVec.toNat_ofNat, Nat.mod_eq_of_lt hfits]

theorem planes_of_yuv {format : ColorConvertFormat} (hyuv : isYUVSurface format = true) {ySize : Nat}
    (hfits : ySize + (if isPlanar format then ySize / 4 else 0) < 2 ^ 32) (mSrcStride width height : Nat)
    (base data gpuaddr : Pointer) :
    (updateSurfaceDef ySize base data gpuaddr (getDummySurfaceDef mSrcStride format width height)).planes format =
      let stride := calcStride mSrcStride format width
      if isPlanar format then
        [⟨0, height, stride⟩, ⟨ySize, height / 2, stride / 2⟩, ⟨ySize + ySize / 4, height / 2, stride / 2⟩]
      else [⟨0, height, stride⟩, ⟨ySize, height / 2, stride⟩] := by
  have hfirst : (data + BitVec.ofNat 32 ySize - data).toNat = ySize := offset_eq (Nat.lt_of_add_right_lt hfits) data
  have hsecond := offset_eq hfits data
  cases hplanar : isPlanar format with
  | false =>
    simp only [SurfaceDef.planes, updateSurfaceDef, getDummySurfaceDef, hyuv, if_true, hplanar, Bool.false_eq_true,
      if_false, BitVec.ofNat_eq_ofNat, hfirst, List.append_nil]
  | true =>
    rw [hplanar, if_pos rfl, BitVec.ofNat_add, ← BitVec.add_assoc] at hsecond
    simp only [SurfaceDef.planes, updateSurfaceDef, getDummySurfaceDef, hyuv, if_true, hplanar,
      BitVec.ofNat_eq_ofNat, hfirst, hsecond, List.cons_append, List.nil_append]

variable {converter : C2DColorConverter} {port : C2DPort} {format : ColorConvertFormat} {width height : Nat}

/-- The sizes and the planes of a port agree, whatever the stride. -/
theorem fits_iff (hconfig : converter.config port = ⟨width, height, format,
      calcSize converter.mSrcStride format width height, calcYSize format width height⟩)
    (hwidth : 2 ∣ width) (hheight : 2 ∣ height) (hfits : calcSize converter.mSrcStride format width height < 2 ^ 32)
    (base data gpuaddr : Pointer) :
    converter.Fits port base data gpuaddr ↔
      (format = rgba8888 → converter.mSrcStride = 0 ∨ width ≤ converter.mSrcStride) := by
  rw [← stride_iff]
  refine ⟨fun hall => ?_, fun hstride => ?_⟩
  · simpa only [C2DColorConverter.getBuffReq, hconfig] using hall.stride
  have hsurface : converter.surfaceDef port base data gpuaddr = updateSurfaceDef (calcYSize format width height)
      base data gpuaddr (getDummySurfaceDef converter.mSrcStride format width height) := by
    rw [C2DColorConverter.surfaceDef, hconfig]
  have hbuffer : (converter.getBuffReq port).size = calcSize converter.mSrcStride format width height := by
    rw [C2DColorConverter.getBuffReq, hconfig]
  refine ⟨?_, ?_, ?_⟩
  · simpa only [C2DColorConverter.getBuffReq, hconfig] using hstride
  all_goals
    simp only [hsurface, hbuffer, hconfig]
    cases hyuv : isYUVSurface format with
    | false =>
      have hrows := rows_le_of_rgb hyuv converter.mSrcStride width height
      simp [getDummySurfaceDef, hyuv, updateSurfaceDef, SurfaceDef.planes, Plane.stop, hrows]
    | true =>
      obtain ⟨hluma, hchroma, hplanar⟩ := layout_of_yuv hyuv hwidth hheight converter.mSrcStride
      cases hthree : isPlanar format with
      | false =>
        have hend := hchroma hthree
        rw [planes_of_yuv hyuv (by simp [hthree]; omega), if_neg (by simp [hthree])]
        simp [Plane.stop]
        omega
      | true =>
        obtain ⟨hquarter, hend⟩ := hplanar hthree
        rw [planes_of_yuv hyuv (by simp [hthree]; omega), if_pos hthree]
        simp [Plane.stop]
        omega

/-- The requirements for both ports are enough exactly where the source stride is not a destination stride too. -/
theorem getBuffReq_fits_iff (srcFormat dstFormat : ColorConvertFormat)
    {srcWidth srcHeight dstWidth dstHeight srcStride : Nat} (hsrcWidth : 2 ∣ srcWidth) (hsrcHeight : 2 ∣ srcHeight)
    (hdstWidth : 2 ∣ dstWidth) (hdstHeight : 2 ∣ dstHeight) (hstride : srcStride = 0 ∨ srcWidth ≤ srcStride)
    (hsrcSize : calcSize srcStride srcFormat srcWidth srcHeight < 2 ^ 32)
    (hdstSize : calcSize srcStride dstFormat dstWidth dstHeight < 2 ^ 32) :
    (∀ port base data gpuaddr, (create srcWidth srcHeight dstWidth dstHeight srcFormat dstFormat srcStride).Fits port
      base data gpuaddr) ↔ ¬(dstFormat = rgba8888 ∧ 0 < srcStride ∧ srcStride < dstWidth) := by
  have hsrc := @fits_iff (create srcWidth srcHeight dstWidth dstHeight srcFormat dstFormat srcStride) .input srcFormat
    srcWidth srcHeight rfl hsrcWidth hsrcHeight hsrcSize
  have hdst := @fits_iff (create srcWidth srcHeight dstWidth dstHeight srcFormat dstFormat srcStride) .output dstFormat
    dstWidth dstHeight rfl hdstWidth hdstHeight hdstSize
  change ∀ base data gpuaddr, _ ↔ (srcFormat = rgba8888 → srcStride = 0 ∨ srcWidth ≤ srcStride) at hsrc
  change ∀ base data gpuaddr, _ ↔ (dstFormat = rgba8888 → srcStride = 0 ∨ dstWidth ≤ srcStride) at hdst
  constructor
  · rintro hall ⟨rfl, hpositive, hless⟩
    have hfits := (hdst 0 0 0).mp (hall .output 0 0 0) rfl
    omega
  · intro hwide port base data gpuaddr
    cases port with
    | input => exact (hsrc base data gpuaddr).mpr fun _ => hstride
    | output =>
      refine (hdst base data gpuaddr).mpr fun hrgba => ?_
      by_contra hshort
      exact hwide ⟨hrgba, by omega, by omega⟩

theorem getBuffReq_fits_hd : (∀ port base data gpuaddr,
    (create 1280 720 1920 1080 nv12In2K rgba8888 1280).Fits port base data gpuaddr) ↔
      ¬(rgba8888 = rgba8888 ∧ 0 < 1280 ∧ 1280 < 1920) :=
  getBuffReq_fits_iff nv12In2K rgba8888 (by decide) (by decide) (by decide) (by decide) (by decide) (by decide)
    (by decide)

/-- The stride of the source is too small for the rows of a wider destination. -/
theorem getBuffReq_not_fits :
    ¬∀ base data gpuaddr, (create 1280 720 1920 1080 nv12In2K rgba8888 1280).Fits .output base data gpuaddr :=
  fun hall => absurd (hall 0 0 0).stride (by decide)

/-! ### One conversion -/

/-- What the C2D library answers in one conversion; it returns zero where it succeeds. -/
structure C2DOutcomes where
  mapAddr : C2DPort → Option Pointer
  updateSurface : C2DPort → Int
  draw : Int
  unMapAddr : C2DPort → Int

inductive C2DCall where
  | mapAddr (fd : Int) (ptr : Pointer) (len : Nat) (gpuaddr : Option Pointer)
  | updateSurface (port : C2DPort) (surfaceDef : SurfaceDef)
  | draw
  | finish
  | unMapAddr (gpuaddr : Pointer)
  deriving DecidableEq, Repr

/-- The buffer of a port. -/
structure C2DBuffer where
  fd : Int
  base : Pointer
  data : Pointer
  deriving DecidableEq, Repr

namespace C2DColorConverter

variable (converter : C2DColorConverter) (library : C2DOutcomes) (buffer : C2DPort → C2DBuffer) (port : C2DPort)

def getMappedGPUAddr : Pointer := (library.mapAddr port).getD 0

def mappedDef : SurfaceDef :=
  converter.surfaceDef port (buffer port).base (buffer port).data (getMappedGPUAddr library port)

/-- The calls of `updateYUVSurfaceDef` and of `updateRGBSurfaceDef`. -/
def updateCalls : List C2DCall :=
  [.mapAddr (buffer port).fd (buffer port).data (converter.config port).size (library.mapAddr port),
    .updateSurface port (converter.mappedDef library buffer port)]

def convertC2D : List C2DCall × Int :=
  if converter.mError ≠ 0 then ([], converter.mError)
  else if (buffer .input).fd < 0 ∨ (buffer .output).fd < 0 ∨ (buffer .input).data = 0 ∨
      (buffer .output).data = 0 then ([], -1)
  else
    let calls := converter.updateCalls library buffer .input
    if library.updateSurface .input ≠ 0 then (calls, -library.updateSurface .input)
    else
      let calls := calls ++ converter.updateCalls library buffer .output
      if library.updateSurface .output ≠ 0 then (calls, -library.updateSurface .output)
      else
        (calls ++ [.draw, .finish, .unMapAddr (converter.mappedDef library buffer .input).phys,
            .unMapAddr (converter.mappedDef library buffer .output).phys],
          if library.draw ≠ 0 then -library.draw
          else if library.unMapAddr .input ≠ 0 ∨ library.unMapAddr .output ≠ 0 then -1
          else 0)

end C2DColorConverter

def C2DCall.mapped : C2DCall → Option Pointer
  | .mapAddr _ _ _ gpuaddr => gpuaddr
  | _ => none

def C2DCall.unmapped : C2DCall → Option Pointer
  | .unMapAddr gpuaddr => some gpuaddr
  | _ => none

/-- The addresses that were mapped are unmapped once each, and no other ones. -/
def Released (calls : List C2DCall) : Prop :=
  (calls.filterMap C2DCall.unmapped).Perm (calls.filterMap C2DCall.mapped)

namespace C2DColorConverter

variable (converter : C2DColorConverter) (library : C2DOutcomes) (buffer : C2DPort → C2DBuffer)

/-- The distance of the data from the base, which is added to the address of a YUV buffer. -/
def shift (port : C2DPort) : Pointer :=
  if isYUVSurface (converter.config port).format then (buffer port).data - (buffer port).base else 0

/-- Both maps succeed, and the shifts are zero or turn each of the two addresses into the other one. -/
def ShiftsKeep : Prop :=
  match library.mapAddr .input, library.mapAddr .output with
  | some src, some dst =>
    converter.shift buffer .input = 0 ∧ converter.shift buffer .output = 0 ∨
      src + converter.shift buffer .input = dst ∧ dst + converter.shift buffer .output = src
  | _, _ => False

/-- Where the conversion stops early no map succeeded, and where it does not the shifts keep the addresses. -/
def ReleasesAll : Prop :=
  converter.mError ≠ 0 ∨ (∃ port, (buffer port).fd < 0 ∨ (buffer port).data = 0) ∨
    if library.updateSurface .input ≠ 0 then library.mapAddr .input = none
    else if library.updateSurface .output ≠ 0 then ∀ port, library.mapAddr port = none
    else converter.ShiftsKeep library buffer

theorem mappedDef_phys (port : C2DPort) : (converter.mappedDef library buffer port).phys =
    (library.mapAddr port).getD 0 + converter.shift buffer port := by
  unfold mappedDef surfaceDef getDummySurfaceDef shift
  cases hyuv : isYUVSurface (converter.config port).format <;>
    simp [hyuv, updateSurfaceDef, SurfaceDef.phys, getMappedGPUAddr]

theorem shiftsKeep_iff : converter.ShiftsKeep library buffer ↔
    [(library.mapAddr .input).getD 0 + converter.shift buffer .input,
      (library.mapAddr .output).getD 0 + converter.shift buffer .output].Perm
        ((library.mapAddr .input).toList ++ (library.mapAddr .output).toList) := by
  unfold ShiftsKeep
  cases library.mapAddr .input with
  | none =>
    refine iff_of_false id fun hperm => ?_
    cases hdst : library.mapAddr .output <;> simpa [hdst] using hperm.length_eq
  | some src =>
    cases library.mapAddr .output with
    | none => exact iff_of_false id fun hperm => by simpa using hperm.length_eq
    | some dst => simp [List.perm_pair]

@[simp] theorem updateCalls_mapped (port : C2DPort) :
    (converter.updateCalls library buffer port).filterMap C2DCall.mapped = (library.mapAddr port).toList := by
  cases hmap : library.mapAddr port <;> simp [updateCalls, C2DCall.mapped, hmap]

@[simp] theorem updateCalls_unmapped (port : C2DPort) :
    (converter.updateCalls library buffer port).filterMap C2DCall.unmapped = [] := rfl

/-- A conversion unmaps what it mapped, and nothing else, if and only if it stops before it maps or keeps the
addresses. -/
theorem released_convertC2D_iff :
    Released (converter.convertC2D library buffer).1 ↔ converter.ReleasesAll library buffer := by
  have hrefused : (∃ port, (buffer port).fd < 0 ∨ (buffer port).data = 0) ↔ (buffer .input).fd < 0 ∨
      (buffer .output).fd < 0 ∨ (buffer .input).data = 0 ∨ (buffer .output).data = 0 := by
    constructor
    · rintro ⟨_ | _, hport⟩ <;> tauto
    · rintro (hport | hport | hport | hport)
      exacts [⟨_, Or.inl hport⟩, ⟨_, Or.inl hport⟩, ⟨_, Or.inr hport⟩, ⟨_, Or.inr hport⟩]
  have hports : (∀ port, library.mapAddr port = none) ↔
      library.mapAddr .input = none ∧ library.mapAddr .output = none :=
    ⟨fun hall => ⟨hall _, hall _⟩, fun hboth port => by cases port <;> tauto⟩
  unfold convertC2D ReleasesAll Released
  rw [hrefused, hports, shiftsKeep_iff]
  by_cases herror : converter.mError = 0
  swap
  · simp [herror]
  by_cases hparams : (buffer .input).fd < 0 ∨ (buffer .output).fd < 0 ∨ (buffer .input).data = 0 ∨
      (buffer .output).data = 0
  · rw [if_neg (not_not.mpr herror), if_pos hparams]
    exact iff_of_true (List.Perm.refl _) (Or.inr (Or.inl hparams))
  simp only [herror, hparams, ne_eq, not_true, if_false, false_or]
  by_cases hsrc : library.updateSurface .input = 0
  swap
  · simp [hsrc]
  by_cases hdst : library.updateSurface .output = 0
  swap
  · simp [hsrc, hdst]
  · simp [hsrc, hdst, mappedDef_phys, List.filterMap_cons, C2DCall.mapped, C2DCall.unmapped]

/-- The address is mapped, and the destination surface is refused. -/
theorem convertC2D_not_released : ¬Released (C2DColorConverter.convertC2D
    (create 1280 720 1280 720 nv12In2K rgba8888 0)
    ⟨fun _ => some 0x40000000, fun port => if port = .input then 0 else 7, 0, fun _ => 0⟩
    fun _ => ⟨3, 0x10000, 0x10000⟩).1 := by
  unfold Released
  decide

end C2DColorConverter

end Nozomi.ColorConvert
