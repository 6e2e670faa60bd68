import Nozomi.Base.Align

/-!
# Copybit images and C2D surfaces

The formats of `copybit_c2d.cpp`, the planes of an image, the surface definitions made from it and the
rectangles of a blit object. The memory of an image is named by what the mapping call is given of it; a
temporary buffer of the device is named by the number of its allocation.
-/

namespace Nozomi.Copybit

/-! ### Formats -/

/-- The pixel formats of `copybit_image_t` that the code names. -/
inductive PixelFormat
  | rgba8888
  | rgbx8888
  | rgb565
  | bgra8888
  | ycbcr420Sp
  | ycrcb420Sp
  | nv12Encodeable
  | ycbcr420SpTiled
  | yv12
  | other
  deriving DecidableEq, Repr

/-- `RGB_SURFACE`, `YUV_SURFACE_2_PLANES` and `YUV_SURFACE_3_PLANES`. -/
inductive SurfaceType
  | rgb
  | yuv2Planes
  | yuv3Planes
  deriving DecidableEq, Repr

instance instDecidableForallSurfaceType (condition : SurfaceType → Prop) [DecidablePred condition] :
    Decidable (∀ type, condition type) :=
  decidable_of_iff (condition .rgb ∧ condition .yuv2Planes ∧ condition .yuv3Planes)
    ⟨fun ⟨hrgb, hplanes, hthree⟩ type => by cases type <;> assumption, fun hall => ⟨hall _, hall _, hall _⟩⟩

def SurfaceType.max : SurfaceType → Nat
  | .rgb => 8
  | .yuv2Planes => 4
  | .yuv3Planes => 1

def maxBlitObjectCount : Nat := 50

def maxSurfaces : Nat := SurfaceType.max .rgb + SurfaceType.max .yuv2Planes + SurfaceType.max .yuv3Planes + 1

def maxDimension : BitVec 32 := 4096

def formatMacrotiled : BitVec 32 := 1 <<< 16
def formatSwapRb : BitVec 32 := 1 <<< 18
def formatDisableAlpha : BitVec 32 := 1 <<< 13
def formatPremultiplied : BitVec 32 := 1 <<< 11

def getFormat : PixelFormat → Option (BitVec 32)
  | .rgb565 => some 11
  | .rgbx8888 => some (16 ||| formatSwapRb ||| formatDisableAlpha)
  | .rgba8888 => some (16 ||| formatSwapRb)
  | .bgra8888 => some 16
  | .ycbcr420Sp => some 152
  | .nv12Encodeable => some 152
  | .ycrcb420Sp => some 162
  | .ycbcr420SpTiled => some (152 ||| formatMacrotiled)
  | .yv12 => some 173
  | .other => none

def getC2dFormatForYuvDestination : PixelFormat → Option (BitVec 32)
  | .rgbx8888 => some (16 ||| formatDisableAlpha)
  | .rgba8888 => some 16
  | .ycbcr420Sp => some 162
  | .nv12Encodeable => some 162
  | .ycrcb420Sp => some 152
  | .yv12 => some 172
  | format => getFormat format

def c2diGetBpp (colorformat : BitVec 32) : BitVec 32 :=
  let base := colorformat &&& 0xFF
  if base = 18 ∨ base = 14 ∨ base = 13 ∨ base = 11 ∨ base = 17 then 16
  else if base = 20 ∨ base = 16 then 32
  else if base = 6 ∨ base = 9 then 8
  else if base = 8 then 4
  else if base = 0 then 1
  else 0

def isSupportedRgbFormat : PixelFormat → Bool
  | .rgba8888 | .rgbx8888 | .rgb565 | .bgra8888 => true
  | _ => false

def getNumPlanes : PixelFormat → Option Nat
  | .ycbcr420Sp | .ycrcb420Sp | .nv12Encodeable | .ycbcr420SpTiled => some 2
  | .yv12 => some 3
  | _ => none

def isSupportedYuvFormat : PixelFormat → Bool
  | .ycbcr420Sp | .ycrcb420Sp | .nv12Encodeable | .ycbcr420SpTiled | .yv12 => true
  | _ => false

def surfaceTypeOf (format : PixelFormat) : Option SurfaceType :=
  if isSupportedRgbFormat format then some .rgb
  else if isSupportedYuvFormat format then
    match getNumPlanes format with
    | some 2 => some .yuv2Planes
    | some 3 => some .yuv3Planes
    | _ => none
  else none

/-! ### Images -/

/-- The memory behind a handle: the file descriptor, base, size and offset that a client gives, or the one of
a temporary buffer. A temporary buffer that could not be allocated has the descriptor -1 and no base. -/
inductive MemoryBuffer
  | client (fd base size offset : BitVec 32)
  | temporary (number : Nat)
  | unallocated
  deriving DecidableEq, Repr

def MemoryBuffer.hasFd : MemoryBuffer → Bool
  | .client fd _ _ _ => fd != -1
  | .temporary _ => true
  | .unallocated => false

def MemoryBuffer.hasBase : MemoryBuffer → Bool
  | .client _ base _ _ => base != 0
  | .temporary _ => true
  | .unallocated => false

structure PrivateHandle where
  buffer : MemoryBuffer
  flags : BitVec 32
  gpuaddr : BitVec 32
  width : BitVec 32
  deriving DecidableEq, Repr

structure CopybitImage where
  w : BitVec 32
  h : BitVec 32
  format : PixelFormat
  handle : Option PrivateHandle
  deriving DecidableEq, Repr

structure CopybitRect where
  l : BitVec 32
  t : BitVec 32
  r : BitVec 32
  b : BitVec 32
  deriving DecidableEq, Repr

def usesPmem : BitVec 32 := 0x2
def usesPmemAdsp : BitVec 32 := 0x4
def usesIon : BitVec 32 := 0x8
def usesAshmem : BitVec 32 := 0x10

def PrivateHandle.hasMemtype (handle : PrivateHandle) : Bool :=
  handle.flags &&& (usesPmem ||| usesPmemAdsp) != 0 || handle.flags &&& usesAshmem != 0 ||
    handle.flags &&& usesIon != 0

structure YuvPlaneInfo where
  yStride : BitVec 32 := 0
  plane1Stride : BitVec 32 := 0
  plane2Stride : BitVec 32 := 0
  plane1Offset : BitVec 32 := 0
  plane2Offset : BitVec 32 := 0
  deriving DecidableEq, Repr

def calculateYuvOffsetAndStride (width height : BitVec 32) : PixelFormat → Option YuvPlaneInfo
  | .ycbcr420SpTiled =>
    let alignedHeight := alignUp height 32
    let alignedWidth := alignUp width 128
    some
      { plane1Offset := alignUp (alignedWidth * alignedHeight) 8192
        yStride := alignedWidth
        plane1Stride := alignedWidth }
  | .nv12Encodeable =>
    let alignedWidth := alignUp width 32
    some
      { yStride := alignedWidth
        plane1Stride := alignedWidth
        plane1Offset := alignUp (alignedWidth * height) 2048 }
  | .ycbcr420Sp | .ycrcb420Sp =>
    let alignedWidth := alignUp width 32
    some
      { yStride := alignedWidth
        plane1Stride := alignedWidth
        plane1Offset := alignedWidth * height }
  | .yv12 =>
    let alignedWidth := alignUp width 32
    let chromaStride := alignUp (alignedWidth.sdiv 2) 32
    some
      { yStride := alignedWidth
        plane1Stride := chromaStride
        plane1Offset := alignedWidth * height
        plane2Stride := chromaStride
        plane2Offset := alignedWidth * height + (chromaStride * height).sdiv 2 }
  | _ => none

def getSize (image : CopybitImage) : BitVec 32 :=
  let alignedW := alignUp image.w 32
  let chroma := alignUp (alignedW.sdiv 2) 32 * image.h.sdiv 2 * 2
  match image.format with
  | .nv12Encodeable => alignUp (alignUp (alignedW * image.h) 2048 + chroma) 4096
  | .ycbcr420Sp | .ycrcb420Sp | .yv12 => alignUp (alignedW * image.h + chroma) 4096
  | _ => 0

/-! ### Surfaces -/

/-- An address of the GPU: the one a handle comes with, or the one that a mapping gave. -/
inductive GpuAddress
  | given (address : BitVec 32)
  | mapped (number : Nat)
  deriving DecidableEq, Repr

def GpuAddress.number : GpuAddress → Option Nat
  | .given _ => none
  | .mapped number => some number

/-- What a surface definition says besides the address of its memory. The planes of a YUV surface lie in one
buffer. -/
inductive Picture
  | rgb (buffer : MemoryBuffer) (format width height stride : BitVec 32)
  | yuv (buffer : MemoryBuffer) (format width height : BitVec 32) (planes : YuvPlaneInfo)
  deriving DecidableEq, Repr

def Picture.buffer : Picture → MemoryBuffer
  | .rgb buffer _ _ _ _ => buffer
  | .yuv buffer _ _ _ _ => buffer

/-- `C2D_RGB_SURFACE_DEF` and `C2D_YUV_SURFACE_DEF` -/
structure SurfaceDef where
  picture : Picture
  phys : GpuAddress
  deriving DecidableEq, Repr

/-- `eC2DFlags`, as far as `set_image` reads them. -/
structure C2dFlags where
  premultipliedAlpha : Bool
  yuvDestination : Bool
  deriving DecidableEq, Repr

def pictureOf (image : CopybitImage) (buffer : MemoryBuffer) (flags : C2dFlags) (c2dFormat : BitVec 32) :
    Option Picture :=
  if isSupportedRgbFormat image.format then
    let format := c2dFormat ||| if flags.premultipliedAlpha then formatPremultiplied else 0
    some (.rgb buffer format image.w image.h ((alignUp image.w 32 * c2diGetBpp format).sshiftRight 3))
  else (calculateYuvOffsetAndStride image.w image.h image.format).map (.yuv buffer c2dFormat image.w image.h)

/-! ### Blit objects -/

structure C2dRect where
  x : BitVec 32
  y : BitVec 32
  width : BitVec 32
  height : BitVec 32
  deriving DecidableEq, Repr

/-- What a blit object says besides its source surface. -/
structure BlitSettings where
  configMask : BitVec 32
  globalAlpha : BitVec 32
  sourceRect : C2dRect
  targetRect : C2dRect
  scissorRect : C2dRect
  deriving DecidableEq, Repr

/-- The surfaces that are created when the device is opened. -/
inductive SurfaceId
  | target (type : SurfaceType)
  | source (type : SurfaceType) (index : Nat)
  deriving DecidableEq, Repr

structure C2dObject where
  surfaceId : SurfaceId
  settings : BlitSettings
  deriving DecidableEq, Repr

def sourceRectBit : BitVec 32 := 1 <<< 0
def mirrorHBit : BitVec 32 := 1 <<< 1
def mirrorVBit : BitVec 32 := 1 <<< 2
def targetRectBit : BitVec 32 := 1 <<< 4
def scissorRectBit : BitVec 32 := 1 <<< 6
def globalAlphaBit : BitVec 32 := 1 <<< 11
def noAntialiasingBit : BitVec 32 := 1 <<< 15
def alphaBlendNone : BitVec 32 := 1 <<< 25
def overrideGlobalTargetRotateConfig : BitVec 32 := 1 <<< 27
def overrideTargetRotate90 : BitVec 32 := 1 <<< 28
def overrideTargetRotate180 : BitVec 32 := 2 <<< 28
def overrideTargetRotate270 : BitVec 32 := 3 <<< 28

def targetRotate0 : BitVec 32 := 0 <<< 2
def targetRotate90 : BitVec 32 := 1 <<< 2
def targetRotate180 : BitVec 32 := 2 <<< 2
def targetRotate270 : BitVec 32 := 3 <<< 2

def targetRectOf (trgTransform fbWidth fbHeight : BitVec 32) (dst : CopybitRect) : C2dRect :=
  let fromRight := if fbWidth != 0 then alignUp fbWidth 32 - dst.r else dst.r
  let fromBottom := if fbHeight != 0 then fbHeight - dst.b else dst.b
  if trgTransform &&& targetRotate90 != 0 && trgTransform &&& targetRotate180 != 0 then
    { x := dst.t <<< 16, y := fromRight <<< 16
      height := (dst.r - dst.l) <<< 16, width := (dst.b - dst.t) <<< 16 }
  else if trgTransform &&& targetRotate90 != 0 then
    { x := fromBottom <<< 16, y := dst.l <<< 16
      height := (dst.r - dst.l) <<< 16, width := (dst.b - dst.t) <<< 16 }
  else if trgTransform &&& targetRotate180 != 0 then
    { y := fromBottom <<< 16, x := fromRight <<< 16
      height := (dst.b - dst.t) <<< 16, width := (dst.r - dst.l) <<< 16 }
  else
    { x := dst.l <<< 16, y := dst.t <<< 16
      height := (dst.b - dst.t) <<< 16, width := (dst.r - dst.l) <<< 16 }

def setRects (trgTransform fbWidth fbHeight : BitVec 32) (settings : BlitSettings)
    (dst src scissor : CopybitRect) : BlitSettings :=
  { settings with
    targetRect := targetRectOf trgTransform fbWidth fbHeight dst
    sourceRect :=
      { x := src.l <<< 16, y := src.t <<< 16
        height := (src.b - src.t) <<< 16, width := (src.r - src.l) <<< 16 }
    scissorRect :=
      { x := scissor.l, y := scissor.t, height := scissor.b - scissor.t, width := scissor.r - scissor.l }
    configMask := settings.configMask ||| targetRectBit ||| sourceRectBit ||| scissorRectBit }

end Nozomi.Copybit
