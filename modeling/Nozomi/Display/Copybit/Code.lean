import Nozomi.Base.EarlyExit
import Nozomi.Base.Slots
import Nozomi.Display.Copybit.Surfaces

/-!
# The C2D copybit device

The operations of `copybit_c2d.cpp` over the state of one opened device. The C2D library is a state of its
own: the definitions of the surfaces, the mapped memory and what was drawn. Which of its calls fail is part
of the call of the client.
-/

namespace Nozomi.Copybit

def copybitSuccess : Int := 0
def copybitFailure : Int := -1
def invalidArgument : Int := -22

/-! ### The C2D library -/

/-- What the hardware was made to do, in order. -/
inductive DrawEvent
  | blit (settings : BlitSettings) (source : Picture) (contents : Option CopybitImage) (target : Picture)
      (transform : BitVec 32)
  | fill (target : Picture) (rect : C2dRect)
  | copyBack (source : MemoryBuffer) (destination : CopybitImage)
  deriving DecidableEq, Repr

/-- The C2D library. A draw is queued on its target until a flush gives it a timestamp, and is done when the
timestamp was waited for or a finish of its target returned. -/
structure C2dLibrary where
  definition : SurfaceId → SurfaceDef
  /-- the addresses of the unmap calls, in order -/
  unmapped : List Nat
  /-- the addresses that the queued draws on a target refer to -/
  queued : SurfaceType → List Nat
  /-- the addresses that the flushed draws on a target refer to -/
  flushed : SurfaceType → List Nat
  /-- a draw referred to an address that was unmapped -/
  faulted : Bool
  drawn : List DrawEvent

namespace C2dLibrary

def unMapAddr (c2d : C2dLibrary) (address : Nat) : C2dLibrary :=
  { c2d with unmapped := c2d.unmapped ++ [address] }

def updateSurface (c2d : C2dLibrary) (surface : SurfaceId) (definition : SurfaceDef) : C2dLibrary :=
  { c2d with definition := Function.update c2d.definition surface definition }

def addressOf (c2d : C2dLibrary) (surface : SurfaceId) : Option Nat := (c2d.definition surface).phys.number

def addressesOf (c2d : C2dLibrary) (target : SurfaceType) (objects : List C2dObject) : List Nat :=
  match objects with
  | [] => []
  | _ => (SurfaceId.target target :: objects.map C2dObject.surfaceId).filterMap c2d.addressOf

end C2dLibrary

/-! ### The device -/

structure TempBuffer where
  buffer : MemoryBuffer
  size : BitVec 32
  allocType : BitVec 32
  deriving DecidableEq, Repr

/-- `copybit_context_t`. The blit list holds its first `blit_count` entries; the three arrays of templates
and their counts are functions of the type. -/
structure CopybitContext where
  capabilitiesMask : BitVec 32
  blitObject : SurfaceType → Nat → C2dObject
  blitCount : SurfaceType → Nat
  blitList : List C2dObject
  mappedGpuAddr : Fin maxSurfaces → Option Nat
  tempSrcBuffer : TempBuffer
  tempDstBuffer : TempBuffer
  trgTransform : BitVec 32
  fbWidth : BitVec 32
  fbHeight : BitVec 32
  srcGlobalAlpha : BitVec 32
  configMask : BitVec 32
  dstSurfaceType : SurfaceType
  isPremultipliedAlpha : Bool
  /-- the target of the flush that gave the timestamp -/
  timeStamp : SurfaceType
  waitTimestamp : Bool
  c2d : C2dLibrary
  /-- how many temporary buffers were allocated -/
  allocated : Nat
  /-- the image that was copied last to a temporary buffer -/
  contents : Nat → Option CopybitImage

/-- Why `stretch_copybit_internal` does not run to its end: it returned a status, or it made an access that a
C program must not make. -/
inductive CopybitExit
  | returned (status : Int)
  | nullHandle
  | outOfBounds
  deriving DecidableEq, Repr

abbrev MappedIdx := Option (Fin maxSurfaces)

abbrev CopybitM := EStateM CopybitExit CopybitContext

/-- Which of the C2D calls of a finish succeed. -/
structure FinishOutcome where
  draw : Bool
  finish : Bool
  deriving DecidableEq, Repr

/-- What the C2D calls of `set_image` answer: the address of `c2dMapAddr`, if it succeeds, and whether the
update does. -/
structure SetImageOutcome where
  map : Option Nat
  update : Bool
  deriving DecidableEq, Repr

namespace CopybitContext

variable (ctx : CopybitContext)

/-! ### Mapping -/

def c2dGetGpuaddr (handle : PrivateHandle) (map : Option Nat) :
    (Option GpuAddress × MappedIdx) × CopybitContext :=
  match if handle.hasMemtype then map else none with
  | some address =>
    let (table, mappedIdx) := Slots.store address ctx.mappedGpuAddr
    ((some (.mapped address), mappedIdx), { ctx with mappedGpuAddr := table })
  | none => ((none, none), ctx)

def unmapGpuaddr (mappedIdx : MappedIdx) : CopybitContext :=
  match mappedIdx with
  | none => ctx
  | some index =>
    match ctx.mappedGpuAddr index with
    | none => ctx
    | some address =>
      { ctx with
        c2d := ctx.c2d.unMapAddr address
        mappedGpuAddr := Function.update ctx.mappedGpuAddr index none }

def unmapAll : CopybitContext :=
  { ctx with
    c2d := (Slots.contents ctx.mappedGpuAddr).foldl C2dLibrary.unMapAddr ctx.c2d
    mappedGpuAddr := fun _ => none }

def imageAddress (handle : PrivateHandle) (map : Option Nat) : (Option GpuAddress × MappedIdx) × CopybitContext :=
  if handle.gpuaddr = 0 then ctx.c2dGetGpuaddr handle map else ((some (.given handle.gpuaddr), none), ctx)

def setImage (surfaceId : SurfaceId) (rhs : CopybitImage) (flags : C2dFlags) (outcome : SetImageOutcome) :
    (Int × MappedIdx) × CopybitContext :=
  let c2dFormat := if flags.yuvDestination then getC2dFormatForYuvDestination rhs.format
    else getFormat rhs.format
  match c2dFormat, rhs.handle with
  | none, _ => ((invalidArgument, none), ctx)
  | some _, none => ((invalidArgument, none), ctx)
  | some c2dFormat, some handle =>
    let ((gpuaddr, mappedIdx), ctx) := ctx.imageAddress handle outcome.map
    match gpuaddr, pictureOf rhs handle.buffer flags c2dFormat with
    | none, _ => ((copybitFailure, none), ctx)
    | some _, none => ((copybitFailure, mappedIdx), ctx.unmapGpuaddr mappedIdx)
    | some gpuaddr, some picture =>
      if outcome.update then
        ((copybitSuccess, mappedIdx), { ctx with c2d := ctx.c2d.updateSurface surfaceId ⟨picture, gpuaddr⟩ })
      else ((copybitFailure, mappedIdx), ctx.unmapGpuaddr mappedIdx)

/-! ### Drawing -/

def overridesTargetRotate : Bool := ctx.capabilitiesMask &&& (1 <<< 8) != 0

def drawTransform : BitVec 32 := if ctx.overridesTargetRotate then 0 else ctx.trgTransform

def evaluate (object : C2dObject) : DrawEvent :=
  let source := (ctx.c2d.definition object.surfaceId).picture
  let contents :=
    match source.buffer with
    | .temporary number => ctx.contents number
    | _ => none
  .blit object.settings source contents (ctx.c2d.definition (.target ctx.dstSurfaceType)).picture
    ctx.drawTransform

def pendingAddresses : List Nat := ctx.c2d.addressesOf ctx.dstSurfaceType ctx.blitList

def drawList : CopybitContext :=
  let target := ctx.dstSurfaceType
  { ctx with
    c2d :=
      { ctx.c2d with
        drawn := ctx.c2d.drawn ++ ctx.blitList.map ctx.evaluate
        queued := Function.update ctx.c2d.queued target (ctx.c2d.queued target ++ ctx.pendingAddresses)
        faulted := ctx.c2d.faulted || ctx.pendingAddresses.any (ctx.c2d.unmapped.contains ·) } }

def msmCopybit (draw : Bool) : Int × CopybitContext :=
  if ctx.blitList = [] then (copybitSuccess, ctx)
  else if draw then (copybitSuccess, ctx.drawList)
  else (copybitFailure, ctx)

def resetCounts : CopybitContext := { ctx with blitCount := fun _ => 0, blitList := [] }

def finishTarget : CopybitContext :=
  { ctx with
    c2d :=
      { ctx.c2d with
        queued := Function.update ctx.c2d.queued ctx.dstSurfaceType []
        flushed := Function.update ctx.c2d.flushed ctx.dstSurfaceType [] } }

def finishCopybitInternal (outcome : FinishOutcome) : Int × CopybitContext :=
  let (status, ctx) := ctx.msmCopybit outcome.draw
  if outcome.finish then (status, ctx.finishTarget.unmapAll.resetCounts)
  else (copybitFailure, ctx)

def flushTarget : CopybitContext :=
  let target := ctx.dstSurfaceType
  { ctx with
    timeStamp := target
    c2d :=
      { ctx.c2d with
        queued := Function.update ctx.c2d.queued target []
        flushed := Function.update ctx.c2d.flushed target (ctx.c2d.flushed target ++ ctx.c2d.queued target) } }

def flushGetFence (draw flush fence : Bool) : Int × CopybitContext :=
  let (status, ctx) := ctx.msmCopybit draw
  if flush then
    let ctx := ctx.flushTarget
    let status := if fence then status else copybitFailure
    if status = copybitSuccess then (status, { ctx with waitTimestamp := true }) else (status, ctx)
  else (copybitFailure, ctx)

def waitLoop : CopybitContext :=
  let waited :=
    { ctx with
      waitTimestamp := false
      c2d := { ctx.c2d with flushed := Function.update ctx.c2d.flushed ctx.timeStamp [] } }
  waited.unmapAll.resetCounts

def clearCopybit (buf : CopybitImage) (rect : CopybitRect) (outcome : SetImageOutcome) (fill : Bool) :
    Int × CopybitContext :=
  let c2drect : C2dRect := { x := rect.l, y := rect.t, width := rect.r - rect.l, height := rect.b - rect.t }
  let ((ret, mappedDstIdx), ctx) := ctx.setImage (.target .rgb) buf ⟨true, false⟩ outcome
  if ret ≠ copybitSuccess then (copybitFailure, ctx.unmapGpuaddr mappedDstIdx)
  else if fill then
    let event := DrawEvent.fill (ctx.c2d.definition (.target .rgb)).picture c2drect
    (copybitSuccess, { ctx with c2d := { ctx.c2d with drawn := ctx.c2d.drawn ++ [event] } })
  else (copybitFailure, ctx)

/-! ### Parameters -/

def transformFlipH : BitVec 32 := 1
def transformFlipV : BitVec 32 := 2
def transformRot90 : BitVec 32 := 4
def transformRot180 : BitVec 32 := 3
def transformRot270 : BitVec 32 := 7

def transformConfig (value : BitVec 32) : BitVec 32 × BitVec 32 :=
  let configMask := overrideGlobalTargetRotateConfig
  if value &&& 0x7 = transformRot180 then (targetRotate180, configMask ||| overrideTargetRotate180)
  else if value &&& 0x7 = transformRot270 then (targetRotate90, configMask ||| overrideTargetRotate90)
  else if value = transformRot90 then (targetRotate270, configMask ||| overrideTargetRotate270)
  else
    let (transform, configMask) :=
      if value &&& transformRot90 != 0 then (targetRotate270, configMask ||| overrideTargetRotate270)
      else (0, configMask)
    if value &&& transformFlipH != 0 then (transform, configMask ||| mirrorHBit)
    else if value &&& transformFlipV != 0 then (transform, configMask ||| mirrorVBit)
    else (transform, configMask)

def setParameter (name value : BitVec 32) (outcome : FinishOutcome) : Int × CopybitContext :=
  if name = 2 then
    let value := if value.slt 0 then 0 else value
    let value := if (256 : BitVec 32).sle value then 255 else value
    (copybitSuccess,
      { ctx with
        srcGlobalAlpha := value
        configMask := if value.slt 255 then ctx.configMask ||| globalAlphaBit
          else ctx.configMask &&& ~~~globalAlphaBit })
  else if name = 6 then
    if value = 0x0100 then
      (copybitSuccess,
        { ctx with configMask := ctx.configMask ||| alphaBlendNone, isPremultipliedAlpha := true })
    else if value = 0x0105 then (copybitSuccess, { ctx with isPremultipliedAlpha := true })
    else (copybitSuccess, { ctx with configMask := ctx.configMask &&& ~~~alphaBlendNone })
  else if name = 4 then
    let (transform, configMask) := transformConfig value
    if ctx.overridesTargetRotate then
      (copybitSuccess, { ctx with configMask := ctx.configMask ||| configMask, trgTransform := transform })
    else
      let masked :=
        { ctx with configMask := ctx.configMask ||| (configMask &&& (mirrorHBit ||| mirrorVBit)) }
      (copybitSuccess, { (masked.finishCopybitInternal outcome).2 with trgTransform := transform })
  else if name = 7 then (copybitSuccess, { ctx with fbWidth := value })
  else if name = 8 then (copybitSuccess, { ctx with fbHeight := value })
  else if name = 1 ∨ name = 3 ∨ name = 5 ∨ name = 0 then (copybitSuccess, ctx)
  else (invalidArgument, ctx)

end CopybitContext

/-! ### Stretch -/

/-- Which of the calls out of `stretch_copybit_internal` succeed; an allocation gives the type of the
memory. -/
structure StretchOutcomes where
  early : FinishOutcome
  allocDst : Option (BitVec 32)
  dst : SetImageOutcome
  allocSrc : Option (BitVec 32)
  cleanSrc : Bool
  src : SetImageOutcome
  last : FinishOutcome
  deriving DecidableEq, Repr

def exitIf (failed : Bool) (status : Int) : CopybitM PUnit :=
  if failed then throw (.returned status) else pure ⟨⟩

def exitUnmappingIf (failed : Bool) (status : Int) (mapped : List MappedIdx) : CopybitM PUnit :=
  if failed then do
    modify fun ctx => mapped.foldl CopybitContext.unmapGpuaddr ctx
    throw (.returned status)
  else pure ⟨⟩

def deref {α : Type} : Option α → CopybitM α
  | some value => pure value
  | none => throw .nullHandle

def needTempBuffer (img : CopybitImage) : CopybitM Bool :=
  if isSupportedRgbFormat img.format then pure false
  else do
    let handle ← deref img.handle
    pure (handle.width.srem 32 != 0 ||
      getNumPlanes img.format == some 3 && (handle.width.sdiv 2).srem 32 != 0)

def checkImages (dst src : CopybitImage) : CopybitM SurfaceType := do
  exitIf (maxDimension < src.w || maxDimension < src.h) invalidArgument
  exitIf (maxDimension < dst.w || maxDimension < dst.h) invalidArgument
  exitIf (dst.format == .ycbcr420SpTiled) copybitFailure
  match surfaceTypeOf dst.format with
  | some type => pure type
  | none => throw (.returned copybitFailure)

def CopybitContext.finishesEarly (ctx : CopybitContext) (dstSurfaceType : SurfaceType) : Bool :=
  ctx.blitCount .rgb == SurfaceType.max .rgb || ctx.blitCount .yuv2Planes == SurfaceType.max .yuv2Planes ||
    ctx.blitCount .yuv3Planes == SurfaceType.max .yuv3Planes || ctx.blitList.length == maxBlitObjectCount ||
    ctx.dstSurfaceType != dstSurfaceType

def finishEarly (dstSurfaceType : SurfaceType) (outcome : FinishOutcome) : CopybitM PUnit :=
  modify fun ctx =>
    { (if ctx.finishesEarly dstSurfaceType then (ctx.finishCopybitInternal outcome).2 else ctx) with
      dstSurfaceType := dstSurfaceType }

def CopybitContext.getTempBuffer (ctx : CopybitContext) (size : BitVec 32) (temp : TempBuffer)
    (alloc : Option (BitVec 32)) : (Bool × TempBuffer) × CopybitContext :=
  if size = temp.size then ((false, temp), ctx)
  else
    match alloc with
    | none => ((true, { temp with buffer := .unallocated, size := size }), ctx)
    | some allocType =>
      ((false, ⟨.temporary ctx.allocated, size, allocType⟩), { ctx with allocated := ctx.allocated + 1 })

def TempBuffer.imageOf (temp : TempBuffer) (img : CopybitImage) : CopybitImage :=
  { img with
    handle := some { buffer := temp.buffer, flags := temp.allocType, gpuaddr := 0, width := img.w } }

def useTempDst (dst : CopybitImage) (alloc : Option (BitVec 32)) : CopybitM CopybitImage := do
  let failed ← modifyGet fun ctx =>
    let ((failed, temp), ctx) := ctx.getTempBuffer (getSize dst) ctx.tempDstBuffer alloc
    (failed, { ctx with tempDstBuffer := temp })
  exitIf failed copybitFailure
  return (← get).tempDstBuffer.imageOf dst

def copyImage (source destination : MemoryBuffer) (format : PixelFormat) : Bool :=
  source.hasFd &&
    (format == .nv12Encodeable || format == .ycbcr420Sp || format == .ycrcb420Sp || format == .yv12) &&
    source.hasBase && destination.hasBase

def setDestination (dst : CopybitImage) (dstSurfaceType : SurfaceType) (outcome : SetImageOutcome) :
    CopybitM MappedIdx := do
  let flags : C2dFlags := ⟨dstSurfaceType == .rgb, dstSurfaceType != .rgb⟩
  let (status, mappedDstIdx) ← modifyGet fun ctx => ctx.setImage (.target dstSurfaceType) dst flags outcome
  exitUnmappingIf (status != copybitSuccess) copybitFailure [mappedDstIdx]
  return mappedDstIdx

def takeTemplate (src : CopybitImage) (mappedDstIdx : MappedIdx) : CopybitM (SurfaceType × C2dObject) := do
  match surfaceTypeOf src.format with
  | none =>
    exitUnmappingIf true invalidArgument [mappedDstIdx]
    throw (.returned invalidArgument)
  | some type =>
    let ctx ← get
    if ctx.blitCount type < type.max then return (type, ctx.blitObject type (ctx.blitCount type))
    else throw .outOfBounds

def CopybitContext.copiedTo (ctx : CopybitContext) (src : CopybitImage) :
    MemoryBuffer → Nat → Option CopybitImage
  | .temporary number => Function.update ctx.contents number (some src)
  | _ => ctx.contents

def useTempSrc (src : CopybitImage) (mappedDstIdx : MappedIdx) (alloc : Option (BitVec 32)) (clean : Bool) :
    CopybitM CopybitImage := do
  let failed ← modifyGet fun ctx =>
    let ((failed, temp), ctx) := ctx.getTempBuffer (getSize src) ctx.tempSrcBuffer alloc
    (failed, { ctx with tempSrcBuffer := temp })
  exitUnmappingIf failed copybitFailure [mappedDstIdx]
  let handle ← deref src.handle
  let temp := (← get).tempSrcBuffer
  exitUnmappingIf (!copyImage handle.buffer temp.buffer src.format) copybitFailure [mappedDstIdx]
  modify fun ctx => { ctx with contents := ctx.copiedTo src temp.buffer }
  exitUnmappingIf (!clean) copybitFailure [mappedDstIdx]
  return temp.imageOf src

def setSource (src : CopybitImage) (surfaceId : SurfaceId) (mappedDstIdx : MappedIdx)
    (outcome : SetImageOutcome) : CopybitM MappedIdx := do
  let ctx ← get
  let flags : C2dFlags := ⟨ctx.isPremultipliedAlpha, ctx.dstSurfaceType != .rgb⟩
  let (status, mappedSrcIdx) ← modifyGet fun ctx => ctx.setImage surfaceId src flags outcome
  exitUnmappingIf (status != copybitSuccess) copybitFailure [mappedDstIdx, mappedSrcIdx]
  return mappedSrcIdx

def CopybitContext.blendSettings (ctx : CopybitContext) (settings : BlitSettings) (enableBlend : Bool) :
    Option BlitSettings :=
  let configMask := noAntialiasingBit ||| ctx.configMask
  let settings := { settings with configMask := configMask, globalAlpha := ctx.srcGlobalAlpha }
  if enableBlend then
    if configMask &&& globalAlphaBit != 0 then
      if ctx.srcGlobalAlpha = 0 then none
      else some { settings with configMask := configMask &&& ~~~alphaBlendNone }
    else some settings
  else some { settings with configMask := configMask ||| alphaBlendNone }

def storeTemplate (type : SurfaceType) (srcSurface : C2dObject) (enableBlend : Bool)
    (mapped : List MappedIdx) : CopybitM C2dObject := do
  match (← get).blendSettings srcSurface.settings enableBlend with
  | none =>
    exitUnmappingIf true copybitFailure mapped
    throw (.returned copybitFailure)
  | some settings =>
    let srcSurface := { srcSurface with settings := settings }
    modify fun ctx =>
      { ctx with
        blitObject := Function.update ctx.blitObject type
          (Function.update (ctx.blitObject type) (ctx.blitCount type) srcSurface)
        blitCount := Function.update ctx.blitCount type (ctx.blitCount type + 1) }
    return srcSurface

def CopybitContext.blitObjectFor (ctx : CopybitContext) (srcSurface : C2dObject)
    (dstRect srcRect clip : CopybitRect) : C2dObject :=
  { srcSurface with
    settings := setRects ctx.trgTransform ctx.fbWidth ctx.fbHeight srcSurface.settings dstRect srcRect clip }

def blitRegion (srcSurface : C2dObject) (dstRect srcRect : CopybitRect) :
    List (CopybitRect × FinishOutcome) → CopybitM PUnit
  | [] => pure ⟨⟩
  | (clip, outcome) :: region => do
    let object := (← get).blitObjectFor srcSurface dstRect srcRect clip
    modify fun ctx =>
      if ctx.blitList.length = maxBlitObjectCount then (ctx.finishCopybitInternal outcome).2 else ctx
    let ctx ← get
    if maxBlitObjectCount ≤ ctx.blitList.length then throw .outOfBounds
    set { ctx with blitList := ctx.blitList ++ [object] }
    blitRegion object dstRect srcRect region

def drawAtOnce (temp : Bool) (outcome : FinishOutcome) : CopybitM PUnit :=
  modify fun ctx =>
    if temp || ctx.dstSurfaceType != .rgb then (ctx.finishCopybitInternal outcome).2 else ctx

def copyBack (temp : CopybitImage) (dst : CopybitImage) (mapped : List MappedIdx) : CopybitM PUnit := do
  let source ← deref temp.handle
  let destination ← deref dst.handle
  exitUnmappingIf (!copyImage source.buffer destination.buffer dst.format) copybitFailure mapped
  modify fun ctx =>
    { ctx with c2d := { ctx.c2d with drawn := ctx.c2d.drawn ++ [.copyBack source.buffer dst] } }

def CopybitContext.resetSettings (ctx : CopybitContext) : CopybitContext :=
  { ctx with isPremultipliedAlpha := false, fbWidth := 0, fbHeight := 0, configMask := 0 }

def stretchCopybitInternal (dst src : CopybitImage) (dstRect srcRect : CopybitRect)
    (region : List (CopybitRect × FinishOutcome)) (enableBlend : Bool) (outcomes : StretchOutcomes) :
    CopybitM PUnit := do
  let dstSurfaceType ← checkImages dst src
  finishEarly dstSurfaceType outcomes.early
  let needTempDst ← needTempBuffer dst
  let dstImage ← (if needTempDst then useTempDst dst outcomes.allocDst else pure dst)
  let mappedDstIdx ← setDestination dstImage dstSurfaceType outcomes.dst
  let (srcSurfaceType, srcSurface) ← takeTemplate src mappedDstIdx
  let needTempSrc ← needTempBuffer src
  let srcImage ← (if needTempSrc then useTempSrc src mappedDstIdx outcomes.allocSrc outcomes.cleanSrc
    else pure src)
  let mappedSrcIdx ← setSource srcImage srcSurface.surfaceId mappedDstIdx outcomes.src
  let srcSurface ← storeTemplate srcSurfaceType srcSurface enableBlend [mappedDstIdx, mappedSrcIdx]
  blitRegion srcSurface dstRect srcRect region
  drawAtOnce (needTempDst || needTempSrc) outcomes.last
  (if needTempDst then copyBack dstImage dst [mappedDstIdx, mappedSrcIdx] else pure ⟨⟩)
  modify CopybitContext.resetSettings

/-! ### Calls of the client -/

/-- A call of the client, with the outcome of the calls of the C2D library under it. -/
inductive CopybitCall
  | setParameter (name value : BitVec 32) (outcome : FinishOutcome)
  | stretch (dst src : CopybitImage) (dstRect srcRect : CopybitRect)
      (region : List (CopybitRect × FinishOutcome)) (outcomes : StretchOutcomes)
  | blit (dst src : CopybitImage) (region : List (CopybitRect × FinishOutcome)) (outcomes : StretchOutcomes)
  | finish (outcome : FinishOutcome)
  | flushGetFence (draw flush fence : Bool)
  | clear (buf : CopybitImage) (rect : CopybitRect) (outcome : SetImageOutcome) (fill : Bool)

/-- What ends the process instead of returning. -/
inductive CopybitFault
  | nullHandle
  | outOfBounds
  deriving DecidableEq, Repr

namespace CopybitContext

def statusOf (result : EStateM.Result CopybitExit CopybitContext PUnit) :
    Except CopybitFault (Int × CopybitContext) :=
  match result with
  | .ok _ ctx => .ok (copybitSuccess, ctx)
  | .error (.returned status) ctx => .ok (status, ctx)
  | .error .nullHandle _ => .error .nullHandle
  | .error .outOfBounds _ => .error .outOfBounds

def wholeRect (img : CopybitImage) : CopybitRect := { l := 0, t := 0, r := img.w, b := img.h }

def call (ctx : CopybitContext) : CopybitCall → Except CopybitFault (Int × CopybitContext)
  | .setParameter name value outcome => .ok (ctx.setParameter name value outcome)
  | .stretch dst src dstRect srcRect region outcomes =>
    statusOf (stretchCopybitInternal dst src dstRect srcRect region (ctx.srcGlobalAlpha != 0) outcomes ctx)
  | .blit dst src region outcomes =>
    statusOf (stretchCopybitInternal dst src (wholeRect dst) (wholeRect src) region false outcomes ctx)
  | .finish outcome => .ok (ctx.finishCopybitInternal outcome)
  | .flushGetFence draw flush fence => .ok (ctx.flushGetFence draw flush fence)
  | .clear buf rect outcome fill => .ok (ctx.clearCopybit buf rect outcome fill)

def createdSurface : SurfaceId → SurfaceDef
  | .target .rgb | .source .rgb _ => ⟨.rgb (.client 0 0xdddddddd 0 0) 16 1 1 4, .given 0xdddddddd⟩
  | .target .yuv2Planes | .source .yuv2Planes _ =>
    ⟨.yuv (.client 0 0xaaaaaaaa 0 0) 152 4 4 { yStride := 4, plane1Stride := 4 }, .given 0xaaaaaaaa⟩
  | .target .yuv3Planes | .source .yuv3Planes _ =>
    ⟨.yuv (.client 0 0xaaaaaaaa 0 0) 172 4 4 { yStride := 4, plane1Stride := 4, plane2Stride := 4 },
      .given 0xaaaaaaaa⟩

def opened (capabilitiesMask : BitVec 32) : CopybitContext where
  capabilitiesMask := capabilitiesMask
  blitObject type index := ⟨.source type index, ⟨0, 0, ⟨0, 0, 0, 0⟩, ⟨0, 0, 0, 0⟩, ⟨0, 0, 0, 0⟩⟩⟩
  blitCount _ := 0
  blitList := []
  mappedGpuAddr _ := none
  tempSrcBuffer := ⟨.unallocated, 0, 0⟩
  tempDstBuffer := ⟨.unallocated, 0, 0⟩
  trgTransform := targetRotate0
  fbWidth := 0
  fbHeight := 0
  srcGlobalAlpha := 0
  configMask := 0
  dstSurfaceType := .rgb
  isPremultipliedAlpha := false
  timeStamp := .rgb
  waitTimestamp := false
  c2d :=
    { definition := createdSurface
      unmapped := []
      queued := fun _ => []
      flushed := fun _ => []
      faulted := false
      drawn := [] }
  allocated := 0
  contents _ := none

end CopybitContext

/-- A step of the device: a call of a client, which waits until the wait thread is not signalled, or the wait
thread, which waits until it is. -/
inductive CopybitAction
  | call (call : CopybitCall)
  | waitLoop

def copybitStep (ctx : CopybitContext) : CopybitAction → Option CopybitContext
  | .call call =>
    if ctx.waitTimestamp then none
    else
      match ctx.call call with
      | .ok (_, ctx) => some ctx
      | .error _ => none
  | .waitLoop => if ctx.waitTimestamp then some ctx.waitLoop else none

end Nozomi.Copybit
