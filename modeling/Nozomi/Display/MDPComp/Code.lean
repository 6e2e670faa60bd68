import Nozomi.Base.Loop
import Nozomi.Display.Overlay.Code

/-!
# Which layers the display hardware composes

The decisions of `hwc_mdpcomp.cpp`, with the helpers of `hwc_utils.h` that they read. An `int` array of
`MAX_NUM_LAYERS` entries is a function on the indices. What the source computes with floating point
numbers, the limits of the scaling in `isValidDimension`, is a parameter of the context.
-/

namespace Nozomi

def mdpV30 : Nat := 300
def mdpV41 : Nat := 410
def mdssV5 : Nat := 500

/-! ### Layers -/

structure Rect where
  left : Int
  top : Int
  right : Int
  bottom : Int
  deriving DecidableEq, Repr

/-- `private_handle_t`: where it is, and whether it is a video, has an alpha format, and is secure. -/
structure Handle where
  address : Nat
  video : Bool
  alphaFormat : Bool
  secure : Bool
  deriving DecidableEq, Repr

/-- `hwc_layer_1_t`; `skip` is the flag `HWC_SKIP_LAYER`. Whether `configureLowRes` rotates a video for its size
depends on the videos before it, and comes with the layer as the answer of the call. -/
structure Layer where
  handle : Option Handle
  skip : Bool
  transform : Nat
  planeAlpha : Nat
  sourceCrop : Rect
  displayFrame : Rect
  rotatesForSize : Bool
  deriving DecidableEq, Repr

namespace Layer

def rot90 (layer : Layer) : Bool := layer.transform.testBit 2

def isYuvBuffer (layer : Layer) : Bool := layer.handle.any (·.video)

def isSecureBuffer (layer : Layer) : Bool := layer.handle.any (·.secure)

def isAlphaPresent (layer : Layer) : Bool := layer.handle.any (·.alphaFormat)

def isRotated (layer : Layer) : Bool := layer.isYuvBuffer && (layer.rot90 || layer.rotatesForSize)

def needsScaling (layer : Layer) : Bool :=
  let crop := layer.sourceCrop
  let dst := layer.displayFrame
  let size := if layer.rot90 then (crop.bottom - crop.top, crop.right - crop.left)
    else (crop.right - crop.left, crop.bottom - crop.top)
  size ≠ (dst.right - dst.left, dst.bottom - dst.top)

def isAlphaScaled (layer : Layer) : Bool := layer.needsScaling && layer.isAlphaPresent

end Layer

/-- `hwc_display_contents_1_t`: the layers of the applications, then the framebuffer target. -/
structure DisplayContents where
  appLayers : List Layer
  fbLayer : Layer
  geometryChanged : Bool

namespace DisplayContents

variable (list : DisplayContents)

def hwLayer (i : Nat) : Layer := list.appLayers.getD i list.fbLayer

/-! What `setListStats` finds in the list. -/

def numAppLayers : Nat := list.appLayers.length

def skipCount : Nat := list.appLayers.countP (·.skip)

def yuvIndices : List Nat :=
  (List.range list.numAppLayers).filter fun i => !(list.hwLayer i).skip && (list.hwLayer i).isYuvBuffer

def planeAlpha : Bool := list.appLayers.any (·.planeAlpha < 0xFF)

def needsAlphaScale : Bool := list.appLayers.any (·.isAlphaScaled)

def needsRotator : Bool :=
  list.appLayers.any fun layer => !layer.skip && layer.isYuvBuffer && layer.rot90

end DisplayContents

/-! ### The context -/

/-- What does not change between rounds: `mMDP`, `dpyAttr`, the static members of `MDPComp`, the number
of DMA pipes, and the limits of `isValidDimension` for a layer with a handle. -/
structure Target where
  version : Nat
  hasOverlay : Bool
  xres : Display → Int
  yres : Display → Int
  sEnabled : Bool
  sMaxPipesPerMixer : Int
  numDMAPipes : Nat
  dimensionInLimits : Display → Layer → Bool

/-- `hwc_context_t`, with the answers that the driver and the rotator are going to give and with the
commits of the round so far. -/
structure Context (numPipes : Nat) where
  target : Target
  mExtDispConfiguring : Bool
  mVideoTransFlag : Bool
  mSecuring : Bool
  mSecureMode : Bool
  mNeedsRotator : Bool
  mDMAInUse : Bool
  sIdleFallBack : Bool
  overlay : Overlay numPipes
  driver : List Bool
  rotator : List Bool
  commits : List (Fin numPipes × Bool)

namespace Context

variable {numPipes : Nat} (ctx : Context numPipes) (dpy : Display)

def isSecuring (layer : Layer) : Bool :=
  if ctx.target.version < mdssV5 ∧ mdpV30 < ctx.target.version ∧ ctx.mSecuring then true
  else if ctx.target.version < mdssV5 then
    if ctx.mSecureMode then !layer.isSecureBuffer else layer.isSecureBuffer
  else false

def isValidDimension (layer : Layer) : Bool :=
  layer.handle.isSome && ctx.target.dimensionInLimits dpy layer

def isValidBaseLayer (layer : Layer) : Bool :=
  if ctx.target.version = mdpV41 then
    layer.displayFrame = ⟨0, 0, ctx.target.xres dpy, ctx.target.yres dpy⟩
  else true

def clearOf (video other : Rect) : Bool :=
  decide (video.right ≤ other.left ∨ other.right ≤ video.left ∨ video.bottom ≤ other.top ∨
    other.bottom ≤ video.top) ||
  !decide (other.left < video.left ∨ video.right < other.right ∨ other.top < video.top ∨
    video.bottom < other.bottom)

def isSupported (list : DisplayContents) (i : Nat) : Bool :=
  let layer := list.hwLayer i
  if layer.skip then false
  else if layer.planeAlpha < 0xFF ∧ mdssV5 ≤ ctx.target.version then false
  else if layer.isAlphaScaled ∧ ctx.target.version < mdssV5 then false
  else if layer.isYuvBuffer ∧ (ctx.isSecuring layer ∨ layer.planeAlpha < 0xFF) then false
  else if ¬layer.isYuvBuffer ∧ layer.rot90 then false
  else if ¬ctx.isValidDimension dpy layer then false
  else if layer.isYuvBuffer then
    (list.appLayers.drop (i + 1)).all fun other =>
      !other.isAlphaPresent || clearOf layer.displayFrame other.displayFrame
  else true

def isYUVDoable (layer : Layer) : Bool :=
  !layer.skip && !ctx.isSecuring layer && !decide (layer.planeAlpha < 0xFF) &&
    ctx.isValidDimension dpy layer

def isFrameDoable : Bool :=
  ctx.target.sEnabled && !ctx.mExtDispConfiguring && !ctx.mVideoTransFlag

end Context

/-! ### The frame -/

structure MdpPipeInfo (numPipes : Nat) where
  zOrder : Int
  index : Option (Fin numPipes)

/-- `MDPComp::FrameInfo`, with the `pipeInfo` of each `PipeLayerPair`. -/
structure FrameInfo (numPipes : Nat) where
  layerCount : Nat
  layerToMDP : Nat → Option Nat
  mdpCount : Int
  mdpToLayer : Nat → Option (MdpPipeInfo numPipes)
  mdpBasePipe : Option (Fin numPipes)
  fbCount : Int
  isFBComposed : Nat → Bool
  needsRedraw : Bool
  fbZ : Int

/-- `MDPComp::LayerCache`; a handle is known by its address. -/
structure LayerCache where
  layerCount : Nat
  hnd : Nat → Option Nat
  isFBComposed : Nat → Bool

namespace FrameInfo

variable {numPipes : Nat}

def reset (numLayers : Nat) : FrameInfo numPipes where
  layerCount := numLayers
  layerToMDP := fun _ => none
  mdpCount := 0
  mdpToLayer := fun _ => none
  mdpBasePipe := none
  fbCount := numLayers
  isFBComposed := fun _ => true
  needsRedraw := true
  fbZ := 0

variable (frame : FrameInfo numPipes)

def toFB (i : Nat) : FrameInfo numPipes :=
  if frame.isFBComposed i then frame
  else
    { frame with
      isFBComposed := Function.update frame.isFBComposed i true
      fbCount := frame.fbCount + 1 }

def toMDP (i : Nat) : FrameInfo numPipes :=
  if frame.isFBComposed i then
    { frame with
      isFBComposed := Function.update frame.isFBComposed i false
      fbCount := frame.fbCount - 1 }
  else frame

def countMDP : FrameInfo numPipes :=
  { frame with mdpCount := frame.layerCount - frame.fbCount }

def cacheLayer (cached : LayerCache) (list : DisplayContents) (frame : FrameInfo numPipes) (i : Nat) :
    FrameInfo numPipes :=
  if cached.hnd i = (list.hwLayer i).handle.map (·.address) then
    { frame with
      isFBComposed := Function.update frame.isFBComposed i true
      fbCount := frame.fbCount + 1 }
  else { frame with isFBComposed := Function.update frame.isFBComposed i false }

def updateLayerCache (cached : LayerCache) (list : DisplayContents) : FrameInfo numPipes :=
  ((List.range list.numAppLayers).foldl (cacheLayer cached list) { frame with fbCount := 0 }).countMDP

/-! ### Batching

A batch is its start and its count.
-/

def extendDown (batch : Int × Int) : Int × Int :=
  whileLoop (fun batch => decide (0 < batch.1) && frame.isFBComposed (batch.1 - 1).toNat)
    (fun batch => (batch.1 - 1, batch.2 + 1)) (frame.layerCount + 1) batch

def extendUp (batch : Int × Int) : Int × Int :=
  whileLoop
    (fun batch => decide (batch.1 + batch.2 < frame.layerCount) &&
      frame.isFBComposed (batch.1 + batch.2).toNat)
    (fun batch => (batch.1, batch.2 + 1)) (frame.layerCount + 1) batch

def skipFB (i : Nat) : Nat × Nat :=
  whileLoop (fun state => frame.isFBComposed state.2 && decide (state.2 < frame.layerCount))
    (fun state => (state.1 + 1, state.2 + 1)) (frame.layerCount + 1) (0, i)

def searchStep (state : Nat × Int × Int) : Nat × Int × Int :=
  let skipped := frame.skipFB state.1
  let batch : Int × Int :=
    if state.2.2 < skipped.1 then ((skipped.2 : Int) - skipped.1, (skipped.1 : Int)) else state.2
  (if skipped.2 < frame.layerCount then skipped.2 + 1 else skipped.2, batch)

def longestBatch (batch : Int × Int) : Int × Int :=
  (whileLoop (fun state => decide (state.1 < frame.layerCount)) frame.searchStep
    (frame.layerCount + 1) (0, batch)).2

def resetStep (batch : Int × Int) (state : Nat × (Nat → Bool)) : Nat × (Nat → Bool) :=
  if (state.1 : Int) ≠ batch.1 then (state.1 + 1, Function.update state.2 state.1 false)
  else (state.1 + batch.2.toNat + 1, state.2)

def resetRest (batch : Int × Int) : Nat → Bool :=
  (whileLoop (fun state => decide (state.1 < frame.layerCount)) (resetStep batch)
    (frame.layerCount + 1) (0, frame.isFBComposed)).2

def batchLayers (batch : Int × Int) : FrameInfo numPipes :=
  if frame.fbCount = 0 then { frame with fbZ := -1 }
  else if frame.mdpCount = 0 then { frame with fbZ := 0 }
  else
    let batch := if batch.2 ≠ 0 then frame.extendUp (frame.extendDown batch)
      else frame.longestBatch batch
    { frame with
      isFBComposed := frame.resetRest batch
      fbZ := batch.1
      fbCount := batch.2
      mdpCount := frame.layerCount - batch.2 }

end FrameInfo

/-! ### Is the frame doable -/

namespace Context

variable {numPipes : Nat} (ctx : Context numPipes) (dpy : Display) (list : DisplayContents)

def markNotSupported (state : FrameInfo numPipes × Int × Int) (i : Nat) :
    FrameInfo numPipes × Int × Int :=
  match state with
  | (frame, min, max) =>
    if ctx.isSupported dpy list i then (frame, min, max)
    else
      let frame := frame.toFB i
      let frame := if 0 ≤ max then
        ((List.range i).reverse.takeWhile fun (j : Nat) => max < j).foldl FrameInfo.toFB frame
        else frame
      (frame, if min < 0 then (i : Int) else min, (i : Int))

def updateNotSupported (frame : FrameInfo numPipes) : FrameInfo numPipes × Int × Int :=
  let (frame, min, max) :=
    (List.range list.numAppLayers).foldl (ctx.markNotSupported dpy list) (frame, -1, -2)
  (frame.countMDP, min, max - min + 1)

def getAvailablePipes (frame : FrameInfo numPipes) : Int :=
  (ctx.overlay.availablePipes dpy : Int) - (if ctx.mNeedsRotator then ctx.target.numDMAPipes else 0) -
    (if frame.fbCount ≠ 0 then 1 else 0)

def markYUV (numAvailable : Int) (frame : FrameInfo numPipes) (i : Nat) : FrameInfo numPipes :=
  if ctx.isYUVDoable dpy (list.hwLayer i) ∧
      ((i : Int) < numAvailable ∨ (frame.layerCount : Int) - numAvailable ≤ i) then frame.toMDP i
  else frame.toFB i

def updateYUV (frame : FrameInfo numPipes) : FrameInfo numPipes :=
  if list.yuvIndices = [] then frame
  else
    (list.yuvIndices.foldl (ctx.markYUV dpy list (ctx.getAvailablePipes dpy frame)) frame).countMDP

def fullMDPComp (frame : FrameInfo numPipes) : FrameInfo numPipes × Bool :=
  if list.skipCount ≠ 0 then (frame, false)
  else if list.planeAlpha ∧ mdssV5 ≤ ctx.target.version then (frame, false)
  else if list.needsAlphaScale ∧ ctx.target.version < mdssV5 then (frame, false)
  else if ¬(List.range list.numAppLayers).all (ctx.isSupported dpy list) then (frame, false)
  else
    let frame : FrameInfo numPipes :=
      { frame with
        mdpCount := frame.layerCount
        fbCount := 0
        fbZ := -1
        isFBComposed := fun _ => false }
    let baseNeeded : Int := if ctx.isValidBaseLayer dpy (list.hwLayer 0) then 0 else 1
    if ctx.target.sMaxPipesPerMixer < frame.mdpCount + baseNeeded then (frame, false)
    else if ctx.getAvailablePipes dpy frame < frame.mdpCount + baseNeeded then (frame, false)
    else (frame, true)

def baseNeeded (frame : FrameInfo numPipes) : Bool :=
  !frame.isFBComposed 0 && !ctx.isValidBaseLayer dpy (list.hwLayer 0)

def batchDoable (frame : FrameInfo numPipes) : FrameInfo numPipes × Bool :=
  let baseNeeded : Int := if ctx.baseNeeded dpy list frame then 1 else 0
  if frame.mdpCount + baseNeeded = 0 then (frame, false)
  else if ctx.target.sMaxPipesPerMixer - 1 < frame.mdpCount + baseNeeded then (frame, false)
  else if ctx.getAvailablePipes dpy frame < frame.mdpCount + baseNeeded then (frame, false)
  else if baseNeeded ≠ 0 ∧ frame.fbCount ≠ 0 then ({ frame with fbZ := frame.fbZ + 1 }, true)
  else (frame, true)

def partialMDPComp (cached : LayerCache) : FrameInfo numPipes × Bool :=
  let frame := (FrameInfo.reset list.numAppLayers).updateLayerCache cached list
  let (frame, batch) := ctx.updateNotSupported dpy list (ctx.updateYUV dpy list frame)
  ctx.batchDoable dpy list (frame.batchLayers batch)

def isOnlyVideoDoable (frame : FrameInfo numPipes) : FrameInfo numPipes × Bool :=
  if list.yuvIndices = [] then (frame, false)
  else
    let frame := FrameInfo.reset list.numAppLayers
    let (frame, batch) := ctx.updateNotSupported dpy list (ctx.updateYUV dpy list frame)
    ctx.batchDoable dpy list (frame.batchLayers batch)

def isFullFrameDoable (cached : LayerCache) (frame : FrameInfo numPipes) : FrameInfo numPipes × Bool :=
  if ctx.sIdleFallBack then (frame, false)
  else if dpy ≠ .primary then (frame, false)
  else
    let full := ctx.fullMDPComp dpy list frame
    if full.2 then full else ctx.partialMDPComp dpy list cached

end Context

end Nozomi
