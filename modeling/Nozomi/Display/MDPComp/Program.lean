import Nozomi.Display.MDPComp.Code

/-!
# Programming the pipes of a frame

The framebuffer update of `hwc_fbupdate.cpp`, the functions of `hwc_mdpcomp.cpp` that take pipes from the
overlay and commit them, and the round of `hwc.cpp` that calls both for each display. The driver answers
a commit with the next of its answers, and accepts when none is left.
-/

namespace Nozomi

namespace Context

variable {numPipes : Nat} (ctx : Context numPipes) (dpy : Display) (list : DisplayContents)

def nextPipe (type : MdpPipeType) : Context numPipes × Option (Fin numPipes) :=
  ({ ctx with overlay := (ctx.overlay.nextPipe type dpy).1 }, (ctx.overlay.nextPipe type dpy).2)

def configMdp (zOrder : Int) (dest : Fin numPipes) : Context numPipes × Bool :=
  let accepted := ctx.driver.headD true
  ({ ctx with
      overlay := ((ctx.overlay.setSource zOrder dest).commit accepted dest).1
      driver := ctx.driver.tail
      commits := ctx.commits ++ [(dest, accepted)] }, accepted)

def configureLowRes (layer : Layer) (zOrder : Int) (dest : Fin numPipes) : Context numPipes × Bool :=
  if layer.handle.isNone then (ctx, false)
  else if layer.isRotated then
    let ctx' := { ctx with rotator := ctx.rotator.tail }
    if ctx.rotator.headD true then ctx'.configMdp zOrder dest else (ctx', false)
  else ctx.configMdp zOrder dest

def getMdpPipe (type : MdpPipeType) : Context numPipes × Option (Fin numPipes) :=
  match type with
  | .vg => ctx.nextPipe dpy .vg
  | .rgb => ctx.nextPipe dpy .rgb
  | .any =>
    let (ctx, pipe) := ctx.nextPipe dpy .rgb
    if pipe.isSome then (ctx, pipe) else ctx.nextPipe dpy .vg
  | .dma =>
    let (ctx, pipe) := ctx.nextPipe dpy .dma
    if pipe.isSome then ({ ctx with mDMAInUse := true }, pipe)
    else
      let (ctx, pipe) := ctx.nextPipe dpy .rgb
      if pipe.isSome then (ctx, pipe) else ctx.nextPipe dpy .vg

end Context

/-! ### The framebuffer -/

structure FBUpdate (numPipes : Nat) where
  mDest : Option (Fin numPipes)
  mModeOn : Bool
  mZorder : Int

namespace FBUpdate

variable {numPipes : Nat} (fbUpdate : FBUpdate numPipes)

def reset : FBUpdate numPipes := { fbUpdate with mModeOn := false, mDest := none }

def prepare (ctx : Context numPipes) (dpy : Display) (fbZorder : Int) :
    Context numPipes × FBUpdate numPipes × Bool :=
  if !ctx.target.hasOverlay then (ctx, fbUpdate, false)
  else
    match ctx.nextPipe dpy .any with
    | (ctx, none) => (ctx, { fbUpdate with mZorder := fbZorder, mModeOn := false }, false)
    | (ctx, some dest) =>
      let (ctx, ret) := ctx.configMdp fbZorder dest
      (ctx, { mZorder := fbZorder, mDest := some dest, mModeOn := ret }, ret)

end FBUpdate

/-! ### The layers with pipes of their own -/

namespace FrameInfo

variable {numPipes : Nat} (frame : FrameInfo numPipes)

def mapLayer (state : (Nat → Option Nat) × Nat) (idx : Nat) : (Nat → Option Nat) × Nat :=
  if frame.isFBComposed idx then state
  else (Function.update state.1 idx (some state.2), state.2 + 1)

def map : FrameInfo numPipes :=
  { frame with
    layerToMDP := ((List.range frame.layerCount).foldl frame.mapLayer (frame.layerToMDP, 0)).1 }

def pipeInfo (i : Nat) : Option (MdpPipeInfo numPipes) := (frame.layerToMDP i).bind frame.mdpToLayer

def setPipeInfo (i : Nat) (info : MdpPipeInfo numPipes) : FrameInfo numPipes :=
  match frame.layerToMDP i with
  | some mdpIndex =>
    { frame with mdpToLayer := Function.update frame.mdpToLayer mdpIndex (some info) }
  | none => frame

end FrameInfo

namespace Context

variable {numPipes : Nat} (dpy : Display) (list : DisplayContents)

def allocPipes (typeOf : Nat → MdpPipeType) :
    List Nat → Context numPipes → FrameInfo numPipes → Context numPipes × FrameInfo numPipes × Bool
  | [], ctx, frame => (ctx, frame, true)
  | i :: layers, ctx, frame =>
    let (ctx, index) := ctx.getMdpPipe dpy (typeOf i)
    let frame := frame.setPipeInfo i ⟨0, index⟩
    if index.isSome then allocPipes typeOf layers ctx frame else (ctx, frame, false)

def uiPipeType (ctx : Context numPipes) (layer : Layer) : MdpPipeType :=
  if !layer.needsScaling && !ctx.mNeedsRotator && decide (mdssV5 ≤ ctx.target.version) then .dma
  else if layer.transform ≠ 0 then .rgb else .any

def yuvLayers (frame : FrameInfo numPipes) : List Nat :=
  list.yuvIndices.filter fun i => !frame.isFBComposed i

def uiLayers (frame : FrameInfo numPipes) : List Nat :=
  (List.range frame.layerCount).filter fun i =>
    !frame.isFBComposed i && !(list.hwLayer i).isYuvBuffer

def allocLayerPipes (ctx : Context numPipes) (frame : FrameInfo numPipes) :
    Context numPipes × FrameInfo numPipes × Bool :=
  let (ctx, frame, found) :=
    if ctx.baseNeeded dpy list frame then
      let (ctx, pipe) := ctx.getMdpPipe dpy .any
      (ctx, { frame with mdpBasePipe := pipe }, pipe.isSome)
    else (ctx, frame, true)
  if !found then (ctx, frame, false)
  else
    let (ctx, frame, found) := allocPipes dpy (fun _ => .vg) (yuvLayers list frame) ctx frame
    if !found then (ctx, frame, false)
    else
      allocPipes dpy (fun i => ctx.uiPipeType (list.hwLayer i)) (uiLayers list frame) ctx frame

def programLayers :
    List Nat → Int → Bool → Context numPipes → FrameInfo numPipes →
      Context numPipes × FrameInfo numPipes × Bool
  | [], _, _, ctx, frame => (ctx, frame, true)
  | i :: layers, mdpNextZOrder, fbBatch, ctx, frame =>
    if !frame.isFBComposed i then
      match frame.pipeInfo i with
      | some ⟨_, some dest⟩ =>
        let frame := frame.setPipeInfo i ⟨mdpNextZOrder, some dest⟩
        let (ctx, configured) := ctx.configureLowRes (list.hwLayer i) mdpNextZOrder dest
        if configured then programLayers layers (mdpNextZOrder + 1) fbBatch ctx frame
        else (ctx, frame, false)
      | _ => (ctx, frame, false)
    else if !fbBatch then programLayers layers (mdpNextZOrder + 1) true ctx frame
    else programLayers layers mdpNextZOrder fbBatch ctx frame

def programMDP (ctx : Context numPipes) (frame : FrameInfo numPipes) :
    Context numPipes × FrameInfo numPipes × Bool :=
  let (ctx, frame, allocated) := allocLayerPipes dpy list { ctx with mDMAInUse := false } frame
  if !allocated then (ctx, frame, false)
  else
    match frame.mdpBasePipe with
    | some basePipe =>
      let (ctx, configured) := ctx.configMdp 0 basePipe
      if configured then programLayers list (List.range frame.layerCount) 1 false ctx frame
      else (ctx, frame, false)
    | none => programLayers list (List.range frame.layerCount) 0 false ctx frame

end Context

/-! ### `prepare` -/

structure MDPComp (numPipes : Nat) where
  mCurrentFrame : FrameInfo numPipes
  mCachedFrame : LayerCache

namespace LayerCache

variable {numPipes : Nat} (cached : LayerCache) (list : DisplayContents)

def cacheAll : LayerCache :=
  { cached with
    hnd := fun i =>
      if i < list.numAppLayers then (list.hwLayer i).handle.map (·.address) else cached.hnd i }

def updateCounts (curFrame : FrameInfo numPipes) : LayerCache :=
  { cached with layerCount := curFrame.layerCount, isFBComposed := curFrame.isFBComposed }

def isSameFrame (curFrame : FrameInfo numPipes) : Bool :=
  cached.layerCount = curFrame.layerCount ∧
    (List.range curFrame.layerCount).all fun i =>
      curFrame.isFBComposed i = cached.isFBComposed i ∧
        (curFrame.isFBComposed i → cached.hnd i = (list.hwLayer i).handle.map (·.address))

end LayerCache

namespace MDPComp

variable {numPipes : Nat} (mdpComp : MDPComp numPipes) (list : DisplayContents)

def keep (frame : FrameInfo numPipes) : MDPComp numPipes :=
  ⟨frame, (mdpComp.mCachedFrame.cacheAll list).updateCounts frame⟩

def reset : MDPComp numPipes := mdpComp.keep list (.reset list.numAppLayers)

def programFrame (ctx : Context numPipes) (dpy : Display) (fbUpdate : FBUpdate numPipes)
    (frame : FrameInfo numPipes) :
    Context numPipes × FBUpdate numPipes × FrameInfo numPipes × Bool :=
  let frame := frame.map
  let (ctx, fbUpdate, prepared) :=
    if 0 ≤ frame.fbZ then fbUpdate.prepare ctx dpy frame.fbZ else (ctx, fbUpdate, true)
  if !prepared then (ctx, fbUpdate, frame, false)
  else
    let (ctx, frame, programmed) := ctx.programMDP dpy list frame
    (ctx, fbUpdate, frame, programmed)

def changed (dpy : Display) (frame : FrameInfo numPipes) : Bool :=
  !mdpComp.mCachedFrame.isSameFrame list frame || list.geometryChanged ||
    decide (list.skipCount ≠ 0) || decide (dpy ≠ .primary)

def composeFrame (full : Bool) (ctx : Context numPipes) (dpy : Display) (fbUpdate : FBUpdate numPipes)
    (frame : FrameInfo numPipes) :
    Context numPipes × FBUpdate numPipes × MDPComp numPipes × Bool :=
  let (ctx, fbUpdate, frame, programmed) := programFrame list ctx dpy fbUpdate frame
  if !programmed then (ctx, fbUpdate, mdpComp.reset list, false)
  else
    let frame := if full then { frame with needsRedraw := mdpComp.changed list dpy frame } else frame
    (ctx, fbUpdate, mdpComp.keep list frame, true)

def prepare (ctx : Context numPipes) (dpy : Display) (fbUpdate : FBUpdate numPipes) :
    Context numPipes × FBUpdate numPipes × MDPComp numPipes × Bool :=
  if !ctx.isFrameDoable then (ctx, fbUpdate, mdpComp.reset list, false)
  else
    let (frame, full) :=
      ctx.isFullFrameDoable dpy list mdpComp.mCachedFrame (.reset list.numAppLayers)
    let (frame, doable) := if full then (frame, true) else ctx.isOnlyVideoDoable dpy list frame
    if !doable then (ctx, fbUpdate, mdpComp.reset list, false)
    else mdpComp.composeFrame list full ctx dpy fbUpdate frame

end MDPComp

/-! ### A round for all displays -/

/-- What `hwc_context_t` holds for one display; `yuvCount` is of the list before. -/
structure DisplayState (numPipes : Nat) where
  mdpComp : MDPComp numPipes
  fbUpdate : FBUpdate numPipes
  yuvCount : Nat
  isActive : Bool
  connected : Bool
  isPause : Bool

namespace DisplayState

variable {numPipes : Nat} (state : DisplayState numPipes)

def setListStats (ctx : Context numPipes) (list : DisplayContents) : Context numPipes :=
  { ctx with
    mNeedsRotator := ctx.mNeedsRotator || list.needsRotator
    mVideoTransFlag := ctx.mVideoTransFlag || decide (state.yuvCount ≠ list.yuvIndices.length)
    commits := [] }

def draws (dpy : Display) (list : DisplayContents) : Bool :=
  !list.appLayers.isEmpty && state.isActive && list.fbLayer.handle.isSome &&
    (decide (dpy = .primary) || state.connected && !state.isPause)

def enter (ctx : Context numPipes) (dpy : Display) (list : DisplayContents) : Context numPipes :=
  state.setListStats { ctx with
    mExtDispConfiguring := if dpy = .external then false else ctx.mExtDispConfiguring } list

def compose (ctx : Context numPipes) (dpy : Display) (list : DisplayContents) :
    Context numPipes × FBUpdate numPipes × MDPComp numPipes × Bool :=
  state.mdpComp.prepare list (state.enter ctx dpy list) dpy state.fbUpdate

def hwcPrepare (ctx : Context numPipes) (dpy : Display) (list : Option DisplayContents) :
    Context numPipes × DisplayState numPipes :=
  match list with
  | none => (ctx, state)
  | some list =>
    if !state.draws dpy list then (ctx, state)
    else
      let (ctx, fbUpdate, mdpComp, composed) := state.compose ctx dpy list
      let (ctx, fbUpdate) :=
        if composed then (ctx, fbUpdate)
        else
          let (ctx, fbUpdate, _) := fbUpdate.prepare ctx dpy 0
          (ctx, fbUpdate)
      (ctx, { state with mdpComp, fbUpdate, yuvCount := list.yuvIndices.length })

def reset : DisplayState numPipes := { state with fbUpdate := state.fbUpdate.reset }

end DisplayState

namespace Context

variable {numPipes : Nat}

def begin (ctx : Context numPipes) : Context numPipes :=
  { ctx with overlay := ctx.overlay.configBegin, mNeedsRotator := false }

def arrive (ctx : Context numPipes) (displays : Display → DisplayState numPipes)
    (lists : Display → Option DisplayContents) : Display → Context numPipes
  | .external => ctx.begin
  | .primary => ((displays .external).reset.hwcPrepare ctx.begin .external (lists .external)).1

def prepareDisplay (ctx : Context numPipes) (displays : Display → DisplayState numPipes)
    (lists : Display → Option DisplayContents) (dpy : Display) :
    Context numPipes × DisplayState numPipes :=
  (displays dpy).reset.hwcPrepare (ctx.arrive displays lists dpy) dpy (lists dpy)

def hwcPrepare (ctx : Context numPipes) (displays : Display → DisplayState numPipes)
    (lists : Display → Option DisplayContents) :
    Context numPipes × (Display → DisplayState numPipes) :=
  let last := (ctx.prepareDisplay displays lists .primary).1
  ({ last with overlay := last.overlay.configDone },
    fun dpy => (ctx.prepareDisplay displays lists dpy).2)

end Context

end Nozomi
