import Nozomi.Display.MDPComp.Program
import Nozomi.Display.Sync.Code

/-!
# From `hwc_prepare` to `hwc_set`

What `hwc.cpp` keeps between the two halves of a frame: the types and flags that the layers are given, the
copybit engine of `hwc_copybit.cpp`, and the handle of the framebuffer that was shown last. The second
half draws: copybit into its render buffer, `MDPComp::draw` into the pipes of the layers, and
`FBUpdateLowRes::draw` into the pipe of the framebuffer. A buffer is known by its address. The fences
are left out here.
-/

namespace Nozomi

/-! ### Copybit -/

/-- What does not change: whether a copybit device was found, the bits of
`QCCompositionType::getCompositionType`, and the comparison of a rendering area with the area of the
display, which is made with floating point numbers. -/
structure CopyBitTarget where
  hasEngine : Bool
  compositionType : Nat
  belowThreshold : Nat → Nat → Bool

abbrev numRenderBuffers : Nat := 3

structure CopyBit where
  mCopyBitDraw : Bool
  mRenderBuffer : Fin numRenderBuffers → Option Nat
  mCurRenderBufferIndex : Fin numRenderBuffers

namespace CopyBit

variable (copyBit : CopyBit)

def reset : CopyBit := { copyBit with mCopyBitDraw := false }

def getCurrentRenderBuffer : Option Nat := copyBit.mRenderBuffer copyBit.mCurRenderBufferIndex

def allocRenderBuffers (allocated : Option (Fin numRenderBuffers → Nat)) : CopyBit × Bool :=
  if ∀ i, (copyBit.mRenderBuffer i).isSome then (copyBit, true)
  else
    match allocated with
    | some addresses =>
      ({ copyBit with
          mRenderBuffer := fun i => some ((copyBit.mRenderBuffer i).getD (addresses i)) }, true)
    | none => ({ copyBit with mRenderBuffer := fun _ => none }, false)

end CopyBit

namespace DisplayContents

variable (list : DisplayContents)

def getNonWormholeRegion : Rect :=
  let frames := list.appLayers.map (·.displayFrame)
  let region := frames.tail.foldl (fun nwr frame =>
    ⟨min nwr.left frame.left, min nwr.top frame.top, max nwr.right frame.right,
      max nwr.bottom frame.bottom⟩) (frames.headD list.fbLayer.displayFrame)
  let fb := list.fbLayer.displayFrame
  ⟨max region.left fb.left, max region.top fb.top, min region.right fb.right, min region.bottom fb.bottom⟩

def renderArea (frame : Rect) : Int :=
  (frame.right - frame.left) * (frame.bottom - frame.top) % 2 ^ 32

def getRGBRenderingArea (compositionType : Nat → CompositionType) : Nat :=
  let counted := (List.range list.numAppLayers).filter fun i =>
    decide (compositionType i = .framebuffer) && (list.hwLayer i).handle.any fun hnd => !hnd.video
  ((counted.map fun i => renderArea (list.hwLayer i).displayFrame).sum % 2 ^ 32).toNat

end DisplayContents

/-! ### The state between the halves -/

/-- What is kept for a display besides `DisplayState`: the number of layers of the last list, the handle
that was shown last, the types of the layers, the two flags in their `layerProp`, and copybit. -/
structure Screen where
  numAppLayers : Nat
  fbHandle : Option Nat
  compositionType : Nat → CompositionType
  mdpCompFlag : Nat → Bool
  copyBitFlag : Nat → Bool
  copyBit : Option CopyBit

namespace Screen

variable (screen : Screen)

def reset (list : Option DisplayContents) : Screen :=
  { screen with
    compositionType :=
      if list.any fun list => !list.appLayers.isEmpty then fun _ => .framebuffer
      else screen.compositionType
    copyBit := screen.copyBit.map (·.reset) }

def resetLayerProp : Screen :=
  { screen with mdpCompFlag := fun _ => false, copyBitFlag := fun _ => false }

def setMDPCompLayerFlags {numPipes : Nat} (frame : FrameInfo numPipes) : Screen :=
  { screen with
    mdpCompFlag := fun i => if i < screen.numAppLayers ∧ !frame.isFBComposed i then true
      else screen.mdpCompFlag i
    compositionType := fun i => if i < screen.numAppLayers ∧ (!frame.isFBComposed i ∨ !frame.needsRedraw)
      then .overlay else screen.compositionType i }

def claim (list : DisplayContents) (video : Bool) (copyBit : CopyBit) : Screen :=
  let claimed := fun i => decide (i < screen.numAppLayers) &&
    decide (screen.compositionType i = .framebuffer) &&
      (list.hwLayer i).handle.any fun hnd => hnd.video == video
  { screen with
    copyBitFlag := fun i => claimed i || screen.copyBitFlag i
    compositionType := fun i => if claimed i then .overlay else screen.compositionType i
    copyBit := some { copyBit with
      mCopyBitDraw := copyBit.mCopyBitDraw || (List.range screen.numAppLayers).any claimed } }

def canUseCopybitForRGB (target : CopyBitTarget) (xres yres mZorder : Int) (list : DisplayContents) :
    Bool :=
  if target.compositionType.testBit 3 then
    decide (mZorder = 0 ∧ list.getNonWormholeRegion ≠ ⟨0, 0, xres, yres⟩) ||
      target.belowThreshold (list.getRGBRenderingArea screen.compositionType)
        (xres * yres % 2 ^ 32).toNat
  else target.compositionType.testBit 0 || target.compositionType.testBit 1

def copyBitUsable (target : CopyBitTarget) (mModeOn : Bool) (list : DisplayContents) : Bool :=
  target.hasEngine && !(target.compositionType == 0 || target.compositionType == 4) &&
    decide (list.skipCount = 0) && decide (screen.numAppLayers ≤ 32) && mModeOn

local instance neZero_renderBuffers : NeZero numRenderBuffers := ⟨by decide⟩

def prepareCopyBit (target : CopyBitTarget) (allocated : Option (Fin numRenderBuffers → Nat))
    (xres yres : Int) {numPipes : Nat} (fbUpdate : FBUpdate numPipes) (list : DisplayContents) : Screen :=
  match screen.copyBit with
  | none => screen
  | some copyBit =>
    if !screen.copyBitUsable target fbUpdate.mModeOn list then screen
    else
      let useCopybitForRGB := screen.canUseCopybitForRGB target xres yres fbUpdate.mZorder list
      let (copyBit, found) := copyBit.allocRenderBuffers allocated
      if !found then { screen with copyBit := some copyBit }
      else
        let screen := screen.claim list true copyBit
        let screen := if useCopybitForRGB || screen.copyBit.any (·.mCopyBitDraw) then
          screen.claim list false (screen.copyBit.getD copyBit) else screen
        { screen with
          copyBit := screen.copyBit.map fun copyBit =>
            if copyBit.mCopyBitDraw then
              { copyBit with mCurRenderBufferIndex := copyBit.mCurRenderBufferIndex + 1 }
            else copyBit }

end Screen

namespace DisplayState

variable {numPipes : Nat} (state : DisplayState numPipes)

def comesToLayers (dpy : Display) (list : DisplayContents) : Bool :=
  !list.appLayers.isEmpty && state.isActive && (decide (dpy = .primary) || state.connected)

def prepareScreen (target : CopyBitTarget) (allocated : Option (Fin numRenderBuffers → Nat))
    (ctx : Context numPipes) (dpy : Display) (list : Option DisplayContents) (screen : Screen) : Screen :=
  match list with
  | none => screen
  | some list =>
    if !state.comesToLayers dpy list then screen
    else if !state.draws dpy list then screen.resetLayerProp
    else
      let screen := { screen.resetLayerProp with numAppLayers := list.numAppLayers }
      let (_, _, mdpComp, composed) := state.compose ctx dpy list
      let screen := if composed then screen.setMDPCompLayerFlags mdpComp.mCurrentFrame else screen
      let fbUpdate := (state.hwcPrepare ctx dpy (some list)).2.fbUpdate
      screen.prepareCopyBit target allocated (ctx.target.xres dpy) (ctx.target.yres dpy) fbUpdate list

end DisplayState

/-! ### Drawing -/

inductive Source where
  | base
  | layer (i : Nat)
  | buffer (address : Nat)
  deriving DecidableEq, Repr

/-- What the driver and the engines answer while a display is drawn: whether a pipe takes a buffer, whether
the rotator of a layer takes its buffer, whether copybit draws a layer, and whether the display commits. -/
structure DrawAnswers (numPipes : Nat) where
  queues : Fin numPipes → Bool
  rotates : Nat → Bool
  copies : Nat → Bool
  commits : Bool

/-- The drawing of `MDPComp`: the layers that were touched, the pipes that were given a buffer, the flags
that are left, and the result. There is none where the program aborts or follows a bad pointer. -/
structure Drawing (numPipes : Nat) where
  touched : List Nat
  queued : List (Fin numPipes × Source)
  mdpCompFlag : Nat → Bool
  ret : Option Bool

namespace Overlay

variable {numPipes : Nat} (overlay : Overlay numPipes)

def queueBuffer (answers : DrawAnswers numPipes) (dest : Fin numPipes) : Option Bool :=
  if !(overlay.mPipeBook dest).valid then none
  else some (decide (dest ∈ overlay.sPipeUsageBitmap) && answers.queues dest)

def queuedBy (dest : Fin numPipes) (source : Source) : List (Fin numPipes × Source) :=
  if (overlay.mPipeBook dest).valid ∧ dest ∈ overlay.sPipeUsageBitmap then [(dest, source)] else []

end Overlay

namespace DisplayContents

def hwLayer? (list : DisplayContents) (i : Nat) : Option Layer :=
  if i < list.numAppLayers then list.appLayers[i]?
  else if i = list.numAppLayers then some list.fbLayer else none

end DisplayContents

namespace FrameInfo

variable {numPipes : Nat} (frame : FrameInfo numPipes)

def drawLayers (overlay : Overlay numPipes) (answers : DrawAnswers numPipes) (list : DisplayContents) :
    List Nat → Drawing numPipes → Drawing numPipes
  | [], drawing => { drawing with ret := some true }
  | i :: layers, drawing =>
    if frame.isFBComposed i then drawLayers overlay answers list layers drawing
    else
      let drawing := { drawing with touched := drawing.touched ++ [i] }
      match list.hwLayer? i with
      | none => { drawing with ret := none }
      | some layer =>
        if layer.handle.isNone then { drawing with ret := some false }
        else
          match frame.pipeInfo i with
          | none => { drawing with ret := none }
          | some ⟨_, none⟩ => { drawing with ret := some false }
          | some ⟨_, some dest⟩ =>
            if !drawing.mdpCompFlag i then drawLayers overlay answers list layers drawing
            else if !answers.rotates i then { drawing with ret := some false }
            else
              let drawing :=
                { drawing with queued := drawing.queued ++ overlay.queuedBy dest (.layer i) }
              match overlay.queueBuffer answers dest with
              | none => { drawing with ret := none }
              | some false => { drawing with ret := some false }
              | some true =>
                drawLayers overlay answers list layers
                  { drawing with mdpCompFlag := Function.update drawing.mdpCompFlag i false }

def draw (sEnabled : Bool) (overlay : Overlay numPipes) (answers : DrawAnswers numPipes)
    (list : DisplayContents) (numAppLayers : Nat) (mdpCompFlag : Nat → Bool) : Drawing numPipes :=
  let start : Drawing numPipes := ⟨[], [], mdpCompFlag, some true⟩
  if !sEnabled then start
  else if numAppLayers = 0 then start
  else
    let layers := if frame.mdpCount ≠ 0 then List.range numAppLayers else []
    match frame.mdpBasePipe with
    | none => frame.drawLayers overlay answers list layers start
    | some basePipe =>
      let start := { start with queued := overlay.queuedBy basePipe .base }
      match overlay.queueBuffer answers basePipe with
      | none => { start with ret := none }
      | some false => { start with ret := some false }
      | some true => frame.drawLayers overlay answers list layers start

end FrameInfo

namespace MDPComp

def getFbHandle {numPipes : Nat} (mdpComp : MDPComp numPipes) (fbHandle : Option Nat) : Option Nat :=
  if mdpComp.mCurrentFrame.fbCount ≠ 0 ∧ !mdpComp.mCurrentFrame.needsRedraw then fbHandle else none

end MDPComp

namespace FBUpdate

variable {numPipes : Nat} (fbUpdate : FBUpdate numPipes)

def draw (overlay : Overlay numPipes) (answers : DrawAnswers numPipes) : Option Bool :=
  if !fbUpdate.mModeOn then some true
  else
    match fbUpdate.mDest with
    | none => none
    | some dest => overlay.queueBuffer answers dest

def queuedBy (overlay : Overlay numPipes) (address : Nat) : List (Fin numPipes × Source) :=
  if !fbUpdate.mModeOn then []
  else fbUpdate.mDest.elim [] fun dest => overlay.queuedBy dest (.buffer address)

end FBUpdate

namespace DisplayState

variable {numPipes : Nat} (state : DisplayState numPipes)

def shows (dpy : Display) (list : DisplayContents) : Bool :=
  !list.appLayers.isEmpty && state.isActive &&
    (decide (dpy = .primary) || state.connected && !state.isPause)

def copybitDone (screen : Screen) : Bool :=
  screen.copyBit.any fun copyBit => copyBit.mCopyBitDraw && copyBit.getCurrentRenderBuffer.isSome

def copied (screen : Screen) : List Nat :=
  if copybitDone screen then (List.range screen.numAppLayers).filter screen.copyBitFlag else []

def shownHandle (screen : Screen) (list : DisplayContents) : Option Nat :=
  if copybitDone screen then screen.copyBit.bind (·.getCurrentRenderBuffer)
  else
    match state.mdpComp.getFbHandle screen.fbHandle with
    | some hnd => some hnd
    | none => list.fbLayer.handle.map (·.address)

def drawMDPComp (ctx : Context numPipes) (answers : DrawAnswers numPipes) (screen : Screen)
    (list : DisplayContents) : Drawing numPipes :=
  state.mdpComp.mCurrentFrame.draw ctx.target.sEnabled ctx.overlay answers list screen.numAppLayers
    screen.mdpCompFlag

def queued (ctx : Context numPipes) (answers : DrawAnswers numPipes) (screen : Screen)
    (list : DisplayContents) : List (Fin numPipes × Source) :=
  (state.drawMDPComp ctx answers screen list).queued ++
    ((state.shownHandle screen list).elim [] (state.fbUpdate.queuedBy ctx.overlay))

def hwcSet (ctx : Context numPipes) (dpy : Display) (answers : DrawAnswers numPipes) (screen : Screen)
    (list : Option DisplayContents) : Option (Screen × Bool) :=
  match list with
  | none => some (screen, true)
  | some list =>
    if !(state.isActive && (decide (dpy = .primary) || state.connected && !state.isPause)) then
      some (screen, true)
    else if list.appLayers.isEmpty then some (screen, answers.commits)
    else
      let drawing := state.drawMDPComp ctx answers screen list
      drawing.ret.bind fun drawn =>
        let screen := { screen with
          mdpCompFlag := drawing.mdpCompFlag
          fbHandle := state.shownHandle screen list }
        if screen.fbHandle.isNone then some (screen, drawn && answers.commits)
        else
          (state.fbUpdate.draw ctx.overlay answers).map fun updated =>
            (screen, drawn && updated && answers.commits)

end DisplayState

/-! ### The composer -/

/-- `hwc_context_t`, as far as it is about composition. -/
structure Composer (numPipes : Nat) where
  ctx : Context numPipes
  displays : Display → DisplayState numPipes
  screens : Display → Screen

namespace Composer

variable {numPipes : Nat} (composer : Composer numPipes)

def hwcPrepare (target : CopyBitTarget) (allocated : Option (Fin numRenderBuffers → Nat))
    (lists : Display → Option DisplayContents) : Composer numPipes where
  ctx := (composer.ctx.hwcPrepare composer.displays lists).1
  displays := (composer.ctx.hwcPrepare composer.displays lists).2
  screens := fun dpy =>
    (composer.displays dpy).reset.prepareScreen target allocated
      (composer.ctx.arrive composer.displays lists dpy) dpy (lists dpy)
      ((composer.screens dpy).reset (lists dpy))

def hwcSet (answers : Display → DrawAnswers numPipes) (lists : Display → Option DisplayContents) :
    Option (Composer numPipes) :=
  ((composer.displays .primary).hwcSet composer.ctx .primary (answers .primary)
    (composer.screens .primary) (lists .primary)).bind fun primary =>
      ((composer.displays .external).hwcSet composer.ctx .external (answers .external)
        (composer.screens .external) (lists .external)).map fun external =>
          { composer with
            ctx := { composer.ctx with sIdleFallBack := false, mVideoTransFlag := false }
            screens := fun
              | .primary => primary.1
              | .external => external.1 }

def hwcBlank (accepted : Bool) (dpy : Display) (blank : Bool) : Composer numPipes :=
  { composer with
    ctx := if blank then { composer.ctx with overlay := composer.ctx.overlay.configBegin.configDone }
      else composer.ctx
    displays := if accepted then
        Function.update composer.displays dpy { composer.displays dpy with isActive := !blank }
      else composer.displays }

end Composer

end Nozomi
