import Nozomi.Base.Access
import Nozomi.Display.Composer.Code

/-!
# The indices of a round

The arrays that `setListStats` and `MDPComp::prepare` use have `MAX_NUM_LAYERS` entries, or as many as a
mixer has pipes, while the number of layers comes from the list and the limit on the pipes from a property.
Each function is given the list of its accesses, in the order of the source and up to where it returns.
An access behind one that is out of bounds stands for nothing.
-/

namespace Nozomi

def maxNumLayers : Nat := 32

def maxPipesPerMixer : Nat := 4

/-- The arrays of `ListStats`, `FrameInfo` and `LayerCache`. -/
inductive ListArray where
  | yuvIndices
  | isFBComposed
  | layerToMDP
  | mdpToLayer
  | hnd
  | cachedIsFBComposed
  deriving DecidableEq, Repr

def ListArray.size : ListArray → Nat
  | .yuvIndices | .isFBComposed | .layerToMDP | .hnd | .cachedIsFBComposed => maxNumLayers
  | .mdpToLayer => maxPipesPerMixer

def DisplayContents.setListStatsAccesses (list : DisplayContents) : List (Access ListArray) :=
  (List.range (list.numAppLayers + 1)).flatMap fun (i : Nat) =>
    ⟨.yuvIndices, i⟩ ::
      if i ∈ list.yuvIndices then [⟨.yuvIndices, list.yuvIndices.countP (· < i)⟩] else []

/-! ### The division of the layers -/

namespace FrameInfo

variable {numPipes : Nat}

def resetAccesses : List (Access ListArray) :=
  (List.range maxPipesPerMixer).map fun (i : Nat) => ⟨.mdpToLayer, i⟩

def updateLayerCacheAccesses (list : DisplayContents) : List (Access ListArray) :=
  (List.range list.numAppLayers).flatMap fun (i : Nat) => [⟨.hnd, i⟩, ⟨.isFBComposed, i⟩]

variable (frame : FrameInfo numPipes)

def extendDownAccesses (batch : Int × Int) : List (Access ListArray) :=
  (whileStates (fun batch => decide (0 < batch.1) && frame.isFBComposed (batch.1 - 1).toNat)
    (fun batch => (batch.1 - 1, batch.2 + 1)) (frame.layerCount + 1) batch).flatMap fun batch =>
      if 0 < batch.1 then [⟨.isFBComposed, batch.1 - 1⟩] else []

def extendUpAccesses (batch : Int × Int) : List (Access ListArray) :=
  (whileStates
    (fun (batch : Int × Int) => decide (batch.1 + batch.2 < frame.layerCount) &&
      frame.isFBComposed (batch.1 + batch.2).toNat)
    (fun batch => (batch.1, batch.2 + 1)) (frame.layerCount + 1) batch).flatMap fun (batch : Int × Int) =>
      if batch.1 + batch.2 < frame.layerCount then [⟨.isFBComposed, batch.1 + batch.2⟩] else []

def skipFBAccesses (i : Nat) : List (Access ListArray) :=
  (whileStates (fun state => frame.isFBComposed state.2 && decide (state.2 < frame.layerCount))
    (fun state => (state.1 + 1, state.2 + 1)) (frame.layerCount + 1) (0, i)).map fun state =>
      ⟨.isFBComposed, state.2⟩

def longestBatchAccesses (batch : Int × Int) : List (Access ListArray) :=
  (whileStates (fun state => decide (state.1 < frame.layerCount)) frame.searchStep
    (frame.layerCount + 1) (0, batch)).flatMap fun state =>
      if state.1 < frame.layerCount then frame.skipFBAccesses state.1 else []

def resetRestAccesses (batch : Int × Int) : List (Access ListArray) :=
  (whileStates (fun state => decide (state.1 < frame.layerCount)) (resetStep batch)
    (frame.layerCount + 1) (0, frame.isFBComposed)).flatMap fun state =>
      if state.1 < frame.layerCount ∧ (state.1 : Int) ≠ batch.1 then [⟨.isFBComposed, state.1⟩] else []

def batchLayersAccesses (batch : Int × Int) : List (Access ListArray) :=
  if frame.fbCount = 0 ∨ frame.mdpCount = 0 then []
  else if batch.2 ≠ 0 then
    frame.extendDownAccesses batch ++ frame.extendUpAccesses (frame.extendDown batch) ++
      frame.resetRestAccesses (frame.extendUp (frame.extendDown batch))
  else frame.longestBatchAccesses batch ++ frame.resetRestAccesses (frame.longestBatch batch)

end FrameInfo

namespace Context

variable {numPipes : Nat} (ctx : Context numPipes) (dpy : Display) (list : DisplayContents)

def updateYUVAccesses : List (Access ListArray) :=
  list.yuvIndices.zipIdx.flatMap fun entry => [⟨.yuvIndices, entry.2⟩, ⟨.isFBComposed, entry.1⟩]

def markNotSupportedAccesses (state : FrameInfo numPipes × Int × Int) (i : Nat) :
    List (Access ListArray) :=
  if ctx.isSupported dpy list i then []
  else
    ⟨.isFBComposed, i⟩ :: if 0 ≤ state.2.2 then
      ((List.range i).reverse.takeWhile fun (j : Nat) => state.2.2 < j).map fun (j : Nat) =>
        ⟨.isFBComposed, j⟩
      else []

def updateNotSupportedAccesses (frame : FrameInfo numPipes) : List (Access ListArray) :=
  (List.range list.numAppLayers).flatMap fun (i : Nat) =>
    ctx.markNotSupportedAccesses dpy list
      ((List.range i).foldl (ctx.markNotSupported dpy list) (frame, -1, -2)) i

def divideAccesses (frame : FrameInfo numPipes) : List (Access ListArray) :=
  let (divided, batch) := ctx.updateNotSupported dpy list (ctx.updateYUV dpy list frame)
  updateYUVAccesses list ++ ctx.updateNotSupportedAccesses dpy list (ctx.updateYUV dpy list frame) ++
    divided.batchLayersAccesses batch ++ [⟨.isFBComposed, 0⟩]

def partialMDPCompAccesses (cached : LayerCache) : List (Access ListArray) :=
  FrameInfo.resetAccesses ++ FrameInfo.updateLayerCacheAccesses list ++
    ctx.divideAccesses dpy list ((FrameInfo.reset list.numAppLayers).updateLayerCache cached list)

def isOnlyVideoDoableAccesses : List (Access ListArray) :=
  if list.yuvIndices = [] then []
  else
    FrameInfo.resetAccesses ++ ctx.divideAccesses dpy list (FrameInfo.reset list.numAppLayers)

def isFullFrameDoableAccesses (cached : LayerCache) (frame : FrameInfo numPipes) :
    List (Access ListArray) :=
  if ctx.sIdleFallBack then []
  else if dpy ≠ .primary then []
  else if (ctx.fullMDPComp dpy list frame).2 then []
  else ctx.partialMDPCompAccesses dpy list cached

end Context

/-! ### The pipes -/

namespace FrameInfo

variable {numPipes : Nat} (frame : FrameInfo numPipes)

def mapAccesses : List (Access ListArray) :=
  (List.range frame.layerCount).flatMap fun (idx : Nat) =>
    ⟨.isFBComposed, idx⟩ :: if frame.isFBComposed idx then []
      else
        [⟨.mdpToLayer, ((List.range idx).foldl frame.mapLayer (frame.layerToMDP, 0)).2⟩,
          ⟨.layerToMDP, idx⟩]

def pipeLayerPairAccesses (i : Nat) : List (Access ListArray) :=
  [⟨.layerToMDP, i⟩, ⟨.mdpToLayer, (frame.layerToMDP i).elim (-1) fun mdpIndex => mdpIndex⟩]

def setMDPCompLayerFlagsAccesses (list : DisplayContents) : List (Access ListArray) :=
  (List.range list.numAppLayers).map fun (i : Nat) => ⟨.isFBComposed, i⟩

def dumpAccesses : List (Access ListArray) :=
  (List.range frame.layerCount).flatMap fun (i : Nat) =>
    [⟨.isFBComposed, i⟩, ⟨.layerToMDP, i⟩] ++
      if frame.isFBComposed i then [] else frame.pipeLayerPairAccesses i

end FrameInfo

namespace Context

variable {numPipes : Nat} (dpy : Display) (list : DisplayContents)

def allocPipesAccesses (typeOf : Nat → MdpPipeType) (reads : Nat → List (Access ListArray))
    (skips : Nat → Bool) : List Nat → Context numPipes → FrameInfo numPipes → List (Access ListArray)
  | [], _, _ => []
  | i :: layers, ctx, frame =>
    reads i ++ if skips i then allocPipesAccesses typeOf reads skips layers ctx frame
      else
        let (ctx, index) := ctx.getMdpPipe dpy (typeOf i)
        frame.pipeLayerPairAccesses i ++ if index.isSome then
          allocPipesAccesses typeOf reads skips layers ctx (frame.setPipeInfo i ⟨0, index⟩) else []

def allocLayerPipesAccesses (ctx : Context numPipes) (frame : FrameInfo numPipes) :
    List (Access ListArray) :=
  let (ctx, based, found) :=
    if ctx.baseNeeded dpy list frame then
      let (ctx, pipe) := ctx.getMdpPipe dpy .any
      (ctx, { frame with mdpBasePipe := pipe }, pipe.isSome)
    else (ctx, frame, true)
  ⟨.isFBComposed, 0⟩ :: if !found then []
    else
      let videos := allocPipesAccesses dpy (fun _ => .vg)
        (fun (i : Nat) => [⟨.yuvIndices, list.yuvIndices.idxOf i⟩, ⟨.isFBComposed, i⟩]) based.isFBComposed
        list.yuvIndices ctx based
      let (ctx, allocated, found) := allocPipes dpy (fun _ => .vg) (yuvLayers list based) ctx based
      videos ++ if !found then []
        else
          allocPipesAccesses dpy (fun i => ctx.uiPipeType (list.hwLayer i))
            (fun (i : Nat) => [⟨.isFBComposed, i⟩])
            (fun i => allocated.isFBComposed i || (list.hwLayer i).isYuvBuffer)
            (List.range allocated.layerCount) ctx allocated

def programLayersAccesses :
    List Nat → Int → Bool → Context numPipes → FrameInfo numPipes → List (Access ListArray)
  | [], _, _, _, _ => []
  | i :: layers, mdpNextZOrder, fbBatch, ctx, frame =>
    ⟨.isFBComposed, i⟩ :: if !frame.isFBComposed i then
      frame.pipeLayerPairAccesses i ++ match frame.pipeInfo i with
      | some ⟨_, some dest⟩ =>
        let frame := frame.setPipeInfo i ⟨mdpNextZOrder, some dest⟩
        let (ctx, configured) := ctx.configureLowRes (list.hwLayer i) mdpNextZOrder dest
        if configured then programLayersAccesses layers (mdpNextZOrder + 1) fbBatch ctx frame else []
      | _ => []
    else if !fbBatch then programLayersAccesses layers (mdpNextZOrder + 1) true ctx frame
    else programLayersAccesses layers mdpNextZOrder fbBatch ctx frame

def programMDPAccesses (ctx : Context numPipes) (frame : FrameInfo numPipes) :
    List (Access ListArray) :=
  let accesses := allocLayerPipesAccesses dpy list { ctx with mDMAInUse := false } frame
  let (ctx, frame, allocated) := allocLayerPipes dpy list { ctx with mDMAInUse := false } frame
  accesses ++ if !allocated then []
    else
      match frame.mdpBasePipe with
      | some basePipe =>
        let (ctx, configured) := ctx.configMdp 0 basePipe
        if configured then programLayersAccesses list (List.range frame.layerCount) 1 false ctx frame
        else []
      | none => programLayersAccesses list (List.range frame.layerCount) 0 false ctx frame

end Context

/-! ### `prepare` -/

namespace LayerCache

variable {numPipes : Nat} (cached : LayerCache) (list : DisplayContents)

def cacheAllAccesses : List (Access ListArray) :=
  (List.range list.numAppLayers).map fun (i : Nat) => ⟨.hnd, i⟩

def sameLayersAccesses (curFrame : FrameInfo numPipes) : List Nat → List (Access ListArray)
  | [] => []
  | i :: layers =>
    [⟨.isFBComposed, i⟩, ⟨.cachedIsFBComposed, i⟩] ++
      if curFrame.isFBComposed i ≠ cached.isFBComposed i then []
      else
        ⟨.isFBComposed, i⟩ :: if curFrame.isFBComposed i then
          ⟨.hnd, i⟩ :: if cached.hnd i ≠ (list.hwLayer i).handle.map (·.address) then []
            else sameLayersAccesses curFrame layers
        else sameLayersAccesses curFrame layers

def isSameFrameAccesses (curFrame : FrameInfo numPipes) : List (Access ListArray) :=
  if cached.layerCount ≠ curFrame.layerCount then []
  else cached.sameLayersAccesses list curFrame (List.range curFrame.layerCount)

end LayerCache

namespace MDPComp

variable {numPipes : Nat} (mdpComp : MDPComp numPipes) (list : DisplayContents)

def resetAccesses : List (Access ListArray) :=
  FrameInfo.resetAccesses ++ LayerCache.cacheAllAccesses list

def composeFrameAccesses (sDebugLogs full : Bool) (ctx : Context numPipes) (dpy : Display)
    (fbUpdate : FBUpdate numPipes) (frame : FrameInfo numPipes) : List (Access ListArray) :=
  let mapped := frame.map
  let (ctx, _, prepared) :=
    if 0 ≤ mapped.fbZ then fbUpdate.prepare ctx dpy mapped.fbZ else (ctx, fbUpdate, true)
  frame.mapAccesses ++ if !prepared then resetAccesses list
    else
      let (_, last, programmed) := ctx.programMDP dpy list mapped
      ctx.programMDPAccesses dpy list mapped ++ if !programmed then resetAccesses list
        else
          (if full then mdpComp.mCachedFrame.isSameFrameAccesses list last else []) ++
            FrameInfo.setMDPCompLayerFlagsAccesses list ++ LayerCache.cacheAllAccesses list ++
            if sDebugLogs then last.dumpAccesses else []

def prepareAccesses (sDebugLogs : Bool) (ctx : Context numPipes) (dpy : Display)
    (fbUpdate : FBUpdate numPipes) : List (Access ListArray) :=
  FrameInfo.resetAccesses ++ if !ctx.isFrameDoable then resetAccesses list
    else
      let start : FrameInfo numPipes := .reset list.numAppLayers
      let (frame, full) := ctx.isFullFrameDoable dpy list mdpComp.mCachedFrame start
      let (accepted, doable) := if full then (frame, true) else ctx.isOnlyVideoDoable dpy list frame
      ctx.isFullFrameDoableAccesses dpy list mdpComp.mCachedFrame start ++
        (if full then [] else ctx.isOnlyVideoDoableAccesses dpy list) ++
        if !doable then resetAccesses list
        else mdpComp.composeFrameAccesses list sDebugLogs full ctx dpy fbUpdate accepted

end MDPComp

def DisplayState.hwcPrepareAccesses {numPipes : Nat} (state : DisplayState numPipes) (sDebugLogs : Bool)
    (ctx : Context numPipes) (dpy : Display) (list : Option DisplayContents) : List (Access ListArray) :=
  match list with
  | none => []
  | some list =>
    if !state.draws dpy list then []
    else
      list.setListStatsAccesses ++
        state.mdpComp.prepareAccesses list sDebugLogs (state.enter ctx dpy list) dpy state.fbUpdate

def Context.hwcPrepareAccesses {numPipes : Nat} (ctx : Context numPipes) (sDebugLogs : Bool)
    (displays : Display → DisplayState numPipes) (lists : Display → Option DisplayContents) :
    List (Access ListArray) :=
  let accesses := fun dpy => (displays dpy).reset.hwcPrepareAccesses sDebugLogs
    (ctx.arrive displays lists dpy) dpy (lists dpy)
  accesses .external ++ accesses .primary

end Nozomi
