import Nozomi.Base.Descriptors
import Nozomi.Display.MDPComp.Code

/-!
# The fences of a frame

`hwc_sync` and `closeAcquireFds` of `hwc_utils.cpp`, with `LayerRotMap` and the two functions
`setReleaseFd` that keep a fence for the next frame. What an `ioctl` answers is a parameter; one that
fails leaves the fields it should fill as they were.
-/

namespace Nozomi

inductive CompositionType where
  | framebuffer | overlay | background | framebufferTarget
  deriving DecidableEq, Repr

/-! ### The layers behind a rotator -/

def maxSess : Nat := 3

/-- `LayerRotMap`: the layers by their index; every layer has a rotator of its own. -/
structure LayerRotMap where
  mLayer : List Nat
  mCount_le : mLayer.length ≤ maxSess

namespace LayerRotMap

def empty : LayerRotMap := ⟨[], Nat.zero_le _⟩

def add (rotMap : LayerRotMap) (layer : Nat) : LayerRotMap :=
  if hfull : maxSess ≤ rotMap.mLayer.length then rotMap
  else ⟨rotMap.mLayer ++ [layer], by
    rw [List.length_append]
    exact Nat.succ_le_of_lt (Nat.lt_of_not_le hfull)⟩

end LayerRotMap

/-! ### The state -/

/-- `hwc_layer_1_t` with its fences; `mdpComp` is the flag `HWC_MDPCOMP` of its `layerProp`. -/
structure FencedLayer where
  compositionType : CompositionType
  mdpComp : Bool
  acquireFenceFd : Int
  releaseFenceFd : Int
  deriving DecidableEq, Repr

namespace FencedLayer

def isShown (layer : FencedLayer) : Bool :=
  layer.compositionType = .overlay ∨ layer.compositionType = .framebufferTarget

end FencedLayer

/-- What does not change: whether the rotator is compiled in (not with `MDSS_TARGET`), the version of
the hardware, and whether `debug.egl.swapinterval` is zero. -/
structure SyncTarget where
  mdssTarget : Bool
  mdpVersion : Nat
  swapzero : Bool

/-- What `hwc_sync` changes. `mRelFence` is the fence of the current buffer of a layer's rotator, and
`mRelFd` that of copybit's current buffer, if copybit has drawn. -/
structure SyncState where
  fds : Descriptors
  layers : List FencedLayer
  mRelFence : Nat → Int
  mRelFd : Option Int
  retireFenceFd : Int

/-- `struct mdp_buf_sync`, as `hwc_sync` fills it. -/
structure BufSync where
  wait : Bool
  acqFenFd : List Int
  deriving DecidableEq, Repr

/-! ### `hwc_sync` -/

namespace SyncState

def syncRotator (rotatorSync : Nat → Int → Bool) (state : SyncState) (i : Nat) : SyncState :=
  match state.layers[i]? with
  | none => state
  | some layer =>
    let (fds, relFenFd) :=
      if rotatorSync i layer.acquireFenceFd then state.fds.create else (state.fds, 0)
    let (fds, acquireFenceFd) := (fds.close layer.acquireFenceFd).dup relFenFd
    { state with
      fds := fds
      layers := state.layers.set i
        { layer with acquireFenceFd := acquireFenceFd, releaseFenceFd := relFenFd } }

def acquireFds (swapzero : Bool) (fd : Int) (layer : FencedLayer) : List Int :=
  (if layer.compositionType = .overlay ∧ layer.mdpComp ∧ 0 ≤ layer.acquireFenceFd then
    if swapzero then [-1] else [layer.acquireFenceFd]
  else []) ++
  (if layer.compositionType = .framebufferTarget then
    if swapzero then [-1]
    else if 0 ≤ fd then [fd]
    else if 0 ≤ layer.acquireFenceFd then [layer.acquireFenceFd] else []
  else [])

def request (target : SyncTarget) (fd : Int) (layers : List FencedLayer) : BufSync where
  wait := decide (mdssV5 ≤ target.mdpVersion) &&
    !(!target.swapzero && decide (0 ≤ fd) &&
      layers.any fun layer => decide (layer.compositionType = .framebufferTarget))
  acqFenFd := layers.flatMap (acquireFds target.swapzero fd)

def populate (swapzero : Bool) (fd releaseFd : Int) (fds : Descriptors) (layer : FencedLayer) :
    Descriptors × FencedLayer :=
  if layer.isShown then
    if swapzero then (fds, { layer with releaseFenceFd := -1 })
    else if 0 ≤ fd then (fds, { layer with releaseFenceFd := -1 })
    else if layer.releaseFenceFd < 0 then
      ((fds.dup releaseFd).1, { layer with releaseFenceFd := (fds.dup releaseFd).2 })
    else (fds, layer)
  else (fds, layer)

def setCopyBitFd (fence : Int) (state : SyncState) : SyncState :=
  match state.mRelFd with
  | none => state
  | some old =>
    let (fds, mRelFd) := (state.fds.close old).dup fence
    { state with fds := fds, mRelFd := some mRelFd }

def setRotatorFd (fence : Int) (state : SyncState) (i : Nat) : SyncState :=
  let (fds, mRelFence) := state.fds.dup fence
  { state with
    fds := fds.close (state.mRelFence i)
    mRelFence := Function.update state.mRelFence i mRelFence }

def bufferFences (accepted : Bool) (fds : Descriptors) : Descriptors × Int × Int :=
  if accepted then (fds.create.1.create.1, fds.create.2, fds.create.1.create.2) else (fds, -1, -1)

def syncsRotator (target : SyncTarget) : Bool :=
  !target.mdssTarget && decide (target.mdpVersion < mdssV5)

def distribute (target : SyncTarget) (rotMap : LayerRotMap) (rotatorSync : Nat → Int → Bool)
    (bufferSync : BufSync → Bool) (fd : Int) (state : SyncState) : SyncState × Int × Bool :=
  let state :=
    if syncsRotator target then rotMap.mLayer.foldl (syncRotator rotatorSync) state else state
  let accepted := !target.swapzero && bufferSync (request target fd state.layers)
  let (fds, releaseFd, retireFd) := bufferFences accepted state.fds
  let (fds, layers) := threadMap (populate target.swapzero fd releaseFd) fds state.layers
  ({ state with
      fds := fds
      layers := layers
      retireFenceFd := if target.swapzero then -1 else retireFd }, releaseFd, target.swapzero || accepted)

def settle (target : SyncTarget) (rotMap : LayerRotMap) (fd releaseFd : Int) (state : SyncState) :
    SyncState :=
  let state := setCopyBitFd releaseFd { state with fds := state.fds.close fd }
  let state :=
    if target.mdpVersion < mdssV5 then rotMap.mLayer.foldl (setRotatorFd releaseFd) state else state
  { state with fds := state.fds.close releaseFd }

def hwcSync (target : SyncTarget) (rotMap : LayerRotMap) (rotatorSync : Nat → Int → Bool)
    (bufferSync : BufSync → Bool) (fd : Int) (state : SyncState) : SyncState × Bool :=
  let (state, releaseFd, ret) := state.distribute target rotMap rotatorSync bufferSync fd
  (state.settle target rotMap fd releaseFd, ret)

def closeAcquireFd (fds : Descriptors) (layer : FencedLayer) : Descriptors × FencedLayer :=
  if 0 ≤ layer.acquireFenceFd then
    (fds.close layer.acquireFenceFd, { layer with acquireFenceFd := -1 })
  else (fds, layer)

def closeAcquireFds (state : SyncState) : SyncState :=
  let (fds, layers) := threadMap closeAcquireFd state.fds state.layers
  { state with fds := fds, layers := layers }

end SyncState

end Nozomi
