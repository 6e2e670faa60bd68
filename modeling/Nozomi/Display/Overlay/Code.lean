import Mathlib.Data.Fintype.Basic
import Mathlib.Data.Finset.Card
import Nozomi.Base.Run

/-!
# The overlay pipes

`overlay.cpp` and the inline functions of `overlay.h`: the pipe book, its three bitmaps, and the calls
that the displays make in a drawing round. A bitmap is the set of the pipes whose bit is set, and
`OV_INVALID` is the missing pipe. Whether the driver accepts the configuration of a pipe is the
argument of `commit`.
-/

namespace Nozomi

inductive MdpPipeType where
  | rgb | vg | dma | any
  deriving DecidableEq, Repr

inductive Display where
  | primary | external
  deriving DecidableEq, Repr

/-- `class GenericPipe`, with the z-order of the source that was set last. -/
structure GenericPipe where
  dpy : Display
  zOrder : Int
  deriving DecidableEq, Repr

/-- `struct PipeBook`. There is no display where the code has `DPY_UNUSED`. -/
structure PipeBook where
  mPipe : Option GenericPipe
  mDisplay : Option Display
  deriving DecidableEq, Repr

namespace PipeBook

def free : PipeBook := ⟨none, none⟩

def valid (book : PipeBook) : Bool := book.mPipe.isSome

end PipeBook

/-- `class Overlay` for `NUM_PIPES` pipes. -/
structure Overlay (numPipes : Nat) where
  pipeTypeLUT : Fin numPipes → MdpPipeType
  mPipeBook : Fin numPipes → PipeBook
  sPipeUsageBitmap : Finset (Fin numPipes)
  sLastUsageBitmap : Finset (Fin numPipes)
  sAllocatedBitmap : Finset (Fin numPipes)
  deriving DecidableEq

def initOverlay (rgbPipes vgPipes dmaPipes : Nat) (pipe : Fin (rgbPipes + vgPipes + dmaPipes)) :
    MdpPipeType :=
  if pipe < rgbPipes then .rgb else if pipe < rgbPipes + vgPipes then .vg else .dma

namespace Overlay

variable {numPipes : Nat}

def init (pipeTypeLUT : Fin numPipes → MdpPipeType) : Overlay numPipes :=
  ⟨pipeTypeLUT, fun _ => .free, ∅, ∅, ∅⟩

variable (overlay : Overlay numPipes)

def configBegin : Overlay numPipes :=
  { overlay with sPipeUsageBitmap := ∅, sAllocatedBitmap := ∅ }

def pipeUsageUnchanged : Bool := overlay.sPipeUsageBitmap = overlay.sLastUsageBitmap

def configDone : Overlay numPipes :=
  if overlay.pipeUsageUnchanged then overlay
  else
    { overlay with
      mPipeBook := fun pipe =>
        if pipe ∈ overlay.sPipeUsageBitmap then overlay.mPipeBook pipe else .free
      sLastUsageBitmap := overlay.sPipeUsageBitmap }

def isAvailable (dpy : Display) (pipe : Fin numPipes) : Bool :=
  ((overlay.mPipeBook pipe).mDisplay = none ∨ (overlay.mPipeBook pipe).mDisplay = some dpy) ∧
    pipe ∉ overlay.sAllocatedBitmap

def findPipe (type : MdpPipeType) (dpy : Display) : Option (Fin numPipes) :=
  (List.finRange numPipes).find? fun pipe =>
    (type = .any ∨ type = overlay.pipeTypeLUT pipe) ∧ overlay.isAvailable dpy pipe

def acquire (dpy : Display) (book : PipeBook) : PipeBook :=
  ⟨some (book.mPipe.getD ⟨dpy, 0⟩), some dpy⟩

def handOut (dpy : Display) (pipe : Fin numPipes) : Overlay numPipes :=
  { overlay with
    mPipeBook := Function.update overlay.mPipeBook pipe (acquire dpy (overlay.mPipeBook pipe))
    sAllocatedBitmap := insert pipe overlay.sAllocatedBitmap }

def nextPipe (type : MdpPipeType) (dpy : Display) : Overlay numPipes × Option (Fin numPipes) :=
  match overlay.findPipe type dpy with
  | some pipe => (overlay.handOut dpy pipe, some pipe)
  | none => (overlay, none)

def availablePipes (dpy : Display) : Nat :=
  (Finset.univ.filter fun pipe => overlay.isAvailable dpy pipe).card

def setSource (zOrder : Int) (dest : Fin numPipes) : Overlay numPipes :=
  { overlay with
    mPipeBook := Function.update overlay.mPipeBook dest
      { overlay.mPipeBook dest with
        mPipe := (overlay.mPipeBook dest).mPipe.map ({ · with zOrder := zOrder }) } }

def commit (accepted : Bool) (dest : Fin numPipes) : Overlay numPipes × Bool :=
  if accepted then
    ({ overlay with sPipeUsageBitmap := insert dest overlay.sPipeUsageBitmap }, true)
  else
    ({ overlay with
        sPipeUsageBitmap := overlay.sPipeUsageBitmap.erase dest
        sAllocatedBitmap := overlay.sAllocatedBitmap.filter fun pipe =>
          (overlay.mPipeBook pipe).mDisplay ≠ (overlay.mPipeBook dest).mDisplay }, false)

end Overlay

/-! ### Drawing rounds -/

inductive Call (numPipes : Nat) where
  | nextPipe (type : MdpPipeType) (dpy : Display)
  | commit (dest : Fin numPipes) (accepted : Bool)
  deriving DecidableEq

inductive OverlayAction (numPipes : Nat) where
  | configBegin
  | call (call : Call numPipes)
  | configDone
  deriving DecidableEq

namespace Overlay

variable {numPipes : Nat}

def call (overlay : Overlay numPipes) : Call numPipes → Option (Overlay numPipes)
  | .nextPipe type dpy => some (overlay.nextPipe type dpy).1
  | .commit dest accepted =>
    if (overlay.mPipeBook dest).valid then some (overlay.commit accepted dest).1 else none

def step (overlay : Overlay numPipes) : OverlayAction numPipes → Option (Overlay numPipes)
  | .configBegin => some overlay.configBegin
  | .call request => overlay.call request
  | .configDone => some overlay.configDone

def runRound (overlay : Overlay numPipes) (calls : List (Call numPipes)) :
    Option (Overlay numPipes) :=
  (runSteps call overlay.configBegin calls).map configDone

def answers : Overlay numPipes → List (Call numPipes) → List (Option (Fin numPipes))
  | _, [] => []
  | overlay, .nextPipe type dpy :: calls =>
    (overlay.nextPipe type dpy).2 :: answers (overlay.nextPipe type dpy).1 calls
  | overlay, .commit dest accepted :: calls => answers (overlay.commit accepted dest).1 calls

end Overlay

end Nozomi
