import Nozomi.Display.Gralloc.Sizes
import Nozomi.Display.Overlay.Orientation

/-!
# The rotator of the MDP

`MdpRot` of `overlayMdpRot.cpp` with `RotMem` of `overlayRotator.cpp`: two memories of three buffers each,
which the frames are rotated into in turn. Allocation, the release of memory and the `ioctl` calls are
answered from outside. `OVASSERT` ends the program.
-/

namespace Nozomi

open Gralloc (AdrenoPadding PixelFormat getBufferSizeAndDimensions)

/-! ### Formats and sizes -/

def getHALFormat (mdpFormat : BitVec 32) : BitVec 32 :=
  match mdpFormat.toNat with
  | 12 => 1 -- RGBA_8888
  | 14 => 2 -- RGBX_8888
  | 5 => 3 -- RGB_888
  | 0 => 4 -- RGB_565
  | 13 => 5 -- BGRA_8888
  | 18 => 0x32315659 -- YV12
  | 9 => 0x10 -- YCbCr_422_SP
  | 6 => 0x11 -- YCrCb_420_SP
  | 16 => 0x7FA30C03 -- YCbCr_420_SP_TILED
  | 2 => 0x109 -- YCbCr_420_SP
  | 8 => 0x10B -- YCrCb_422_SP
  | 21 => 0x10F -- YCbCr_444_SP
  | 20 => 0x110 -- YCrCb_444_SP
  | 0x10002 => 0x7FA30C04 -- YCbCr_420_SP_VENUS
  | _ => -1

def calcOutputBufSize (padding : AdrenoPadding) (destWhf : Whf) : BitVec 32 :=
  (getBufferSizeAndDimensions padding destWhf.w destWhf.h (.ofCode (getHALFormat destWhf.format))).size

def Whf.swap (whf : Whf) : Whf := { whf with w := whf.h, h := whf.w }

theorem Whf.swap_involutive : Function.Involutive Whf.swap := fun _ => rfl

/-! ### Memory -/

/-- A release fence: its descriptor, and what tells it from the other fences. -/
structure ReleaseFence where
  fd : Int
  id : Nat
  deriving DecidableEq, Repr

def ReleaseFence.none : ReleaseFence := ⟨-1, 0⟩

/-- `OvMem` that is valid: the descriptor of the memory, and the size of a buffer. There are as many buffers
as `ROT_NUM_BUFS`. -/
structure OvMem where
  fd : BitVec 32
  bufSz : BitVec 32
  deriving DecidableEq, Repr

structure Mem where
  mRotOffset : Fin 3 → BitVec 32
  mRelFence : Fin 3 → ReleaseFence
  mCurrOffset : Fin 3
  m : Option OvMem
  deriving DecidableEq

namespace Mem

def new : Mem := ⟨fun _ => 0, fun _ => .none, 0, none⟩

variable (mem : Mem)

def size : BitVec 32 := (mem.m.map (·.bufSz)).getD 0

def waitedFence : Option ReleaseFence :=
  if 0 ≤ (mem.mRelFence mem.mCurrOffset).fd then some (mem.mRelFence mem.mCurrOffset) else none

def setReleaseFd (fence : ReleaseFence) : Mem :=
  { mem with mRelFence := Function.update mem.mRelFence mem.mCurrOffset fence }

def close (frees : Bool) : Mem :=
  { mem with mRelFence := fun _ => .none, m := if frees then none else mem.m }

end Mem

structure RotMem where
  curr : Fin 2
  m : Fin 2 → Mem
  deriving DecidableEq

namespace RotMem

def new : RotMem := ⟨0, fun _ => .new⟩

variable (mMem : RotMem)

def current : Mem := mMem.m mMem.curr

def setCurrent (mem : Mem) : RotMem := { mMem with m := Function.update mMem.m mMem.curr mem }

def next : RotMem := { mMem with curr := mMem.curr + 1 }

@[simp] theorem setCurrent_curr (mem : Mem) : (mMem.setCurrent mem).curr = mMem.curr := rfl

@[simp] theorem setCurrent_current (mem : Mem) : (mMem.setCurrent mem).current = mem := by
  simp [setCurrent, current]

@[simp] theorem setCurrent_m_of_ne (mem : Mem) {index : Fin 2} (hother : index ≠ mMem.curr) :
    (mMem.setCurrent mem).m index = mMem.m index := by
  simp [setCurrent, hother]

end RotMem

/-! ### The rotator -/

/-- `msm_rotator_img_info`, where the fields at zero are left out. -/
structure RotImgInfo where
  sessionId : BitVec 32
  src : Whf
  dst : Whf
  srcRectW : BitVec 32
  srcRectH : BitVec 32
  rotations : BitVec 8
  enable : Bool
  downscaleRatio : BitVec 32
  secure : Bool
  deriving DecidableEq, Repr

/-- `msm_rotator_data_info`, of which the other fields are not set. -/
structure RotDataInfo where
  sessionId : BitVec 32
  srcMemoryId : BitVec 32
  srcOffset : BitVec 32
  dstMemoryId : BitVec 32
  dstOffset : BitVec 32
  deriving DecidableEq, Repr

structure MdpRot where
  mRotImgInfo : RotImgInfo
  mOrigWhf : Whf
  mLSRotImgInfo : RotImgInfo
  mRotDataInfo : RotDataInfo
  mOrientation : BitVec 32
  mMem : RotMem
  deriving DecidableEq

def alignup (value align : Int) : BitVec 32 := .ofInt 32 (((value - 1).tdiv align + 1) * align)

def aligndown (value align : BitVec 32) : BitVec 32 := value &&& ~~~(align - 1)

namespace MdpRot

def new : MdpRot :=
  let info : RotImgInfo := ⟨0, ⟨0, 0, 0, 0⟩, ⟨0, 0, 0, 0⟩, 0, 0, 0, false, 0, false⟩
  ⟨info, ⟨0, 0, 0, 0⟩, info, ⟨0, 0, 0, 0, 0⟩, 0, .new⟩

variable (rot : MdpRot)

def setSource (awhf : Whf) : MdpRot :=
  { rot with mRotImgInfo :=
    { rot.mRotImgInfo with
      src := { awhf with size := 0 }
      srcRectW := awhf.w
      srcRectH := awhf.h
      dst := { rot.mRotImgInfo.dst with w := awhf.w, h := awhf.h } } }

def setSourceOrig (awhf owhf : Whf) : MdpRot := { rot with mOrigWhf := owhf }.setSource awhf

def setFlags (flags : BitVec 32) : MdpRot :=
  { rot with mRotImgInfo := { rot.mRotImgInfo with secure := flags &&& 0x00008000 ≠ 0 } }

def setTransform (orient : BitVec 32) : MdpRot :=
  let r := getMdpOrient orient
  { rot with
    mRotImgInfo := { rot.mRotImgInfo with rotations := r.truncate 8 }
    mOrientation := r }

def setDownscale (ds : BitVec 32) : MdpRot :=
  let h := rot.mRotImgInfo.srcRectH
  let srcRectH :=
    -- `MDP_Y_CR_CB_GH2V2`
    if rot.mRotImgInfo.src.format = 18 then
      if ds = 1 ∧ h &&& 0x3 ≠ 0 then aligndown h 4
      else if ds = 2 ∧ h &&& 0x7 ≠ 0 then aligndown h 8
      else if ds = 3 ∧ h &&& 0xf ≠ 0 then aligndown h 16
      else h
    else if ds = 3 ∧ h &&& 0xf ≠ 0 then alignup h.toInt 16
    else h
  { rot with mRotImgInfo := { rot.mRotImgInfo with srcRectH := srcRectH, downscaleRatio := ds } }

def rot90 : Bool := rot.mOrientation &&& transformRot90 ≠ 0

def doTransform : MdpRot :=
  if rot.rot90 then { rot with mRotImgInfo := { rot.mRotImgInfo with dst := rot.mRotImgInfo.dst.swap } }
  else rot

def commit (startRotator : RotImgInfo → Option RotImgInfo) : MdpRot × Bool :=
  let rot := rot.doTransform
  -- `rotConfChanged`
  if rot.mRotImgInfo ≠ rot.mLSRotImgInfo then
    match startRotator { rot.mRotImgInfo with enable := true } with
    | none => ({ rot with mRotImgInfo := { rot.mRotImgInfo with enable := false } }, false)
    | some info =>
      ({ rot with
          mRotImgInfo := info
          mLSRotImgInfo := info
          mRotDataInfo := { rot.mRotDataInfo with sessionId := info.sessionId } }, true)
  else (rot, true)

def setReleaseFd (fence : ReleaseFence) : MdpRot :=
  { rot with mMem := rot.mMem.setCurrent (rot.mMem.current.setReleaseFd fence) }

def turnedWhf : Whf := if rot.rot90 then rot.mOrigWhf.swap else rot.mOrigWhf

def opBufSize (padding : AdrenoPadding) : BitVec 32 :=
  calcOutputBufSize padding ⟨rot.turnedWhf.w, rot.turnedWhf.h, rot.mRotImgInfo.dst.format, 0⟩

def open_i (allocated : Option (BitVec 32)) (bufsz : BitVec 32) : Option MdpRot :=
  if bufsz = 0 then none
  else
    match allocated with
    | none => some rot
    | some fd =>
      if fd = -1 then none
      else
        some { rot with
          mRotDataInfo := { rot.mRotDataInfo with dstMemoryId := fd, dstOffset := 0 }
          mMem := rot.mMem.setCurrent
            { rot.mMem.current with
              m := some ⟨fd, bufsz⟩
              mRotOffset := fun i => BitVec.ofNat 32 i * bufsz } }

def remap (padding : AdrenoPadding) (frees : Bool) (allocated : Option (BitVec 32)) : Option MdpRot :=
  let opBufSize := rot.opBufSize padding
  let rot := { rot with mOrigWhf := rot.turnedWhf }
  if opBufSize = rot.mMem.current.size then some rot
  else
    let rot := { rot with mMem := rot.mMem.next }
    if rot.mMem.current.m.isSome then
      let rot := { rot with mMem := rot.mMem.setCurrent (rot.mMem.current.close frees) }
      if frees then rot.open_i allocated opBufSize else some rot
    else rot.open_i allocated opBufSize

def rotateNext (rotates : Bool) : Option (MdpRot × Bool) :=
  let mem := rot.mMem.current
  if mem.m.isNone then none
  else
    some ({ rot with
      mRotDataInfo := { rot.mRotDataInfo with dstOffset := mem.mRotOffset mem.mCurrOffset }
      mMem := rot.mMem.setCurrent { mem with mCurrOffset := mem.mCurrOffset + 1 } }, rotates)

/-- What comes from outside in `queueBuffer`: whether memory is freed, what is allocated, and whether the
rotator takes the buffer. -/
structure Answers where
  frees : Bool
  allocated : Option (BitVec 32)
  rotates : Bool
  deriving DecidableEq, Repr

def remapFor (padding : AdrenoPadding) (fd offset : BitVec 32) (answers : Answers) : Option MdpRot :=
  { rot with mRotDataInfo := { rot.mRotDataInfo with srcMemoryId := fd, srcOffset := offset } }.remap padding
    answers.frees answers.allocated

def queueBuffer (padding : AdrenoPadding) (fd offset : BitVec 32) (answers : Answers) :
    Option (MdpRot × Bool) :=
  if rot.mRotImgInfo.enable then
    match rot.remapFor padding fd offset answers with
    | none => none
    | some rot => rot.rotateNext answers.rotates
  else some (rot, true)

/-- A call that describes what is to be rotated. -/
inductive Setting where
  | setSource (awhf : Whf)
  | setSourceOrig (awhf owhf : Whf)
  | setFlags (flags : BitVec 32)
  | setTransform (orient : BitVec 32)
  | setDownscale (ds : BitVec 32)
  | commit (startRotator : RotImgInfo → Option RotImgInfo)

def set : Setting → MdpRot
  | .setSource awhf => rot.setSource awhf
  | .setSourceOrig awhf owhf => rot.setSourceOrig awhf owhf
  | .setFlags flags => rot.setFlags flags
  | .setTransform orient => rot.setTransform orient
  | .setDownscale ds => rot.setDownscale ds
  | .commit startRotator => (rot.commit startRotator).1

/-! ### What a call leaves as it was -/

@[simp] theorem set_mMem (setting : Setting) : (rot.set setting).mMem = rot.mMem := by
  cases setting with
  | commit startRotator =>
    have hturn : rot.doTransform.mMem = rot.mMem := by
      unfold doTransform
      split <;> rfl
    simp only [set, commit]
    split
    · split <;> exact hturn
    · exact hturn
  | _ => rfl

theorem set_mOrigWhf (setting : Setting) : (rot.set setting).mOrigWhf =
    match setting with
    | .setSourceOrig _ owhf => owhf
    | _ => rot.mOrigWhf := by
  cases setting with
  | commit startRotator =>
    have hturn : rot.doTransform.mOrigWhf = rot.mOrigWhf := by
      unfold doTransform
      split <;> rfl
    simp only [set, commit]
    split
    · split <;> exact hturn
    · exact hturn
  | _ => rfl

def remaps (padding : AdrenoPadding) : Bool := rot.opBufSize padding ≠ rot.mMem.current.size

section Remap

variable {rot} {padding : AdrenoPadding} {frees : Bool} {allocated : Option (BitVec 32)} {next : MdpRot}

theorem open_i_cases {bufsz : BitVec 32} (hopen : rot.open_i allocated bufsz = some next) :
    next = rot ∨ ∃ fd data, next =
      { rot with
        mRotDataInfo := data
        mMem := rot.mMem.setCurrent
          { rot.mMem.current with
            m := some ⟨fd, bufsz⟩
            mRotOffset := fun i => BitVec.ofNat 32 i * bufsz } } := by
  unfold open_i at hopen
  split at hopen
  case isTrue => cases hopen
  case isFalse =>
    cases allocated with
    | none => exact .inl (Option.some.inj hopen).symm
    | some fd =>
      simp only at hopen
      split at hopen
      case isTrue => cases hopen
      case isFalse => exact .inr ⟨fd, _, (Option.some.inj hopen).symm⟩

/-- What `remap` does to the memories: the current one stays, or the other one becomes the current one, with no
fence of a memory that was closed. A memory that is left behind keeps all. -/
structure Remapped (rot : MdpRot) (padding : AdrenoPadding) (frees : Bool) (next : MdpRot) : Prop where
  mRotImgInfo : next.mRotImgInfo = rot.mRotImgInfo
  mOrientation : next.mOrientation = rot.mOrientation
  mOrigWhf : next.mOrigWhf = rot.turnedWhf
  stays : rot.remaps padding = false → next.mMem = rot.mMem
  turns : rot.remaps padding = true → next.mMem.curr = rot.mMem.curr + 1 ∧
    next.mMem.m rot.mMem.curr = rot.mMem.m rot.mMem.curr ∧
    next.mMem.current.mCurrOffset = (rot.mMem.m (rot.mMem.curr + 1)).mCurrOffset ∧
    (next.mMem.current.mRelFence = (fun _ => .none) ∨
      next.mMem.current.mRelFence = (rot.mMem.m (rot.mMem.curr + 1)).mRelFence) ∧
    (frees = true → next.mMem.current.m.isSome → next.mMem.current.size = rot.opBufSize padding)

theorem curr_ne_succ (curr : Fin 2) : curr ≠ curr + 1 := by
  revert curr
  decide

theorem Remapped.open_i {opened : MdpRot} (hremapped : Remapped rot padding false opened)
    (hremaps : rot.remaps padding = true) (hclosed : opened.mMem.current.m = none)
    (hopen : opened.open_i allocated (rot.opBufSize padding) = some next) :
    Remapped rot padding frees next := by
  obtain ⟨himg, horient, horig, hstays, hturns⟩ := hremapped
  obtain ⟨hcurr, hleft, hoffset, hfence, -⟩ := hturns hremaps
  rcases open_i_cases hopen with rfl | ⟨fd, data, rfl⟩
  · refine ⟨himg, horient, horig, hstays, fun _ => ⟨hcurr, hleft, hoffset, hfence, ?_⟩⟩
    simp [hclosed]
  have hne : rot.mMem.curr ≠ opened.mMem.curr := by
    rw [hcurr]
    exact curr_ne_succ _
  refine ⟨himg, horient, horig, by simp [hremaps], fun _ => ⟨hcurr, ?_, ?_, ?_, ?_⟩⟩
  · simpa [hne] using hleft
  · simpa using hoffset
  · simpa using hfence
  · simp [Mem.size]

theorem remap_remapped (hremap : rot.remap padding frees allocated = some next) :
    Remapped rot padding frees next := by
  unfold remap at hremap
  simp only at hremap
  split at hremap
  case isTrue hsame =>
    obtain rfl := Option.some.inj hremap
    exact ⟨rfl, rfl, rfl, fun _ => rfl, by simp [remaps, hsame]⟩
  case isFalse hsize =>
    have hremaps : rot.remaps padding = true := by simp [remaps, hsize]
    have hne := curr_ne_succ rot.mMem.curr
    split at hremap
    case isTrue hvalid =>
      -- the other memory is closed first, and its fences with it
      have hclosed : Remapped rot padding false
          { rot with
            mOrigWhf := rot.turnedWhf
            mMem := rot.mMem.next.setCurrent (rot.mMem.next.current.close frees) } := by
        refine ⟨rfl, rfl, rfl, by simp [hremaps], fun _ => ⟨rfl, ?_, ?_, .inl ?_, by simp⟩⟩
        · exact RotMem.setCurrent_m_of_ne _ _ hne
        · rw [RotMem.setCurrent_current]
          rfl
        · simp [Mem.close]
      cases frees with
      | true => exact hclosed.open_i hremaps (by simp [Mem.close]) hremap
      | false =>
        obtain rfl := Option.some.inj hremap
        exact hclosed
    case isFalse hinvalid =>
      have hturned : Remapped rot padding false
          { rot with mOrigWhf := rot.turnedWhf, mMem := rot.mMem.next } :=
        ⟨rfl, rfl, rfl, by simp [hremaps], fun _ => ⟨rfl, rfl, rfl, .inr rfl, by simp⟩⟩
      exact hturned.open_i hremaps (by simpa using hinvalid) hremap

end Remap

def destination (padding : AdrenoPadding) (fd offset : BitVec 32) (answers : Answers) :
    Option (Fin 2 × Fin 3) :=
  if rot.mRotImgInfo.enable then
    (rot.remapFor padding fd offset answers).map fun next => (next.mMem.curr, next.mMem.current.mCurrOffset)
  else none

theorem destination_cases {rot : MdpRot} {padding : AdrenoPadding} {fd offset : BitVec 32} {answers : Answers}
    {slot : Fin 2 × Fin 3} (hslot : rot.destination padding fd offset answers = some slot) :
    rot.mRotImgInfo.enable = true ∧ ∃ next, Remapped rot padding answers.frees next ∧
      slot = (next.mMem.curr, next.mMem.current.mCurrOffset) := by
  unfold destination at hslot
  split at hslot
  case isTrue henable =>
    obtain ⟨next, hremap, rfl⟩ := Option.map_eq_some_iff.mp hslot
    obtain ⟨himg, horient, horig, hstays, hturns⟩ := remap_remapped hremap
    exact ⟨henable, next, ⟨himg, horient, horig, hstays, hturns⟩, rfl⟩
  case isFalse => cases hslot

theorem queueBuffer_cases {rot : MdpRot} {padding : AdrenoPadding} {fd offset : BitVec 32} {answers : Answers}
    {result : MdpRot × Bool} (henable : rot.mRotImgInfo.enable = true)
    (hqueue : rot.queueBuffer padding fd offset answers = some result) :
    ∃ next, Remapped rot padding answers.frees next ∧ next.mMem.current.m.isSome ∧
      rot.destination padding fd offset answers = some (next.mMem.curr, next.mMem.current.mCurrOffset) ∧
      result.1.mRotImgInfo = rot.mRotImgInfo ∧ result.1.mOrientation = rot.mOrientation ∧
      result.1.mOrigWhf = rot.turnedWhf ∧
      result.1.mMem = next.mMem.setCurrent
        { next.mMem.current with mCurrOffset := next.mMem.current.mCurrOffset + 1 } := by
  rw [queueBuffer, if_pos henable] at hqueue
  cases hremap : rot.remapFor padding fd offset answers with
  | none => simp [hremap] at hqueue
  | some next =>
    obtain ⟨himg, horient, horig, hstays, hturns⟩ := remap_remapped hremap
    have hvalid : next.mMem.current.m.isSome := by
      by_contra hnone
      simp [hremap, rotateNext, Option.not_isSome_iff_eq_none.mp hnone] at hqueue
    have hresult : next.rotateNext answers.rotates = some result := by simpa [hremap] using hqueue
    rw [rotateNext, if_neg (by simp [Option.isSome_iff_ne_none.mp hvalid])] at hresult
    obtain rfl := Option.some.inj hresult
    exact ⟨next, ⟨himg, horient, horig, hstays, hturns⟩, hvalid, by simp [destination, henable, hremap], himg,
      horient, horig, rfl⟩

end MdpRot

end Nozomi
