import Nozomi.Display.Overlay.Orientation

/-!
# The source rectangle of a pipe

`MdpCtrl` of `overlayMdp.cpp`, in the build without post processing: the calls that describe a source, and
`set`, which turns, shrinks and evens the source rectangle before it asks the driver. The driver is a
parameter: what it makes of an overlay, or none when the `ioctl` fails.
-/

namespace Nozomi

/-! ### The overlay -/

def isYuv (format : BitVec 32) : Bool :=
  -- H2V1, H2V2, CRCB_H2V2, CRCB_H1V1, CRCB_H2V1, the tiles, the planar ones, and Venus
  format ∈ [9, 2, 6, 20, 8, 15, 16, 17, 18, 0x10002#32]

/-- `eBlending`, and the blend operation of the driver for it. -/
inductive BlendOp where
  | notDefined | opaqueOp | premultiplied | coverage
  deriving DecidableEq, Repr

/-- `mdp_overlay`, with the first word of `user_data`. -/
structure MdpOverlay where
  src : Whf
  srcRect : Dim
  dstRect : Dim
  zOrder : BitVec 32
  isFg : Bool
  alpha : BitVec 32
  transpMask : BitVec 32
  blendOp : BlendOp
  flags : BitVec 32
  id : BitVec 32
  userData : BitVec 32
  deriving DecidableEq, Repr

abbrev msmfbNewRequest : BitVec 32 := -1

abbrev mdpSourceRotated90 : BitVec 32 := 0x00100000

/-- `utils::PipeArgs`, without the flags of the rotator. -/
structure PipeArgs where
  mdpFlags : BitVec 32
  whf : Whf
  zorder : BitVec 32
  isFg : Bool
  planeAlpha : BitVec 32
  blending : BlendOp
  deriving DecidableEq, Repr

structure MdpCtrl where
  mOrientation : BitVec 32
  mLkgo : MdpOverlay
  mOVInfo : MdpOverlay
  mDownscale : Nat
  deriving DecidableEq, Repr

/-! ### Even numbers -/

def evenCeil (value : BitVec 32) : BitVec 32 := if value &&& 1 ≠ 0 then value + 1 else value

def evenFloor (value : BitVec 32) : BitVec 32 := if value &&& 1 ≠ 0 then value - 1 else value

def normalizeCrop (xy wh : BitVec 32) : BitVec 32 × BitVec 32 :=
  if xy &&& 1 ≠ 0 then
    (evenCeil xy, if wh &&& 1 ≠ 0 then evenFloor wh else wh - 2)
  else (xy, evenFloor wh)

namespace MdpCtrl

variable (ctrl : MdpCtrl)

def setSource (args : PipeArgs) : MdpCtrl :=
  { ctrl with mOVInfo :=
    { ctrl.mOVInfo with
      src := { args.whf with size := 0 }
      transpMask := 0xffffffff
      flags := args.mdpFlags
      zOrder := args.zorder - 1
      isFg := args.isFg
      alpha := args.planeAlpha
      blendOp := if args.blending = .notDefined then .coverage else args.blending } }

def setCrop (crop : Dim) : MdpCtrl := { ctrl with mOVInfo := { ctrl.mOVInfo with srcRect := crop } }

def setTransform (orient : BitVec 32) : MdpCtrl :=
  { ctrl with
    mOVInfo := { ctrl.mOVInfo with userData := getMdpOrient orient }
    mOrientation := getMdpOrient orient }

def setDownscale (dscale : Nat) : MdpCtrl := { ctrl with mDownscale := dscale }

def setRotationFlags : MdpCtrl :=
  if ctrl.mOVInfo.userData &&& transformRot90 ≠ 0 then
    { ctrl with mOVInfo := { ctrl.mOVInfo with flags := ctrl.mOVInfo.flags ||| mdpSourceRotated90 } }
  else ctrl

def doTransform : MdpCtrl :=
  let ctrl := ctrl.setRotationFlags
  let (whf, dim) := preRotateSource ctrl.mOrientation ctrl.mOVInfo.src ctrl.mOVInfo.srcRect
  { ctrl with mOVInfo := { ctrl.mOVInfo with src := whf, srcRect := dim } }

def doDownscale : MdpCtrl :=
  let rect := ctrl.mOVInfo.srcRect
  { ctrl with mOVInfo := { ctrl.mOVInfo with
    srcRect := ⟨rect.x >>> ctrl.mDownscale, rect.y >>> ctrl.mDownscale, rect.w >>> ctrl.mDownscale,
      rect.h >>> ctrl.mDownscale⟩ } }

def normalize : MdpCtrl :=
  if isYuv ctrl.mOVInfo.src.format then
    let (x, w) := normalizeCrop ctrl.mOVInfo.srcRect.x ctrl.mOVInfo.srcRect.w
    let (y, h) := normalizeCrop ctrl.mOVInfo.srcRect.y ctrl.mOVInfo.srcRect.h
    { ctrl with mOVInfo :=
      { ctrl.mOVInfo with
        srcRect := ⟨x, y, w, h⟩
        dstRect :=
          { ctrl.mOVInfo.dstRect with
            w := evenFloor ctrl.mOVInfo.dstRect.w
            h := evenFloor ctrl.mOVInfo.dstRect.h } } }
  else ctrl

def save : MdpCtrl :=
  if ctrl.mOVInfo.id = msmfbNewRequest then ctrl else { ctrl with mLkgo := ctrl.mOVInfo }

def restore : MdpCtrl :=
  if ctrl.mLkgo.id = msmfbNewRequest then ctrl else { ctrl with mOVInfo := ctrl.mLkgo }

def prepare : MdpCtrl := ctrl.doTransform.doDownscale.normalize

def set (setOverlay : MdpOverlay → Option MdpOverlay) : Bool × MdpCtrl :=
  let ctrl := ctrl.prepare
  -- `ovChanged`
  if ctrl.mOVInfo ≠ ctrl.mLkgo then
    match setOverlay ctrl.mOVInfo with
    | none => (false, ctrl.restore)
    | some overlay => (true, { ctrl with mOVInfo := overlay }.save)
  else (true, ctrl)

theorem set_srcRect {setOverlay : MdpOverlay → Option MdpOverlay}
    (hkeep : ∀ overlay overlay', setOverlay overlay = some overlay' → overlay'.srcRect = overlay.srcRect)
    (hset : (ctrl.set setOverlay).1 = true) :
    (ctrl.set setOverlay).2.mOVInfo.srcRect = ctrl.prepare.mOVInfo.srcRect := by
  by_cases hchanged : ctrl.prepare.mOVInfo ≠ ctrl.prepare.mLkgo
  · cases hdriver : setOverlay ctrl.prepare.mOVInfo with
    | none => simp [set, hchanged, hdriver] at hset
    | some overlay =>
      simp only [set, if_pos hchanged, hdriver, save]
      split <;> exact hkeep _ _ hdriver
  · simp [set, hchanged]

end MdpCtrl

/-! ### The evened rectangle -/

theorem and_one_ne_zero (value : BitVec 32) : value &&& 1 ≠ 0 ↔ value.toNat % 2 = 1 := by
  have hand : (value &&& 1).toNat = value.toNat % 2 := by
    rw [BitVec.toNat_and]
    exact Nat.and_one_is_mod value.toNat
  have hzero : value &&& 1 = 0 ↔ (value &&& 1).toNat = 0 := by
    rw [← BitVec.toNat_inj]
    rfl
  rw [Ne, hzero, hand]
  omega

theorem evenFloor_toNat (value : BitVec 32) : (evenFloor value).toNat = value.toNat - value.toNat % 2 := by
  have hlt := value.isLt
  simp only [evenFloor, and_one_ne_zero]
  split
  · rw [BitVec.toNat_sub]
    simp
    omega
  · omega

/-- A stretch, given by its start and its length, lies in another one, and its end does not wrap around. -/
def StretchInside (near size : BitVec 32) (inner : BitVec 32 × BitVec 32) : Prop :=
  near.toNat ≤ inner.1.toNat ∧ inner.1.toNat + inner.2.toNat ≤ near.toNat + size.toNat

section Axis

variable (near size : BitVec 32)

theorem normalizeCrop_even :
    (normalizeCrop near size).1.toNat % 2 = 0 ∧ (normalizeCrop near size).2.toNat % 2 = 0 := by
  have hfloor := evenFloor_toNat size
  simp only [normalizeCrop, evenCeil, and_one_ne_zero]
  split
  case isTrue hodd =>
    have hceil : (near + 1).toNat = (near.toNat + 1) % 2 ^ 32 := by simp [BitVec.toNat_add]
    have hless : (size - 2).toNat = (2 ^ 32 - 2 + size.toNat) % 2 ^ 32 := by simp [BitVec.toNat_sub]
    refine ⟨by dsimp only; omega, ?_⟩
    dsimp only
    split <;> omega
  case isFalse heven =>
    dsimp only
    omega

theorem normalizeCrop_inside_iff : StretchInside near size (normalizeCrop near size) ↔
    ¬(near.toNat % 2 = 1 ∧ (size.toNat = 0 ∨ near.toNat = 2 ^ 32 - 1)) := by
  have hfloor := evenFloor_toNat size
  have hnear := near.isLt
  have hsize := size.isLt
  simp only [StretchInside, normalizeCrop, evenCeil, and_one_ne_zero]
  split
  case isTrue hodd =>
    have hceil : (near + 1).toNat = (near.toNat + 1) % 2 ^ 32 := by simp [BitVec.toNat_add]
    have hless : (size - 2).toNat = (2 ^ 32 - 2 + size.toNat) % 2 ^ 32 := by simp [BitVec.toNat_sub]
    dsimp only
    split <;> omega
  case isFalse heven =>
    dsimp only
    omega

end Axis

namespace Dim

def EvenInside (crop rect : Dim) : Prop :=
  rect.x.toNat % 2 = 0 ∧ rect.y.toNat % 2 = 0 ∧ rect.w.toNat % 2 = 0 ∧ rect.h.toNat % 2 = 0 ∧
    StretchInside crop.x crop.w (rect.x, rect.w) ∧ StretchInside crop.y crop.h (rect.y, rect.h)

def shrink (dim : Dim) (exponent : Nat) : Dim :=
  ⟨dim.x >>> exponent, dim.y >>> exponent, dim.w >>> exponent, dim.h >>> exponent⟩

end Dim

/-- A stretch from one edge to another that shrinks to nothing at an odd number. The second case is that of
an edge that shrinks to the largest number, which takes an edge of minus one and no shrinking. -/
def ShrinksToOdd (exponent : Nat) (near far : Int) : Prop :=
  (BitVec.ofInt 32 near).toNat / 2 ^ exponent % 2 = 1 ∧
    ((BitVec.ofInt 32 (far - near)).toNat < 2 ^ exponent ∨
      (BitVec.ofInt 32 near).toNat / 2 ^ exponent = 2 ^ 32 - 1)

theorem normalizeCrop_shrink_iff (exponent : Nat) (near far : Int) :
    StretchInside (BitVec.ofInt 32 near >>> exponent) (BitVec.ofInt 32 (far - near) >>> exponent)
      (normalizeCrop (BitVec.ofInt 32 near >>> exponent) (BitVec.ofInt 32 (far - near) >>> exponent)) ↔
    ¬ShrinksToOdd exponent near far := by
  have hempty : (BitVec.ofInt 32 (far - near)).toNat / 2 ^ exponent = 0 ↔
      (BitVec.ofInt 32 (far - near)).toNat < 2 ^ exponent := by
    rw [Nat.div_eq_zero_iff]
    have := Nat.two_pow_pos exponent
    omega
  rw [normalizeCrop_inside_iff, ShrinksToOdd, BitVec.toNat_ushiftRight, BitVec.toNat_ushiftRight,
    Nat.shiftRight_eq_div_pow, Nat.shiftRight_eq_div_pow, hempty]

namespace MdpCtrl

variable (ctrl : MdpCtrl) (args : PipeArgs) (crop : Rect) (orient : BitVec 32) (downscale : Nat)

def describe : MdpCtrl := (((ctrl.setSource args).setCrop (.ofRect crop)).setTransform orient).setDownscale downscale

def turnedCrop : Rect :=
  crop.flipThenTurn (.ofBits (getMdpOrient orient)) args.whf.w.toNat args.whf.h.toNat

@[simp] theorem setRotationFlags_src : ctrl.setRotationFlags.mOVInfo.src = ctrl.mOVInfo.src := by
  unfold setRotationFlags
  split <;> rfl

@[simp] theorem setRotationFlags_srcRect : ctrl.setRotationFlags.mOVInfo.srcRect = ctrl.mOVInfo.srcRect := by
  unfold setRotationFlags
  split <;> rfl

@[simp] theorem setRotationFlags_mOrientation : ctrl.setRotationFlags.mOrientation = ctrl.mOrientation := by
  unfold setRotationFlags
  split <;> rfl

@[simp] theorem setRotationFlags_mDownscale : ctrl.setRotationFlags.mDownscale = ctrl.mDownscale := by
  unfold setRotationFlags
  split <;> rfl

theorem describe_doTransform :
    (ctrl.describe args crop orient downscale).doTransform.mOVInfo.srcRect =
      Dim.ofRect (turnedCrop args crop orient) ∧
    (ctrl.describe args crop orient downscale).doTransform.mOVInfo.src.format = args.whf.format := by
  have hturned := Dim.preRotateSource_ofRect (.ofBits (getMdpOrient orient)) args.whf.w.toNat args.whf.h.toNat
    args.whf.format 0#32 crop
  rw [HalTransform.preRotateSource_ofBits, BitVec.ofInt_natCast, BitVec.ofInt_natCast, BitVec.ofNat_toNat,
    BitVec.ofNat_toNat, BitVec.setWidth_eq, BitVec.setWidth_eq] at hturned
  simp only [doTransform, setRotationFlags_src, setRotationFlags_srcRect, setRotationFlags_mOrientation,
    describe, setDownscale, setTransform, setCrop, setSource]
  constructor
  · exact congrArg Prod.snd hturned
  · exact congrArg (·.1.format) hturned

theorem describe_doDownscale_srcRect :
    (ctrl.describe args crop orient downscale).doTransform.doDownscale.mOVInfo.srcRect =
      (Dim.ofRect (turnedCrop args crop orient)).shrink downscale := by
  obtain ⟨hrect, -⟩ := ctrl.describe_doTransform args crop orient downscale
  have hdownscale : (ctrl.describe args crop orient downscale).doTransform.mDownscale = downscale := by
    simp [doTransform, describe, setDownscale]
  rw [doDownscale, hrect, hdownscale, Dim.shrink]

/-- The source rectangle of a video that `set` prepares is even and lies in the shrunk crop unless one side
of the turned crop shrinks to nothing at an odd number. It is the one that `set` leaves where it succeeds. -/
theorem prepare_evenInside_iff (hyuv : isYuv args.whf.format = true) :
    (Dim.EvenInside ((Dim.ofRect (turnedCrop args crop orient)).shrink downscale)
      (ctrl.describe args crop orient downscale).prepare.mOVInfo.srcRect ↔
    ¬ShrinksToOdd downscale (turnedCrop args crop orient).left (turnedCrop args crop orient).right ∧
      ¬ShrinksToOdd downscale (turnedCrop args crop orient).top (turnedCrop args crop orient).bottom) ∧
    ∀ setOverlay : MdpOverlay → Option MdpOverlay,
      (∀ overlay overlay', setOverlay overlay = some overlay' → overlay'.srcRect = overlay.srcRect) →
      ((ctrl.describe args crop orient downscale).set setOverlay).1 = true →
      ((ctrl.describe args crop orient downscale).set setOverlay).2.mOVInfo.srcRect =
        (ctrl.describe args crop orient downscale).prepare.mOVInfo.srcRect := by
  refine ⟨?_, fun setOverlay hkeep hset => set_srcRect _ hkeep hset⟩
  have hrect := ctrl.describe_doDownscale_srcRect args crop orient downscale
  obtain ⟨-, hformat⟩ := ctrl.describe_doTransform args crop orient downscale
  generalize turnedCrop args crop orient = turned at *
  have hprepare : (ctrl.describe args crop orient downscale).prepare.mOVInfo.srcRect =
      let horizontal := normalizeCrop (BitVec.ofInt 32 turned.left >>> downscale)
        (BitVec.ofInt 32 (turned.right - turned.left) >>> downscale)
      let vertical := normalizeCrop (BitVec.ofInt 32 turned.top >>> downscale)
        (BitVec.ofInt 32 (turned.bottom - turned.top) >>> downscale)
      ⟨horizontal.1, vertical.1, horizontal.2, vertical.2⟩ := by
    have hyuv' : isYuv (ctrl.describe args crop orient downscale).doTransform.doDownscale.mOVInfo.src.format =
        true := by
      rw [← hyuv, ← hformat]
      rfl
    rw [prepare, normalize, if_pos hyuv', hrect]
    rfl
  rw [hprepare, ← normalizeCrop_shrink_iff, ← normalizeCrop_shrink_iff]
  have hx := normalizeCrop_even (BitVec.ofInt 32 turned.left >>> downscale)
    (BitVec.ofInt 32 (turned.right - turned.left) >>> downscale)
  have hy := normalizeCrop_even (BitVec.ofInt 32 turned.top >>> downscale)
    (BitVec.ofInt 32 (turned.bottom - turned.top) >>> downscale)
  constructor
  · rintro ⟨-, -, -, -, hinside⟩
    exact hinside
  · intro hinside
    exact ⟨hx.1, hy.1, hx.2, hy.2, hinside⟩

def reset : MdpCtrl :=
  let overlay : MdpOverlay :=
    ⟨⟨0, 0, 0, 0⟩, ⟨0, 0, 0, 0⟩, ⟨0, 0, 0, 0⟩, 0, false, 0, 0, .notDefined, 0, msmfbNewRequest, 0⟩
  ⟨0, overlay, overlay, 0⟩

def smallVideo : PipeArgs := ⟨0, ⟨16, 8, 6, 0⟩, 0, false, 255, .coverage⟩

theorem prepare_evenInside_iff_smallVideo :
    Dim.EvenInside ((Dim.ofRect (turnedCrop smallVideo ⟨0, 0, 16, 8⟩ 0)).shrink 1)
      (reset.describe smallVideo ⟨0, 0, 16, 8⟩ 0 1).prepare.mOVInfo.srcRect :=
  (reset.prepare_evenInside_iff smallVideo ⟨0, 0, 16, 8⟩ 0 1 (by decide)).1.mpr
    ⟨by simp [ShrinksToOdd, turnedCrop, Rect.flipThenTurn, HalTransform.ofBits, getMdpOrient],
      by simp [ShrinksToOdd, turnedCrop, Rect.flipThenTurn, HalTransform.ofBits, getMdpOrient]⟩

/-- The crop from the eighth column to the fifteenth, shrunk by eight, is empty and starts at column one: its
width becomes minus two. -/
theorem smallVideo_wraps :
    5 ≤ (15 : Int) - 8 ∧ 5 ≤ (8 : Int) - 0 ∧ isYuv smallVideo.whf.format = true ∧
    (reset.describe smallVideo ⟨8, 0, 15, 8⟩ 0 3).prepare.mOVInfo.srcRect = ⟨2, 0, 0xFFFFFFFE, 0⟩ ∧
    ¬Dim.EvenInside ((Dim.ofRect (turnedCrop smallVideo ⟨8, 0, 15, 8⟩ 0)).shrink 3)
      (reset.describe smallVideo ⟨8, 0, 15, 8⟩ 0 3).prepare.mOVInfo.srcRect := by
  refine ⟨by decide, by decide, by decide, by decide, ?_⟩
  rintro ⟨-, -, -, -, ⟨-, hend⟩, -⟩
  revert hend
  decide

end MdpCtrl

end Nozomi
