import Nozomi.Base.Turns
import Nozomi.Display.MDPComp.Code

/-!
# The crop of a source that is rotated beforehand

`getMdpOrient` and `preRotateSource` of the overlay utilities, and `updateSource`, which puts them together.
The edges of a rectangle are of the type `int`, and the fields of `Whf` and `Dim` are unsigned words.
-/

namespace Nozomi

structure Whf where
  w : BitVec 32
  h : BitVec 32
  format : BitVec 32
  size : BitVec 32
  deriving DecidableEq, Repr

structure Dim where
  x : BitVec 32
  y : BitVec 32
  w : BitVec 32
  h : BitVec 32
  deriving DecidableEq, Repr

def Dim.ofRect (rect : Rect) : Dim :=
  ⟨.ofInt 32 rect.left, .ofInt 32 rect.top, .ofInt 32 (rect.right - rect.left),
    .ofInt 32 (rect.bottom - rect.top)⟩

/-! ### The code -/

abbrev transformFlipH : BitVec 32 := 0x1
abbrev transformFlipV : BitVec 32 := 0x2
abbrev transformRot90 : BitVec 32 := 0x4

def getMdpOrient (rotation : BitVec 32) : BitVec 32 :=
  if rotation = 0 then 0
  else if rotation = transformFlipV then transformFlipV
  else if rotation = transformFlipH then transformFlipH
  else if rotation = transformRot90 then transformRot90
  -- the flips are switched
  else if rotation = transformRot90 ||| transformFlipV then transformRot90 ||| transformFlipH
  else if rotation = transformRot90 ||| transformFlipH then transformRot90 ||| transformFlipV
  else if rotation = transformFlipV ||| transformFlipH then transformFlipV ||| transformFlipH
  else if rotation = transformRot90 ||| transformFlipV ||| transformFlipH then
    transformRot90 ||| transformFlipV ||| transformFlipH
  else -1

def compute (x y z : BitVec 32) : BitVec 32 := x - (y + z)

def preRotateSource (tr : BitVec 32) (whf : Whf) (srcCrop : Dim) : Whf × Dim :=
  let srcCrop := if tr &&& transformFlipH ≠ 0 then
    { srcCrop with x := compute whf.w srcCrop.x srcCrop.w } else srcCrop
  let srcCrop := if tr &&& transformFlipV ≠ 0 then
    { srcCrop with y := compute whf.h srcCrop.y srcCrop.h } else srcCrop
  if tr &&& transformRot90 ≠ 0 then
    ({ whf with w := whf.h, h := whf.w },
      ⟨compute whf.h srcCrop.y srcCrop.h, srcCrop.x, srcCrop.h, srcCrop.w⟩)
  else (whf, srcCrop)

def updateSource (orient : BitVec 32) (whf : Whf) (crop : Rect) : BitVec 32 × Whf × Rect :=
  let orient := getMdpOrient orient
  let (whf, srcCrop) := preRotateSource orient whf (.ofRect crop)
  (orient, whf, ⟨srcCrop.x.toInt, srcCrop.y.toInt, (srcCrop.x + srcCrop.w).toInt,
    (srcCrop.y + srcCrop.h).toInt⟩)

/-! ### Transforms -/

structure HalTransform where
  flipH : Bool
  flipV : Bool
  rot90 : Bool
  deriving DecidableEq, Repr

namespace HalTransform

variable (transform : HalTransform)

def bits : BitVec 32 :=
  (if transform.flipH then transformFlipH else 0) ||| (if transform.flipV then transformFlipV else 0) |||
    (if transform.rot90 then transformRot90 else 0)

def ofBits (word : BitVec 32) : HalTransform :=
  ⟨word &&& transformFlipH ≠ 0, word &&& transformFlipV ≠ 0, word &&& transformRot90 ≠ 0⟩

@[simp] theorem bits_flipH : transform.bits &&& transformFlipH ≠ 0 ↔ transform.flipH = true := by
  obtain ⟨flipH, flipV, rot90⟩ := transform
  cases flipH <;> cases flipV <;> cases rot90 <;> decide

@[simp] theorem bits_flipV : transform.bits &&& transformFlipV ≠ 0 ↔ transform.flipV = true := by
  obtain ⟨flipH, flipV, rot90⟩ := transform
  cases flipH <;> cases flipV <;> cases rot90 <;> decide

@[simp] theorem bits_rot90 : transform.bits &&& transformRot90 ≠ 0 ↔ transform.rot90 = true := by
  obtain ⟨flipH, flipV, rot90⟩ := transform
  cases flipH <;> cases flipV <;> cases rot90 <;> decide

theorem preRotateSource_ofBits (word : BitVec 32) (whf : Whf) (srcCrop : Dim) :
    preRotateSource (ofBits word).bits whf srcCrop = preRotateSource word whf srcCrop := by
  simp only [preRotateSource, bits_flipH, bits_flipV, bits_rot90]
  simp only [ofBits, decide_eq_true_eq]

def switched : HalTransform :=
  if transform.rot90 then ⟨transform.flipV, transform.flipH, true⟩ else transform

theorem getMdpOrient_bits : getMdpOrient transform.bits = transform.switched.bits := by
  obtain ⟨flipH, flipV, rot90⟩ := transform
  cases flipH <;> cases flipV <;> cases rot90 <;> rfl

def flipThenTurn (width height : Int) (point : Int × Int) : Int × Int :=
  let point := if transform.flipH then flipPointH width point else point
  let point := if transform.flipV then flipPointV height point else point
  if transform.rot90 then turnPoint height point else point

def turnThenFlip (width height : Int) (point : Int × Int) : Int × Int :=
  let point := if transform.rot90 then turnPoint height point else point
  let point := if transform.flipH then flipPointH (if transform.rot90 then height else width) point else point
  if transform.flipV then flipPointV (if transform.rot90 then width else height) point else point

theorem flipThenTurn_switched (width height : Int) :
    transform.switched.flipThenTurn width height = transform.turnThenFlip width height := by
  obtain ⟨flipH, flipV, rot90⟩ := transform
  funext point
  cases flipH <;> cases flipV <;> cases rot90 <;> rfl

theorem turnThenFlip_eq (hsame : transform.rot90 = true → transform.flipH = transform.flipV)
    (width height : Int) : transform.turnThenFlip width height = transform.flipThenTurn width height := by
  have hswitched : transform.switched = transform := by
    obtain ⟨flipH, flipV, rot90⟩ := transform
    cases flipH <;> cases flipV <;> cases rot90 <;> simp_all [switched]
  rw [← flipThenTurn_switched, hswitched]

end HalTransform

/-! ### Rectangles -/

namespace Rect

variable (rect : Rect)

def points : Set (Int × Int) := rectanglePoints rect.left rect.top rect.right rect.bottom

def flipThenTurn (transform : HalTransform) (width height : Int) : Rect :=
  let rect := if transform.flipH then ⟨width - rect.right, rect.top, width - rect.left, rect.bottom⟩ else rect
  let rect : Rect := if transform.flipV then ⟨rect.left, height - rect.bottom, rect.right, height - rect.top⟩
    else rect
  if transform.rot90 then ⟨height - rect.bottom, rect.left, height - rect.top, rect.right⟩ else rect

theorem flipThenTurn_points (transform : HalTransform) (width height : Int) :
    (rect.flipThenTurn transform width height).points = transform.flipThenTurn width height '' rect.points := by
  obtain ⟨left, top, right, bottom⟩ := rect
  obtain ⟨flipH, flipV, rot90⟩ := transform
  have himage : HalTransform.flipThenTurn ⟨flipH, flipV, rot90⟩ width height =
      (if rot90 then turnPoint height else id) ∘ (if flipV then flipPointV height else id) ∘
        (if flipH then flipPointH width else id) := by
    funext point
    cases flipH <;> cases flipV <;> cases rot90 <;> rfl
  rw [himage, Set.image_comp, Set.image_comp]
  cases flipH <;> cases flipV <;> cases rot90 <;>
    simp [flipThenTurn, points, flipPointH_image, flipPointV_image, turnPoint_image]

end Rect

namespace Dim

theorem ofInt_sub (first second : Int) :
    BitVec.ofInt 32 (first - second) = BitVec.ofInt 32 first - BitVec.ofInt 32 second := by
  rw [Int.sub_eq_add_neg, BitVec.ofInt_add, BitVec.ofInt_neg, BitVec.sub_eq_add_neg]

theorem compute_ofInt (total near far : Int) :
    compute (.ofInt 32 total) (.ofInt 32 near) (.ofInt 32 (far - near)) = .ofInt 32 (total - far) := by
  rw [compute, ← BitVec.ofInt_add, ← ofInt_sub]
  congr 1
  omega

theorem preRotateSource_ofRect (transform : HalTransform) (width height : Int) (format size : BitVec 32)
    (rect : Rect) :
    preRotateSource transform.bits ⟨.ofInt 32 width, .ofInt 32 height, format, size⟩ (ofRect rect) =
      (⟨.ofInt 32 (if transform.rot90 then height else width),
        .ofInt 32 (if transform.rot90 then width else height), format, size⟩,
      ofRect (rect.flipThenTurn transform width height)) := by
  obtain ⟨left, top, right, bottom⟩ := rect
  have hwidth : width - left - (width - right) = right - left := by omega
  have hheight : height - top - (height - bottom) = bottom - top := by omega
  -- a vertical flip and the turn measure the height from the lower edge twice
  have htwice : bottom - top = (height - top) - (height - bottom) := by omega
  have hback : height - (height - bottom) = bottom := by omega
  have hback' : height - (height - top) = top := by omega
  obtain ⟨flipH, flipV, rot90⟩ := transform
  cases flipH <;> cases flipV <;> cases rot90 <;>
    simp [preRotateSource, HalTransform.bits, ofRect, Rect.flipThenTurn, compute_ofInt, hwidth, hheight,
      hback, hback']
  all_goals rw [htwice, compute_ofInt, hback']

end Dim

/-! ### The crop of the turned image -/

/-- A source: the size of its image, and a crop inside it. -/
structure SourceImage where
  width : Int
  height : Int
  format : BitVec 32
  size : BitVec 32
  crop : Rect
  width_lt : width < 2 ^ 31
  height_lt : height < 2 ^ 31
  left_nonneg : 0 ≤ crop.left
  left_le : crop.left ≤ crop.right
  right_le : crop.right ≤ width
  top_nonneg : 0 ≤ crop.top
  top_le : crop.top ≤ crop.bottom
  bottom_le : crop.bottom ≤ height

namespace SourceImage

variable (source : SourceImage) (transform : HalTransform)

def whf : Whf := ⟨.ofInt 32 source.width, .ofInt 32 source.height, source.format, source.size⟩

def turnedWidth : Int := if transform.rot90 then source.height else source.width

def turnedHeight : Int := if transform.rot90 then source.width else source.height

def InTurned (rect : Rect) : Prop :=
  0 ≤ rect.left ∧ rect.left ≤ rect.right ∧ rect.right ≤ source.turnedWidth transform ∧
    0 ≤ rect.top ∧ rect.top ≤ rect.bottom ∧ rect.bottom ≤ source.turnedHeight transform

theorem inTurned_flipThenTurn (order : HalTransform) (hrot90 : order.rot90 = transform.rot90) :
    source.InTurned transform (source.crop.flipThenTurn order source.width source.height) := by
  have hleft := source.left_nonneg
  have hleftRight := source.left_le
  have hright := source.right_le
  have htop := source.top_nonneg
  have htopBottom := source.top_le
  have hbottom := source.bottom_le
  obtain ⟨flipH, flipV, rot90⟩ := order
  cases hrot90
  unfold InTurned turnedWidth turnedHeight Rect.flipThenTurn
  cases flipH <;> cases flipV <;> cases transform.rot90 <;> simp <;> omega

theorem toInt_edge {edge total : Int} (hnonneg : 0 ≤ edge) (hle : edge ≤ total) (hlt : total < 2 ^ 31) :
    (BitVec.ofInt 32 edge).toInt = edge :=
  BitVec.toInt_ofInt_eq_self (by decide) (by omega) (by omega)

theorem updateSource_eq : updateSource transform.bits source.whf source.crop =
    (transform.switched.bits,
      ⟨.ofInt 32 (source.turnedWidth transform), .ofInt 32 (source.turnedHeight transform), source.format,
        source.size⟩,
      source.crop.flipThenTurn transform.switched source.width source.height) := by
  have hrot90 : transform.switched.rot90 = transform.rot90 := by
    cases hrot : transform.rot90 <;> simp [HalTransform.switched, hrot]
  obtain ⟨hleft, hleftRight, hright, htop, htopBottom, hbottom⟩ :=
    source.inTurned_flipThenTurn transform transform.switched hrot90
  have hwidth : source.turnedWidth transform < 2 ^ 31 := by
    unfold turnedWidth
    split
    exacts [source.height_lt, source.width_lt]
  have hheight : source.turnedHeight transform < 2 ^ 31 := by
    unfold turnedHeight
    split
    exacts [source.width_lt, source.height_lt]
  simp only [updateSource, HalTransform.getMdpOrient_bits, whf, Dim.preRotateSource_ofRect, hrot90]
  generalize source.crop.flipThenTurn transform.switched source.width source.height = rect at *
  have hfar (near far : Int) : near + (far - near) = far := by omega
  simp only [Dim.ofRect, ← BitVec.ofInt_add, hfar]
  rw [toInt_edge hleft (by omega) hwidth, toInt_edge htop (by omega) hheight,
    toInt_edge (by omega) hright hwidth, toInt_edge (by omega) hbottom hheight]
  rfl

/-- The crop lies in the turned image, and is the image of the one before under the transform that turns
first; for a transform with no quarter turn, or with both flips or none, also under the one that flips
first. -/
theorem updateSource_crop (source : SourceImage) (transform : HalTransform) :
    let result := updateSource transform.bits source.whf source.crop
    result.2.1 = ⟨.ofInt 32 (source.turnedWidth transform), .ofInt 32 (source.turnedHeight transform),
      source.format, source.size⟩ ∧
    source.InTurned transform result.2.2 ∧
    result.2.2.points = transform.turnThenFlip source.width source.height '' source.crop.points ∧
    ((transform.rot90 = true → transform.flipH = transform.flipV) →
      result.2.2.points = transform.flipThenTurn source.width source.height '' source.crop.points) := by
  have hrot90 : transform.switched.rot90 = transform.rot90 := by
    cases hrot : transform.rot90 <;> simp [HalTransform.switched, hrot]
  have hpoints : (source.crop.flipThenTurn transform.switched source.width source.height).points =
      transform.turnThenFlip source.width source.height '' source.crop.points := by
    rw [Rect.flipThenTurn_points, HalTransform.flipThenTurn_switched]
  intro result
  have hresult : result = _ := source.updateSource_eq transform
  rw [hresult]
  refine ⟨rfl, source.inTurned_flipThenTurn transform transform.switched hrot90, hpoints, ?_⟩
  intro hsame
  rw [hpoints, transform.turnThenFlip_eq hsame]

def corner : SourceImage where
  width := 10
  height := 20
  format := 0
  size := 0
  crop := ⟨0, 0, 1, 2⟩
  width_lt := by decide
  height_lt := by decide
  left_nonneg := by decide
  left_le := by decide
  right_le := by decide
  top_nonneg := by decide
  top_le := by decide
  bottom_le := by decide

/-- Flipped and then turned the corner is the one at the lower right, which `updateSource` leaves at the
upper left. -/
theorem corner_not_flipThenTurn :
    (updateSource (HalTransform.bits ⟨true, false, true⟩) corner.whf corner.crop).2.2.points ≠
      HalTransform.flipThenTurn ⟨true, false, true⟩ corner.width corner.height '' corner.crop.points := by
  have hcrop : (updateSource (HalTransform.bits ⟨true, false, true⟩) corner.whf corner.crop).2.2 =
      ⟨0, 0, 2, 1⟩ := by decide
  intro heq
  rw [hcrop, ← Rect.flipThenTurn_points] at heq
  have horigin : ((0, 0) : Int × Int) ∈ Rect.points ⟨0, 0, 2, 1⟩ := by
    simp [Rect.points, rectanglePoints]
  rw [heq] at horigin
  simp [Rect.points, rectanglePoints, Rect.flipThenTurn, corner] at horigin

end SourceImage

end Nozomi
