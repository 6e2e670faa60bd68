import Mathlib.Data.Set.Image
import Mathlib.Tactic.Ring

/-!
# Flips and quarter turns

What a flip and a clockwise quarter turn do to the points of an image whose corners are `(0, 0)` and
`(width, height)`, with the second coordinate downwards, and to the rectangles in it.
-/

namespace Nozomi

def rectanglePoints (left top right bottom : Int) : Set (Int × Int) :=
  {point | left ≤ point.1 ∧ point.1 ≤ right ∧ top ≤ point.2 ∧ point.2 ≤ bottom}

def flipPointH (width : Int) (point : Int × Int) : Int × Int := (width - point.1, point.2)

def flipPointV (height : Int) (point : Int × Int) : Int × Int := (point.1, height - point.2)

def turnPoint (height : Int) (point : Int × Int) : Int × Int := (height - point.2, point.1)

variable (width height left top right bottom : Int)

theorem flipPointH_image : flipPointH width '' rectanglePoints left top right bottom =
    rectanglePoints (width - right) top (width - left) bottom := by
  ext ⟨x, y⟩
  simp only [Set.mem_image, rectanglePoints, Set.mem_ofPred_eq, flipPointH, Prod.exists, Prod.mk.injEq]
  constructor
  · rintro ⟨x', y', hinside, rfl, rfl⟩
    omega
  · intro hinside
    exact ⟨width - x, y, by omega, by omega, rfl⟩

theorem flipPointV_image : flipPointV height '' rectanglePoints left top right bottom =
    rectanglePoints left (height - bottom) right (height - top) := by
  ext ⟨x, y⟩
  simp only [Set.mem_image, rectanglePoints, Set.mem_ofPred_eq, flipPointV, Prod.exists, Prod.mk.injEq]
  constructor
  · rintro ⟨x', y', hinside, rfl, rfl⟩
    omega
  · intro hinside
    exact ⟨x, height - y, by omega, rfl, by omega⟩

theorem turnPoint_image : turnPoint height '' rectanglePoints left top right bottom =
    rectanglePoints (height - bottom) left (height - top) right := by
  ext ⟨x, y⟩
  simp only [Set.mem_image, rectanglePoints, Set.mem_ofPred_eq, turnPoint, Prod.exists, Prod.mk.injEq]
  constructor
  · rintro ⟨x', y', hinside, rfl, rfl⟩
    omega
  · intro hinside
    exact ⟨y, height - x, by omega, by omega, rfl⟩

end Nozomi
