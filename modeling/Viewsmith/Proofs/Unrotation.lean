import Mathlib.Tactic.LinearCombination
import Mathlib.Tactic.NormNum
import Mathlib.Tactic.Ring
import Viewsmith.Geometry.Rotation

/-!
# Unrotation inverts rotation

A box is stored by the place its top left corner is turned to when the box is turned about its
center. With exact numbers, in any field and for any sine and cosine, the corner is found again: the
center that is derived from the stored corner is the center of the box, and turning back about it
undoes the rotation.

Turning back is itself a rotation, by the opposite angle. So the only place where the relation
between sine and cosine is used is that two opposite rotations about one center cancel.

## Main definitions

* `rotate`: a point turned about a center.
* `boxCenter`: the center of a box.

## Main statements

* `rotate_neg_rotate`: opposite rotations about one center cancel.
* `rotationCenter_rotate`, `rotate_rotationCenter`: the derived center is that of the box.
* `unrotate_inverts_rotate`: unrotation inverts rotation.
-/

namespace Viewsmith.Geometry

section Field

variable {α : Type} [Field α]

/-- A point turned about a center by the angle of sine `s` and cosine `c`. Upwards `y` decreases,
and the rotation is counter-clockwise. -/
def rotate (s c : α) (center p : Point α) : Point α where
  x := (p.x - center.x) * c + (p.y - center.y) * s + center.x
  y := (p.y - center.y) * c - (p.x - center.x) * s + center.y

/-- The center of the box with the given top left corner and extents. -/
def boxCenter (corner : Point α) (width height : α) : Point α where
  x := corner.x + width / 2
  y := corner.y + height / 2

/-- The top left corner of the box with the given center and extents. -/
def boxCorner (center : Point α) (width height : α) : Point α where
  x := center.x - width / 2
  y := center.y - height / 2

variable (s c width height : α)

/-- The corner of a box is found again from its center. -/
theorem boxCorner_boxCenter (p : Point α) : boxCorner (boxCenter p width height) width height = p :=
  Point.ext (by simp [boxCorner, boxCenter]) (by simp [boxCorner, boxCenter])

/-- The center of a box is found again from its corner. -/
theorem boxCenter_boxCorner (p : Point α) : boxCenter (boxCorner p width height) width height = p :=
  Point.ext (by simp [boxCorner, boxCenter]) (by simp [boxCorner, boxCenter])

/-- To unrotate a corner is to turn it by the opposite angle about the center that is derived from
it. -/
theorem unrotate_eq_rotate (corner : Point α) :
    unrotate s c corner width height =
      rotate (-s) c (rotationCenter s c corner width height) corner := by
  apply Point.ext
  · simp only [unrotate, rotate]
    ring
  · simp only [unrotate, rotate]
    ring

/-- Opposite rotations about one center cancel. -/
theorem rotate_neg_rotate {s c : α} (h : s * s + c * c = 1) (center p : Point α) :
    rotate (-s) c center (rotate s c center p) = p := by
  apply Point.ext
  · simp only [rotate]
    linear_combination (p.x - center.x) * h
  · simp only [rotate]
    linear_combination (p.y - center.y) * h

/-- The center that is derived from a turned corner is the center of the box. -/
theorem rotationCenter_rotate (p : Point α) :
    rotationCenter s c (rotate s c (boxCenter p width height) p) width height =
      boxCenter p width height := by
  apply Point.ext
  · simp only [rotationCenter, rotate, boxCenter]
    ring
  · simp only [rotationCenter, rotate, boxCenter]
    ring

/-- A stored corner is the turned corner of the box about its derived center. -/
theorem rotate_rotationCenter (corner : Point α) :
    rotate s c (rotationCenter s c corner width height)
      (boxCorner (rotationCenter s c corner width height) width height) = corner := by
  apply Point.ext
  · simp only [rotationCenter, rotate, boxCorner]
    ring
  · simp only [rotationCenter, rotate, boxCorner]
    ring

end Field

/-- **Unrotation.** In any field, with any sine and cosine, and for every width and height, what a
stored corner is unrotated to is the derived center less the half extents. So the corner that the
top left corner of a box is turned to about the center of the box is unrotated to that top left
corner; and every stored corner is what the corner that it is unrotated to is turned to. -/
theorem unrotate_inverts_rotate {α : Type} [Field α] (s c : α) (h : s * s + c * c = 1)
    (width height : α) :
    (∀ corner, unrotate s c corner width height =
        { x := (rotationCenter s c corner width height).x - width / 2
          y := (rotationCenter s c corner width height).y - height / 2 }) ∧
      (∀ p, unrotate s c (rotate s c (boxCenter p width height) p) width height = p) ∧
      ∀ corner, rotate s c (boxCenter (unrotate s c corner width height) width height)
        (unrotate s c corner width height) = corner := by
  have hcorner : ∀ corner, unrotate s c corner width height =
      boxCorner (rotationCenter s c corner width height) width height := by
    intro corner
    have hback := rotate_neg_rotate h (rotationCenter s c corner width height)
      (boxCorner (rotationCenter s c corner width height) width height)
    rw [rotate_rotationCenter] at hback
    rw [unrotate_eq_rotate, hback]
  refine ⟨hcorner, fun p => ?_, fun corner => ?_⟩
  · rw [hcorner, rotationCenter_rotate, boxCorner_boxCenter]
  · rw [hcorner, boxCenter_boxCorner, rotate_rotationCenter]

/-- A box of 100 by 50, turned by a quarter, and by the angle of sine 3/5 and cosine 4/5. -/
theorem unrotate_inverts_rotate_quarter :
    rotate (1 : ℚ) 0 (boxCenter ⟨0, 0⟩ 100 50) ⟨0, 0⟩ = ⟨25, 75⟩ ∧
      unrotate (1 : ℚ) 0 ⟨25, 75⟩ 100 50 = ⟨0, 0⟩ ∧
      (3 / 5 : ℚ) * (3 / 5) + 4 / 5 * (4 / 5) = 1 ∧
      rotate (3 / 5 : ℚ) (4 / 5) (boxCenter ⟨10, 20⟩ 100 50) ⟨10, 20⟩ = ⟨5, 55⟩ ∧
      unrotate (3 / 5 : ℚ) (4 / 5) ⟨5, 55⟩ 100 50 = ⟨10, 20⟩ := by
  have hquarter : rotate (1 : ℚ) 0 (boxCenter ⟨0, 0⟩ 100 50) ⟨0, 0⟩ = ⟨25, 75⟩ := by
    norm_num [rotate, boxCenter]
  have hslant : rotate (3 / 5 : ℚ) (4 / 5) (boxCenter ⟨10, 20⟩ 100 50) ⟨10, 20⟩ = ⟨5, 55⟩ := by
    norm_num [rotate, boxCenter]
  have hone : (3 / 5 : ℚ) * (3 / 5) + 4 / 5 * (4 / 5) = 1 := by norm_num
  refine ⟨hquarter, ?_, hone, hslant, ?_⟩
  · rw [← hquarter]
    exact (unrotate_inverts_rotate (1 : ℚ) 0 (by norm_num) 100 50).2.1 ⟨0, 0⟩
  · rw [← hslant]
    exact (unrotate_inverts_rotate (3 / 5 : ℚ) (4 / 5) hone 100 50).2.1 ⟨10, 20⟩

end Viewsmith.Geometry
