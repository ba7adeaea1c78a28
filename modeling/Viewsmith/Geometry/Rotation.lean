import Viewsmith.Geometry.Series

/-!
# Undoing a rotation

A rotated box is stored by the place its top left corner was turned to. `unrotate` finds the
center of the rotation from that corner and turns the corner back about it. The formula is stated
for every type with the four operations, given a sine and a cosine.

## Main definitions

* `Point`: a point of the plane.
* `rotationCenter`: the center about which the box was turned.
* `unrotate`: the corner turned back.
* `unrotateDegrees`: the same in doubles, for an angle in degrees.
-/

namespace Viewsmith.Geometry

/-- A point of the plane. -/
@[ext]
structure Point (α : Type) where
  x : α
  y : α
  deriving Repr, DecidableEq

section Rotation

variable {α : Type} [Add α] [Sub α] [Mul α] [Div α] [OfNat α 2]

/-- The center of a box with the given extents whose top left corner was turned to `corner` by the
angle of sine `s` and cosine `c`. -/
def rotationCenter (s c : α) (corner : Point α) (width height : α) : Point α where
  x := corner.x + width / 2 * c + height / 2 * s
  y := corner.y - width / 2 * s + height / 2 * c

/-- Turn `corner` back about the center of its box. -/
def unrotate (s c : α) (corner : Point α) (width height : α) : Point α :=
  let center := rotationCenter s c corner width height
  { x := (corner.x - center.x) * c - (corner.y - center.y) * s + center.x
    y := (corner.x - center.x) * s + (corner.y - center.y) * c + center.y }

end Rotation

/-- Turn a stored corner back by an angle in degrees. -/
def unrotateDegrees (corner : Point Float) (width height degrees : Float) : Point Float :=
  let angle := radians degrees
  unrotate (sine angle) (cosine angle) corner width height

end Viewsmith.Geometry
