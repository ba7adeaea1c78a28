import Viewsmith.Geometry.Series
import Viewsmith.Number.Text

/-!
# Colors

Colors have channels between zero and one; style text has whole channels up to 255 and an opacity of
two places.
-/

namespace Viewsmith

/-- A color without an opacity, as paints store it. -/
structure Rgb where
  red : Float
  green : Float
  blue : Float
  deriving Repr, Inhabited

/-- A color with an opacity. -/
structure Rgba where
  red : Float
  green : Float
  blue : Float
  alpha : Float := 1
  deriving Repr, Inhabited

/-- Attach an opacity. -/
def Rgb.withAlpha (color : Rgb) (alpha : Float) : Rgba :=
  ⟨color.red, color.green, color.blue, alpha⟩

/-- A channel scaled to `0 … 255`; what is no number counts as zero. -/
def Rgba.channel (value : Float) : Nat :=
  let scaled := Geometry.round (value * 255)
  if scaled ≥ 255 then 255 else if scaled ≥ 0 then scaled.toUInt8.toNat else 0

/-- The opacity of style text. -/
def Rgba.opacity (color : Rgba) : Float := Geometry.roundTo 2 color.alpha

/-- The text of a color in a style: `rgba(r, g, b, a)`. -/
def Rgba.css (color : Rgba) : String :=
  "rgba(" ++ toString (Rgba.channel color.red) ++ ", " ++ toString (Rgba.channel color.green)
    ++ ", " ++ toString (Rgba.channel color.blue) ++ ", " ++ Number.css color.opacity ++ ")"

end Viewsmith
