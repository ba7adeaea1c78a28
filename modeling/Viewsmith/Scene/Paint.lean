import Viewsmith.Color
import Viewsmith.Geometry.Rotation

/-!
# Paints and effects

The layers of paint in a fill or a stroke, the last one on top, and the effects of a node.
-/

namespace Viewsmith

/-- The shape of a gradient. -/
inductive Gradient where
  | linear
  | radial
  | angular
  | diamond
  deriving Repr, DecidableEq, Inhabited

/-- A color at a place of a gradient. -/
structure ColorStop where
  position : Float
  color : Rgba
  deriving Inhabited

/-- A layer of paint. -/
inductive Paint where
  | solid (color : Rgb) (opacity : Float) (visible : Bool)
  | gradient (shape : Gradient) (stops : List ColorStop) (visible : Bool)
  | image (hash : Option String) (visible : Bool)
  /-- A paint of another kind; it counts as visible. -/
  | unsupported
  deriving Inhabited

namespace Paint

/-- Whether the layer is shown. -/
def isVisible : Paint → Bool
  | .solid _ _ visible => visible
  | .gradient _ _ visible => visible
  | .image _ visible => visible
  | .unsupported => true

/-- The layer, hidden. -/
def hide : Paint → Paint
  | .solid color opacity _ => .solid color opacity false
  | .gradient shape stops _ => .gradient shape stops false
  | .image hash _ => .image hash false
  | .unsupported => .unsupported

/-- Whether the layer is an image. -/
def isImage : Paint → Bool
  | .image _ _ => true
  | _ => false

/-- The text of the color of a solid layer. -/
def solidColor? : Paint → Option String
  | .solid color opacity _ => some (color.withAlpha opacity).css
  | _ => none

end Paint

/-- The layers that fill a node. -/
inductive Fills where
  | paints (layers : List Paint)
  /-- The runs of a text have fills of their own. -/
  | mixed
  deriving Inhabited

/-- A shadow. -/
structure Shadow where
  color : Rgba
  offset : Geometry.Point Float := ⟨0, 0⟩
  radius : Float := 0
  spread : Float := 0
  visible : Bool := true

/-- A visual effect. -/
inductive Effect where
  | dropShadow (shadow : Shadow)
  | innerShadow (shadow : Shadow)
  | other

/-- The width of a stroke, the same for all edges or one for each. -/
inductive StrokeWeight where
  | uniform (width : Float)
  | perEdge (top right bottom left : Float)

/-- The radius of corners, the same for all or one for each. -/
inductive CornerRadius where
  | uniform (radius : Float)
  | perCorner (topLeft topRight bottomRight bottomLeft : Float)

end Viewsmith
