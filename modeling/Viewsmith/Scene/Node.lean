import Viewsmith.Scene.Arrangement
import Viewsmith.Scene.Kind
import Viewsmith.Scene.Typography

/-!
# Nodes

What a scene knows about one of its nodes, apart from its place in the tree.
-/

namespace Viewsmith

/-- The component that an instance was made from. -/
structure MainComponent where
  name : String
  variantSet : Option String := none
  properties : Option (List (String × String)) := none
  deriving Inhabited

/-- The lengths at the four sides of a box. -/
structure Sides where
  top : Float := 0
  right : Float := 0
  bottom : Float := 0
  left : Float := 0

/-- A node of a scene. -/
structure Node where
  kind : Kind
  /-- The identifier that the design tool gave the node. -/
  key : String := ""
  name : String := ""
  visible : Bool := true
  x : Float := 0
  y : Float := 0
  width : Float := 0
  height : Float := 0
  /-- In degrees, against the clock. -/
  rotation : Float := 0
  constraints : Option Constraints := none
  sizingHorizontal : Sizing := .fixed
  sizingVertical : Sizing := .fixed
  alignment : Alignment := .inherit
  grow : Float := 0
  positioning : Positioning := .auto
  flow : Flow := .none
  wrap : Wrap := .noWrap
  mainAlignment : MainAlignment := .min
  crossAlignment : CrossAlignment := .min
  spacing : Float := 0
  padding : Sides := {}
  fills : Fills := .paints []
  strokes : List Paint := []
  strokeWeight : StrokeWeight := .uniform 1
  cornerRadius : CornerRadius := .uniform 0
  effects : List Effect := []
  text : Option TextContent := none
  properties : Option (List (String × String)) := none
  mainComponent : Option MainComponent := none

namespace Node

instance : Inhabited Node :=
  ⟨⟨.frame, "", "", true, 0, 0, 0, 0, 0, none, .fixed, .fixed, .inherit, 0,
    .auto, .none, .noWrap, .min, .min, 0, {}, .paints [], [], .uniform 1, .uniform 0, [], none,
    none, none⟩⟩

/-- The constraints of the node; without any it is anchored to the near edges. -/
def anchors (node : Node) : Constraints := node.constraints.getD {}

/-- Whether a layer of the fill is an image, shown or not. -/
def hasImageFill (node : Node) : Bool :=
  match node.fills with
  | .paints layers => layers.any Paint.isImage
  | .mixed => false

end Node

end Viewsmith
