import Viewsmith.Scene.Node
import Viewsmith.Style.Basic

/-!
# Painting

Paints, borders and shadows as properties of a style. A design stacks its layers with the last one
on top; a style lists the top one first, so every stack is turned over.

## Main definitions

* `Paint.layer`: the text of a layer that is no image.
* `Node.borderEntries`, `Node.boxShadow?`, `Node.textShadowEntries`.
* `solidColor?`: the color of the topmost visible solid layer.
-/

namespace Viewsmith

/-- The text of a color at a place of a gradient. -/
def ColorStop.css (stop : ColorStop) : String :=
  let channel (x : Float) : String := Number.css (Geometry.round (x * 255))
  "rgba(" ++ channel stop.color.red ++ ", " ++ channel stop.color.green ++ ", "
    ++ channel stop.color.blue ++ ", " ++ Number.css stop.color.alpha ++ ") "
    ++ Number.css (Geometry.round (stop.position * 100)) ++ "%"

/-- The text of a gradient. -/
def Gradient.css (shape : Gradient) (stops : List ColorStop) : String :=
  let colors := String.intercalate ", " (stops.map ColorStop.css)
  match shape with
  | .linear => "linear-gradient(" ++ colors ++ ")"
  | .radial => "radial-gradient(" ++ colors ++ ")"
  | .angular => "conic-gradient(" ++ colors ++ ")"
  | .diamond => "radial-gradient(circle farthest-side at center center, " ++ colors ++ ")"

/-- The text of a layer that shows nothing. -/
def transparent : String := "transparent"

/-- The text of a layer that is no image. -/
def Paint.layer : Paint → String
  | .solid color opacity _ =>
    let text := (color.withAlpha opacity).css
    "linear-gradient(" ++ text ++ ", " ++ text ++ ")"
  | .gradient shape stops _ => shape.css stops
  | .image _ _ => transparent
  | .unsupported => transparent

/-- The visible layers of a stack, the top one first. -/
def visibleFromTop (layers : List Paint) : List Paint := (layers.filter Paint.isVisible).reverse

/-- The color of the topmost visible solid layer. -/
def solidColor? (layers : List Paint) : Option String :=
  (visibleFromTop layers).findSome? Paint.solidColor?

namespace Node

/-- Whether a stroke is shown. -/
def isStroked (node : Node) : Bool := node.strokes.any Paint.isVisible

/-- The widths of the borders. -/
def borderWidthEntries (node : Node) : List (String × Value) :=
  let entries (top right bottom left : Float) : List (String × Value) :=
    [("borderTopWidth", .number top), ("borderRightWidth", .number right),
     ("borderBottomWidth", .number bottom), ("borderLeftWidth", .number left)]
  match node.strokeWeight with
  | .uniform w => entries w w w w
  | .perEdge top right bottom left => entries top right bottom left

/-- The radii of the corners. -/
def borderRadiusEntries (node : Node) : List (String × Value) :=
  let entries (topLeft topRight bottomRight bottomLeft : Float) : List (String × Value) :=
    [("borderTopLeftRadius", .number topLeft), ("borderTopRightRadius", .number topRight),
     ("borderBottomRightRadius", .number bottomRight),
     ("borderBottomLeftRadius", .number bottomLeft)]
  match node.cornerRadius with
  | .uniform r => entries r r r r
  | .perCorner topLeft topRight bottomRight bottomLeft =>
    entries topLeft topRight bottomRight bottomLeft

/-- The colors of the borders. -/
def borderColorEntries (color : String) : List (String × Value) :=
  [("borderTopColor", .text color), ("borderRightColor", .text color),
   ("borderBottomColor", .text color), ("borderLeftColor", .text color)]

/-- The properties of the borders: widths and style when a stroke is shown, the radii always, the
color of the topmost solid stroke. -/
def borderEntries (node : Node) : List (String × Value) :=
  (if node.isStroked then node.borderWidthEntries else [])
    ++ node.borderRadiusEntries
    ++ (if node.isStroked then [("borderStyle", .text "solid")] else [])
    ++ ((solidColor? node.strokes).map borderColorEntries).getD []

end Node

/-- The shadow of a visible effect, and whether it falls inside. -/
def Effect.visibleShadow? : Effect → Option (Shadow × Bool)
  | .dropShadow shadow => if shadow.visible then some (shadow, false) else none
  | .innerShadow shadow => if shadow.visible then some (shadow, true) else none
  | .other => none

/-- The text of a shadow. -/
def Shadow.css (shadow : Shadow) (inset : Bool) : String :=
  Number.css shadow.offset.x ++ "px " ++ Number.css shadow.offset.y ++ "px "
    ++ Number.css shadow.radius ++ "px " ++ Number.css shadow.spread ++ "px "
    ++ shadow.color.css ++ if inset then " inset" else ""

namespace Node

/-- The visible shadows of a node, the lowest first. -/
def shadows (node : Node) : List (Shadow × Bool) := node.effects.filterMap Effect.visibleShadow?

/-- The shadows of a box. -/
def boxShadow? (node : Node) : Option String :=
  if node.shadows.isEmpty then none
  else some (String.intercalate ", " (node.shadows.reverse.map fun s => s.1.css s.2))

/-- The property of the shadows of a box. -/
def boxShadowEntries (node : Node) : List (String × Value) :=
  (node.boxShadow?.map fun s => ("boxShadow", Value.text s)).toList

/-- The shadow of a text: the last visible one that falls outside. -/
def textShadow? (node : Node) : Option Shadow :=
  ((node.shadows.filter fun s => !s.2).map Prod.fst).getLast?

/-- The properties of the shadow of a text. -/
def textShadowEntries (node : Node) : List (String × Value) :=
  match node.textShadow? with
  | none => []
  | some shadow =>
    [("textShadowColor", .text shadow.color.css)]
      ++ (if shadow.offset.x != 0 || shadow.offset.y != 0 then
          [("textShadowOffset",
            .record [("width", .number shadow.offset.x), ("height", .number shadow.offset.y)])]
        else [])
      ++ [("textShadowRadius", .number shadow.radius)]

end Node

end Viewsmith
