import Viewsmith.Geometry.Rotation
import Viewsmith.Lowering.Script
import Viewsmith.Scene.Layer
import Viewsmith.Style.Basic

/-!
# Placement

Where a node stands in its parent, and how it lays out its children. The selected root stands at the
origin, whatever its parent says.

## Main definitions

* `Site.position`, `Site.alignSelf`, `Site.flex`: how a node takes part in the flow of its parent.
* `Edges`, `Site.edges`: the offsets and the size that the constraints of a node select.
* `Node.transform?`, `Node.containerEntries`, `Node.paddingEntries`: what a node says of itself.
-/

namespace Viewsmith

/-- How a node is positioned. -/
inductive Position where
  | relative
  | absolute
  deriving Repr, DecidableEq

/-- The word for a position in a style. -/
def Position.word : Position → String
  | .relative => "relative"
  | .absolute => "absolute"

/-- The offsets from the edges of the parent, and the size. -/
structure Edges where
  top : Option Float := none
  right : Option Float := none
  bottom : Option Float := none
  left : Option Float := none
  width : Option Float := none
  height : Option Float := none

namespace Site

/-! ### The flow of the parent -/

/-- Whether the parent lays its children out in a row or a column. -/
def inFlow (site : Site) : Bool :=
  site.parent?.any fun p => p.kind.isContainer && p.flow ≠ .none

/-- How the node is positioned: the root and the members of a flow relatively, all others
absolutely. -/
def position (site : Site) : Position :=
  if site.selected then .relative
  else if !site.inFlow then .absolute
  else
    match site.node.positioning with
    | .auto => .relative
    | .absolute => .absolute

/-- The root is positioned relatively. -/
theorem selected_eq_false_of_absolute (site : Site) (h : site.position = .absolute) :
    site.selected = false := by
  rw [← Bool.not_eq_true]
  intro hselected
  simp [position, hselected] at h

/-- Where the node stands across the flow. -/
def alignSelf (site : Site) : String :=
  if !site.inFlow then "auto"
  else
    match site.node.alignment with
    | .min => "flex-start"
    | .center => "center"
    | .max => "flex-end"
    | .stretch => "stretch"
    | .inherit => "auto"

/-- How much the node grows and shrinks in the flow, and the size that it starts from. -/
def flex (site : Site) : Float × Float × Value :=
  if site.inFlow && site.node.grow != 0 then (1, 1, .number 0) else (0, 0, .text "auto")

/-- The properties that relate a node to its parent. -/
def flowEntries (site : Site) : List (String × Value) :=
  [("position", .text site.position.word), ("alignSelf", .text site.alignSelf),
   ("flexGrow", .number site.flex.1), ("flexShrink", .number site.flex.2.1),
   ("flexBasis", site.flex.2.2)]

/-! ### Offsets and size -/

/-- The width, if it is fixed. -/
def fixedWidth (site : Site) : Option Float :=
  if site.node.sizingHorizontal = .fixed then some (Geometry.round site.node.width) else none

/-- The height, if it is fixed. -/
def fixedHeight (site : Site) : Option Float :=
  if site.node.sizingVertical = .fixed then some (Geometry.round site.node.height) else none

/-- The parent, if it is a group. -/
def group? (site : Site) : Option Node := site.parent?.filter (·.kind = .group)

/-- The constraints that apply. Groups and their members are anchored to the near edges. -/
def anchors (site : Site) : Constraints :=
  if site.node.kind.isGroupLike || site.group?.isSome then {} else site.node.anchors

/-- The near offset, the far offset and the size that a constraint selects. -/
def select (constraint : Constraint) (near far : Float) (size : Option Float) :
    Option Float × Option Float × Option Float :=
  match constraint with
  | .min => (some near, none, size)
  | .max => (none, some far, size)
  | .stretch => (some near, some far, none)
  -- not supported, and placed by the far edge
  | .center => (none, some far, size)
  | .scale => (none, some far, size)

/-- The corner of the node before it was rotated. -/
def corner (site : Site) : Geometry.Point Float :=
  Geometry.unrotateDegrees ⟨site.node.x, site.node.y⟩ site.node.width site.node.height
    site.node.rotation

/-- The width and the height of a node, or of nothing. -/
def extent : Option Node → Float × Float
  | some node => (node.width, node.height)
  | none => (0, 0)

/-- The edges of a node that is positioned absolutely. -/
def absoluteEdges (site : Site) : Edges :=
  let (parentWidth, parentHeight) := extent site.parent?
  let corner := site.corner
  let top := Geometry.round corner.y
  let left := Geometry.round corner.x
  let bottom := Geometry.round (parentHeight - (corner.y + site.node.height))
  let right := Geometry.round (parentWidth - (corner.x + site.node.width))
  let (top, bottom, height) := select site.anchors.vertical top bottom site.fixedHeight
  let (left, right, width) := select site.anchors.horizontal left right site.fixedWidth
  { top, right, bottom, left, width, height }

/-- Members of a group are stored relative to what the group stands in; their offsets are taken
relative to the group. -/
def insideGroup (site : Site) (edges : Edges) : Edges :=
  match site.group? with
  | none => edges
  | some group =>
    let (outerWidth, outerHeight) := extent site.outer
    { edges with
      top := edges.top.map (· - group.y)
      bottom := edges.bottom.map (· - (outerHeight - (group.y + group.height)))
      left := edges.left.map (· - group.x)
      right := edges.right.map (· - (outerWidth - (group.x + group.width))) }

/-- The offsets and the size of a node. A node that is positioned relatively stands at the
origin. -/
def edges (site : Site) : Edges :=
  match site.position with
  | .relative =>
    { top := some 0, left := some 0, width := site.fixedWidth, height := site.fixedHeight }
  | .absolute => site.insideGroup site.absoluteEdges

/-- The warning about the constraint of an axis, if it is not supported. -/
def anchorWarning (site : Site) (axis : Axis) (constraint : Constraint) : List Warning :=
  match constraint with
  | .center | .scale => [.anchor site.node.name axis constraint]
  | _ => []

/-- The warnings about the constraints of a node. -/
def edgeWarnings (site : Site) : List Warning :=
  match site.position with
  | .relative => []
  | .absolute =>
    site.anchorWarning .vertical site.anchors.vertical
      ++ site.anchorWarning .horizontal site.anchors.horizontal

end Site

namespace Edges

/-- The entries that are present. -/
def present (entries : List (String × Option Float)) : List (String × Value) :=
  entries.filterMap fun e => e.2.map fun x => (e.1, .number x)

/-- The properties of the edges, one axis after the other. -/
def entriesByAxis (e : Edges) : List (String × Value) :=
  present [("top", e.top), ("bottom", e.bottom), ("height", e.height), ("left", e.left),
    ("right", e.right), ("width", e.width)]

/-- The properties of the edges, clockwise, then the size. -/
def entriesClockwise (e : Edges) : List (String × Value) :=
  present [("top", e.top), ("right", e.right), ("bottom", e.bottom), ("left", e.left),
    ("width", e.width), ("height", e.height)]

end Edges

namespace Node

/-- The rotation of a node, with the clock. -/
def transform? (node : Node) : Option Value :=
  if node.rotation == 0 then none
  else some (.list [.record [("rotateZ", .text (Number.hundredths (-node.rotation) ++ "deg"))]])

/-- The property of the rotation. -/
def transformEntries (node : Node) : List (String × Value) :=
  (node.transform?.map fun v => ("transform", v)).toList

/-- The properties with which a node lays out its children. -/
def containerEntries (node : Node) : List (String × Value) :=
  [("display", .text "flex"),
   ("flexDirection", .text (if node.flow = .horizontal then "row" else "column")),
   ("flexWrap", .text (match node.wrap with | .wrap => "wrap" | .noWrap => "nowrap")),
   ("alignItems", .text (match node.crossAlignment with
     | .min => "flex-start"
     | .max => "flex-end"
     | .center => "center"
     | .baseline => "baseline")),
   ("justifyContent", .text (match node.mainAlignment with
     | .min => "flex-start"
     | .max => "flex-end"
     | .center => "center"
     | .spaceBetween => "space-between"))]
  ++ match node.flow with
    | .none => []
    | .horizontal => [("columnGap", .number node.spacing)]
    | .vertical => [("rowGap", .number node.spacing)]

/-- The properties of the space inside the edges. -/
def paddingEntries (node : Node) : List (String × Value) :=
  [("paddingTop", .number node.padding.top), ("paddingBottom", .number node.padding.bottom),
   ("paddingLeft", .number node.padding.left), ("paddingRight", .number node.padding.right)]

end Node

end Viewsmith
