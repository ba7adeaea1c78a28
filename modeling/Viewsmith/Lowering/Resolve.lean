import Viewsmith.Lowering.Placement
import Viewsmith.Lowering.Typesetting

/-!
# Resolved styles

The style of a node before it is simplified. Which properties it has, and in which order, depends on
the kind of the node.

## Main definitions

* `Node.background`: the layers of the fill.
* `Site.resolve`: the style of a node.
* `Node.backgroundImage`: the file of the topmost image of the fill.
-/

namespace Viewsmith

namespace Node

/-- The text of a layer with an image. -/
def urlLayer (media : Media) : String := "url('" ++ media.filename ++ "')"

/-- The text of an image layer. The bytes are fetched unless a file is kept for them; without one
the layer shows nothing. -/
def imageLayer (node : Node) (source : Source) : Option String → Script String
  | none => .done transparent
  | some hash => .recall hash fun
    | some media => .done (urlLayer media)
    | none =>
      match source.image hash with
      | .ok none => .done transparent
      | .error e => .warn (.fetch node.name hash e.message) (.done transparent)
      | .ok (some bytes) => .keep hash bytes fun
        | some media => .done (urlLayer media)
        | none => .warn (.unknownImage node.name hash) (.done transparent)

/-- The text of a layer. -/
def paintLayer (node : Node) (source : Source) : Paint → Script String
  | .image hash _ => node.imageLayer source hash
  | paint => .done paint.layer

/-- The layers of the fill, the top one first. -/
def background (node : Node) (source : Source) : Script String :=
  match node.fills with
  | .mixed => .fail (.mixedFills node.kind node.name)
  | .paints layers =>
    let visible := visibleFromTop layers
    if visible.isEmpty then .done transparent
    else (Script.inOrder (visible.map (node.paintLayer source))).bind fun texts =>
      .done (String.intercalate ", " texts)

/-- The first file that is kept for one of the layers. -/
def firstKept : List Paint → Script (Option String)
  | [] => .done none
  | .image (some hash) _ :: rest => .recall hash fun
    | some media => .done (some media.filename)
    | none => firstKept rest
  | _ :: rest => firstKept rest

/-- The file of the topmost visible image of the fill that is kept. -/
def backgroundImage (node : Node) : Script (Option String) :=
  match node.fills with
  | .mixed => .done none
  | .paints layers => firstKept (visibleFromTop layers)

end Node

namespace Site

/-- A size of zero gives way to a least size: artwork without extent would not be shown. -/
def leastSize : Float := 0.001

/-- Whether a size is zero. -/
def isZero (size : Option Float) : Bool := size.any (· == 0)

/-- The edges of artwork without a size of zero. -/
def artworkEntries (edges : Edges) : List (String × Value) :=
  { edges with
    width := if isZero edges.width then none else edges.width
    height := if isZero edges.height then none else edges.height : Edges }.entriesClockwise
    ++ (if isZero edges.width then [("minWidth", .number leastSize)] else [])
    ++ (if isZero edges.height then [("minHeight", .number leastSize)] else [])
    ++ [("overflow", .text "visible")]

/-- The style of a node that lays out its children. -/
def resolveContainer (site : Site) (source : Source) : Script Style := do
  Script.warnAll site.edgeWarnings
  let background ← site.node.background source
  return Style.ofList (site.flowEntries ++ site.edges.entriesByAxis ++ site.node.transformEntries
    ++ site.node.paddingEntries ++ site.node.borderEntries ++ [("background", .text background)]
    ++ site.node.boxShadowEntries ++ site.node.containerEntries)

/-- The style of a group. -/
def resolveGroup (site : Site) : Script Style := do
  Script.warnAll site.edgeWarnings
  return Style.ofList (site.flowEntries ++ site.edges.entriesByAxis ++ site.node.transformEntries)

/-- The style of a rectangle. -/
def resolveRectangle (site : Site) (source : Source) : Script Style := do
  Script.warnAll site.edgeWarnings
  let background ← site.node.background source
  return Style.ofList (site.flowEntries ++ site.edges.entriesClockwise ++ site.node.transformEntries
    ++ site.node.borderEntries ++ [("background", .text background)] ++ site.node.boxShadowEntries)

/-- The style of a text. -/
def resolveText (site : Site) : Script Style := do
  Script.warnAll site.edgeWarnings
  let typography ← site.node.baseStyle
  return Style.ofList (site.flowEntries ++ site.edges.entriesClockwise ++ site.node.transformEntries
    ++ typography.entries ++ site.node.textShadowEntries)

/-- The style of artwork. Its rotation is part of the export. -/
def resolveArtwork (site : Site) : Script Style := do
  Script.warnAll site.edgeWarnings
  return Style.ofList (site.flowEntries ++ artworkEntries site.edges)

/-- The style of a node, before it is simplified. -/
def resolve (site : Site) (source : Source) : Script Style :=
  match site.node.kind with
  | .frame | .component | .instanceOf => site.resolveContainer source
  | .group => site.resolveGroup
  | .rectangle => site.resolveRectangle source
  | .text => site.resolveText
  | .componentSet => .fail (.componentSet site.node.name)
  | .other tag => .fail (.invalidKind (.other tag))
  | _ => site.resolveArtwork

end Site

namespace Scene

/-- Work on a node of a scene, if there is one of this number. -/
def visit (s : Scene) {α : Type} (id : Nat) (work : Node → Script α) : Script α :=
  match s.get? id with
  | some node => work node
  | none => .fail (.unknownNode id)

/-- The style of a node, given the selected root. -/
def resolve (s : Scene) (root id : Nat) (source : Source) : Script Style :=
  match s.site? root id with
  | some site => site.resolve source
  | none => .fail (.unknownNode id)

/-- The markup of the text of a node. -/
def richText (s : Scene) (id : Nat) : Script String := s.visit id Node.richText

/-- The file of the topmost visible image of a node that is kept. -/
def backgroundImage (s : Scene) (id : Nat) : Script (Option String) :=
  s.visit id Node.backgroundImage

end Scene

end Viewsmith
