import Viewsmith.Element.Basic
import Viewsmith.Identifier
import Viewsmith.Lowering.Resolve
import Viewsmith.Style.Simplify

/-!
# Lowering

The reached part of a selected layer becomes a tree of elements, one for each place, with the same
children in the same order. Artwork is exported; when that fails, a blank element stands in its
place.

## Main definitions

* `ImageFills`: whether images of fills are attached to elements.
* `Site.element`: the element of one place, without children.
* `Outline.build`: the element of the reached part of a layer.
* `Scene.lower`: the element of a selected root.
-/

namespace Viewsmith

/-- How images of fills reach the elements. -/
inductive ImageFills where
  /-- As layers of the background only. -/
  | css
  /-- Also as the image of the element. -/
  | imageBackground
  deriving Repr, DecidableEq, Inhabited

/-- The words for them in options. -/
def ImageFills.tags : List (String × ImageFills) :=
  [("css", .css), ("imageBackground", .imageBackground)]

namespace Site

/-- The name of a component: that of its set, if it belongs to one. -/
def componentName (site : Site) : String :=
  match site.owner.filter (·.kind = .componentSet) with
  | some set => set.name
  | none => site.node.name

/-- The name of the component that an instance was made from, and its properties. -/
def mainComponent (site : Site) : String × List (String × String) :=
  match site.node.mainComponent with
  | none => ("", [])
  | some main =>
    (Identifier.ofName (main.variantSet.getD main.name),
      Identifier.ofPairs (main.properties.getD []))

/-- The image of an element. -/
def image (site : Site) (mode : ImageFills) : Script (Option String) :=
  match mode with
  | .css => .done none
  | .imageBackground => site.node.backgroundImage

/-- The element of artwork: the export without a rotation of its own, or a blank element. -/
def exported (site : Site) (source : Source) (style : Style) : Script Element :=
  let name := Identifier.ofName site.node.name
  match source.artwork site.id with
  | .ok svg => .done (.mk name (.vector svg) (style.erase "transform") [])
  | .error e => .warn (.exportFailed site.node.name e.message) (.done (.mk name .blank {} []))

/-- The element of a place, given its style. -/
def elementOf (site : Site) (source : Source) (mode : ImageFills) (artwork : Bool) (style : Style) :
    Script Element :=
  let node := site.node
  let name := Identifier.ofName node.name
  if artwork then site.exported source style
  else
    match node.kind with
    | .group => .done (.mk name .group style [])
    | .frame => do
      let image ← site.image mode
      return .mk name (.frame image) style []
    | .rectangle => do
      let image ← site.image mode
      return .mk name (.rectangle image) style []
    | .component => do
      let image ← site.image mode
      return .mk (Identifier.ofName site.componentName)
        (.component (Identifier.ofPairs (node.properties.getD [])) image) style []
    | .instanceOf => do
      let image ← site.image mode
      return .mk name (.instanceOf site.mainComponent.1 site.mainComponent.2 image) style []
    | .text => do
      let markup ← node.richText
      return .mk name (.text markup (node.text.bind (·.maxLines))) style []
    | .componentSet => .fail (.componentSet node.name)
    | kind => .fail (.invalidKind kind)

/-- The element of a place, without children. -/
def element (site : Site) (source : Source) (mode : ImageFills) (artwork : Bool) : Script Element :=
  (site.resolve source).bind fun style => site.elementOf source mode artwork style.simplify

end Site

namespace Outline

mutual

/-- The element of the reached part of a layer: first the element of the place itself, then its
children in order. -/
def build (source : Source) (mode : ImageFills) : Outline → Script Element
  | .mk site artwork children =>
    (site.element source mode artwork).bind fun e =>
      (buildAll source mode children).bind fun es => .done (e.withChildren es)

/-- The elements of several parts in order. -/
def buildAll (source : Source) (mode : ImageFills) : List Outline → Script (List Element)
  | [] => .done []
  | o :: os =>
    (o.build source mode).bind fun e => (buildAll source mode os).bind fun es => .done (e :: es)

end

end Outline

/-- Whether a node of this kind can be selected. -/
def Kind.checkRoot (name : String) : Kind → Except CompileError Unit
  | .frame | .rectangle | .group | .component | .instanceOf => .ok ()
  | .componentSet => .error (.componentSet name)
  | kind => .error (.unsupportedRoot kind)

/-- The element of a selected root. -/
def Scene.lower (s : Scene) (root : Nat) (source : Source) (mode : ImageFills) : Script Element :=
  match s.get? root, s.outline? root with
  | some node, some outline =>
    match node.kind.checkRoot node.name with
    | .ok () => outline.build source mode
    | .error e => .fail e
  | _, _ => .fail (.unknownNode root)

end Viewsmith
