import Viewsmith.Scene.Basic

/-!
# Layers

A layer is a node together with the layers below it, cut out of a scene. What is written of a layer
is its outline: the layer itself, and below frames, components, instances and groups the visible
children. A group that holds nothing but artwork is drawn as one piece, and its outline ends there.

## Main definitions

* `Layer`: a node with the layers below it.
* `Scene.layer?`: the layer of a node.
* `Layer.isDrawable`: whether a layer can be part of one piece of artwork.
* `Site`: a node with what its place in the scene says about it.
* `Outline`, `Layer.outline`: the part of a layer that is reached.
-/

namespace Viewsmith

/-- A node of a scene with the layers below it. -/
inductive Layer where
  | mk (id : Nat) (node : Node) (children : List Layer)

namespace Layer

/-- The node. -/
def node : Layer → Node
  | .mk _ node _ => node

/-- The layers below. -/
def children : Layer → List Layer
  | .mk _ _ children => children

end Layer

/-- The layer of a slot. A child has a higher number than its parent, unless a node is listed below
itself. There a recursion over the children would not end, and such a child is passed over. -/
def Scene.layerOf (s : Scene) (id : Nat) (slot : Slot) : Layer :=
  .mk id slot.node (slot.children.filterMap fun child =>
    if _higher : id < child then
      if _known : child < s.slots.size then some (s.layerOf child s.slots[child]) else none
    else none)
termination_by s.slots.size - id

/-- The layer of a node. -/
def Scene.layer? (s : Scene) (id : Nat) : Option Layer := (s.slot? id).map (s.layerOf id)

namespace Layer

mutual

/-- Whether a layer can be part of one piece of artwork: it is artwork itself, a rectangle without
an image, or a group of such layers. Hidden layers count. -/
def isDrawable : Layer → Bool
  | .mk _ node children =>
    node.kind.isVectorLike || (node.kind = .rectangle && !node.hasImageFill)
      || (node.kind = .group && allDrawable children)

/-- Whether all layers can be part of one piece of artwork. -/
def allDrawable : List Layer → Bool
  | [] => true
  | layer :: layers => layer.isDrawable && allDrawable layers

end

/-- Whether a layer is drawn as one piece of artwork: it is artwork itself, or a group of drawable
layers. -/
def isArtwork : Layer → Bool
  | .mk _ node children => node.kind.isVectorLike || (node.kind = .group && allDrawable children)

end Layer

/-- A node with what its place in the scene says about it. -/
structure Site where
  id : Nat
  node : Node
  /-- Whether the node is the selected root. -/
  selected : Bool
  /-- The parent in the scene. -/
  owner : Option Node
  /-- The parent of the parent. -/
  outer : Option Node

namespace Site

/-- The parent that the node is placed in. The selected root is placed in none. -/
def parent? (site : Site) : Option Node := if site.selected then none else site.owner

end Site

/-- The place of a node, given the selected root. -/
def Scene.site? (s : Scene) (root id : Nat) : Option Site :=
  (s.get? id).map fun node =>
    { id, node
      selected := id == root
      owner := s.parent? id
      outer := (s.parentId? id).bind s.parent? }

/-- The part of a layer that is reached: the places in it, and whether each is drawn as one piece of
artwork. -/
inductive Outline where
  | mk (site : Site) (artwork : Bool) (children : List Outline)

namespace Layer

/-- The kinds whose visible children are reached. -/
def opens : Kind → Bool
  | .frame | .component | .instanceOf | .group => true
  | _ => false

mutual

/-- The reached part of a layer. -/
def outline (selected : Bool) (owner outer : Option Node) : Layer → Outline
  | .mk id node children =>
    let artwork := isArtwork (.mk id node children)
    .mk { id, node, selected, owner, outer } artwork
      (if opens node.kind && !artwork then outlines (some node) owner children else [])

/-- The reached parts of the visible layers of a list. -/
def outlines (owner outer : Option Node) : List Layer → List Outline
  | [] => []
  | layer :: layers =>
    if layer.node.visible then layer.outline false owner outer :: outlines owner outer layers
    else outlines owner outer layers

end

end Layer

/-- The reached part of a selected root. -/
def Scene.outline? (s : Scene) (root : Nat) : Option Outline :=
  (s.layer? root).map fun layer =>
    layer.outline true (s.parent? root) ((s.parentId? root).bind s.parent?)

end Viewsmith
