import Viewsmith.Scene.Node

/-!
# Scenes

A scene numbers its nodes in the order in which they were added, and links them to their parents and
children by number.

## Main definitions

* `Scene`: the numbered nodes and the roots.
* `Scene.addRoot`, `Scene.addChild`: the two ways to add a node.
* `Scene.get?`, `Scene.parentId?`, `Scene.childIds`: the node of a number and its links.
* `Scene.descendants`: a node and all below it, each before those below it.
-/

namespace Viewsmith

/-- A node with its links. -/
structure Slot where
  node : Node
  parent : Option Nat := none
  children : List Nat := []

/-- A scene: numbered nodes, and the numbers of the roots. -/
structure Scene where
  slots : Array Slot := #[]
  roots : List Nat := []

namespace Scene

/-- The number of nodes. -/
def size (s : Scene) : Nat := s.slots.size

/-- The slot of a number. -/
def slot? (s : Scene) (id : Nat) : Option Slot := s.slots[id]?

/-- The node of a number. -/
def get? (s : Scene) (id : Nat) : Option Node := (s.slot? id).map (·.node)

/-- The number of the parent. -/
def parentId? (s : Scene) (id : Nat) : Option Nat := (s.slot? id).bind (·.parent)

/-- The parent. -/
def parent? (s : Scene) (id : Nat) : Option Node := (s.parentId? id).bind s.get?

/-- The numbers of the children, the lowest layer first. -/
def childIds (s : Scene) (id : Nat) : List Nat := ((s.slot? id).map (·.children)).getD []

/-- Add a node at the top. -/
def addRoot (s : Scene) (node : Node) : Scene where
  slots := s.slots.push { node }
  roots := s.roots ++ [s.size]

/-- List `id` as the last child of `parent`. -/
def adopt (s : Scene) (parent id : Nat) : Scene :=
  { s with
    slots := s.slots.modify parent fun slot => { slot with children := slot.children ++ [id] } }

/-- Add a node below another. A parent that is not known leaves the node detached, with one
exception: the number that the node itself gets. The node has no parent then, and still it is listed
below itself. -/
def addChild (s : Scene) (parent : Nat) (node : Node) : Scene :=
  let link := if parent < s.size then some parent else none
  Scene.adopt { s with slots := s.slots.push { node, parent := link } } parent s.size

/-- Change a node. -/
def modify (s : Scene) (id : Nat) (f : Node → Node) : Scene :=
  { s with slots := s.slots.modify id fun slot => { slot with node := f slot.node } }

/-- The nodes that are still to be visited are kept on a stack, the next one on top. Each step takes
one node off and puts its children on. -/
def walk (s : Scene) : Nat → List Nat → List Nat → Option (List Nat)
  | _, [], seen => some seen.reverse
  | 0, _ :: _, _ => none
  | steps + 1, id :: stack, seen =>
    match s.slot? id with
    | some slot => s.walk steps (slot.children ++ stack) (id :: seen)
    | none => s.walk steps stack seen

/-- A node and all nodes below it, each before those below it. No more steps are needed than there
are nodes, and one for the node itself when it is not known. -/
def descendants (s : Scene) (id : Nat) : List Nat :=
  (s.walk (s.size + 1) [id] []).getD []

/-- The first node with the given identifier. -/
def findKey? (s : Scene) (key : String) : Option Nat :=
  s.slots.toList.findIdx? (·.node.key == key)

/-- The first node with the given name. -/
def findName? (s : Scene) (name : String) : Option Nat :=
  s.slots.toList.findIdx? (·.node.name == name)

end Scene

end Viewsmith
