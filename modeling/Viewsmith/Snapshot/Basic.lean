import Viewsmith.Base64
import Viewsmith.Error
import Viewsmith.Scene.Basic
import Viewsmith.Snapshot.Decode

/-!
# Snapshots

A snapshot is a scene that was captured with the artwork and the images that belong to it, so that
it can answer for the design tool.

## Main definitions

* `Snapshot`: a scene with artwork and images.
* `Snapshot.ofDocument`: the snapshot of a document; nodes are numbered in the order of the
  document.
* `Snapshot.read`: the snapshot of a text.
* `Snapshot.root`: the node that a selection names.
* `Snapshot.source`: the answers of a snapshot.
-/

namespace Viewsmith

/-- Why there is no snapshot, or no selection in it. -/
inductive SnapshotError where
  | json (fault : Json.Fault)
  | image (hash : String) (fault : Base64.Fault)
  | empty
  | unknownRoot (key : String)
  deriving Repr, DecidableEq

/-- The text of an error. -/
def SnapshotError.message : SnapshotError → String
  | .json fault => "json error: " ++ fault.category
  | .image hash fault => "image " ++ hash ++ ": " ++ fault.message
  | .empty => "snapshot has no root nodes"
  | .unknownRoot key => "no node with id " ++ key

/-- A scene with artwork and images. -/
structure Snapshot where
  scene : Scene := {}
  artwork : List (Nat × String) := []
  images : List (String × List UInt8) := []

namespace Snapshot

/-- Add a node, at the top or below another. -/
def addNode (snapshot : Snapshot) (parent : Option Nat) (node : Node) (svg : Option String) :
    Snapshot :=
  let id := snapshot.scene.size
  { snapshot with
    scene := match parent with
      | some parent => snapshot.scene.addChild parent node
      | none => snapshot.scene.addRoot node
    artwork := match svg with
      | some svg => (id, svg) :: snapshot.artwork
      | none => snapshot.artwork }

mutual

/-- Add a node of a document, then its children in order. -/
def addSpec (parent : Option Nat) : Spec → Snapshot → Snapshot
  | .mk node svg children, snapshot =>
    addSpecs (some snapshot.scene.size) children (snapshot.addNode parent node svg)

/-- Add nodes of a document in order. -/
def addSpecs (parent : Option Nat) : List Spec → Snapshot → Snapshot
  | [], snapshot => snapshot
  | spec :: specs, snapshot => addSpecs parent specs (addSpec parent spec snapshot)

end

/-- Decode the images of a document. -/
def decodeImages : List (String × String) → Except SnapshotError (List (String × List UInt8))
  | [] => .ok []
  | (hash, text) :: rest =>
    match Base64.decodeImage text with
    | .error fault => .error (.image hash fault)
    | .ok bytes => (decodeImages rest).map ((hash, bytes) :: ·)

/-- The snapshot of a document. -/
def ofDocument (document : Document) : Except SnapshotError Snapshot :=
  (decodeImages document.images).map fun images =>
    { addSpecs none document.nodes {} with images }

/-- The snapshot of a text. -/
def read (text : String) : Except SnapshotError Snapshot :=
  match Document.read text with
  | .error fault => .error (.json fault)
  | .ok document => ofDocument document

/-- The selected node: the first with the given identifier, or the first root. -/
def root (snapshot : Snapshot) : Option String → Except SnapshotError Nat
  | some key =>
    match snapshot.scene.findKey? key with
    | some id => .ok id
    | none => .error (.unknownRoot key)
  | none =>
    match snapshot.scene.roots with
    | id :: _ => .ok id
    | [] => .error .empty

/-- The answers of a snapshot. -/
def source (snapshot : Snapshot) : Source where
  artwork id :=
    match snapshot.artwork.lookup id with
    | some svg => .ok svg
    | none => .error (.exportUnavailable id)
  image hash := .ok (snapshot.images.lookup hash)

end Snapshot

end Viewsmith
