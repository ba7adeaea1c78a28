/-!
# Kinds of layers

The kinds of nodes in a scene, and the three groups of kinds that matter for placing and drawing
them.
-/

namespace Viewsmith

/-- The kind of a node. -/
inductive Kind where
  | component
  | componentSet
  | instanceOf
  | frame
  | rectangle
  | group
  | text
  | ellipse
  | line
  | polygon
  | star
  | vector
  | booleanOperation
  /-- A kind that is not known. -/
  | other (tag : String)
  deriving Repr, DecidableEq, Inhabited

namespace Kind

/-- The known kinds with their tags. -/
def tags : List (String × Kind) :=
  [("COMPONENT", .component), ("COMPONENT_SET", .componentSet), ("INSTANCE", .instanceOf),
   ("FRAME", .frame), ("RECTANGLE", .rectangle), ("GROUP", .group), ("TEXT", .text),
   ("ELLIPSE", .ellipse), ("LINE", .line), ("POLYGON", .polygon), ("STAR", .star),
   ("VECTOR", .vector), ("BOOLEAN_OPERATION", .booleanOperation)]

/-- The kind of a tag. -/
def ofTag (tag : String) : Kind := (tags.lookup tag).getD (.other tag)

/-- The tag of a kind. -/
def tag : Kind → String
  | .component => "COMPONENT"
  | .componentSet => "COMPONENT_SET"
  | .instanceOf => "INSTANCE"
  | .frame => "FRAME"
  | .rectangle => "RECTANGLE"
  | .group => "GROUP"
  | .text => "TEXT"
  | .ellipse => "ELLIPSE"
  | .line => "LINE"
  | .polygon => "POLYGON"
  | .star => "STAR"
  | .vector => "VECTOR"
  | .booleanOperation => "BOOLEAN_OPERATION"
  | .other tag => tag

/-- The kinds that are drawn as one piece of artwork. -/
def isVectorLike : Kind → Bool
  | .booleanOperation | .ellipse | .line | .polygon | .star | .vector => true
  | _ => false

/-- The kinds that can lay out their children in a row or a column. -/
def isContainer : Kind → Bool
  | .frame | .component | .componentSet | .instanceOf => true
  | _ => false

/-- The kinds that have no constraints of their own. -/
def isGroupLike : Kind → Bool
  | .group | .booleanOperation => true
  | _ => false

end Kind

end Viewsmith
