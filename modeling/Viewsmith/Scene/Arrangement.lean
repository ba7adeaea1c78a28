/-!
# How layers are arranged

The choices that place a layer inside its parent and its children inside it, each with the tags it
is written with.
-/

namespace Viewsmith

/-- The edge, or the edges, that a layer is anchored to on an axis. -/
inductive Constraint where
  | min
  | max
  | stretch
  | center
  | scale
  deriving Repr, DecidableEq, Inhabited

/-- The tags of constraints. -/
def Constraint.tags : List (String × Constraint) :=
  [("MIN", .min), ("MAX", .max), ("STRETCH", .stretch), ("CENTER", .center), ("SCALE", .scale)]

/-- The word for a constraint in messages. -/
def Constraint.word : Constraint → String
  | .min => "Min"
  | .max => "Max"
  | .stretch => "Stretch"
  | .center => "Center"
  | .scale => "Scale"

/-- The constraints of both axes. A layer without constraints is anchored to the near edges. -/
structure Constraints where
  horizontal : Constraint := .min
  vertical : Constraint := .min
  deriving Repr, DecidableEq, Inhabited

/-- How an axis is sized. -/
inductive Sizing where
  | fixed
  | hug
  | fill
  deriving Repr, DecidableEq, Inhabited

/-- The tags of sizings. -/
def Sizing.tags : List (String × Sizing) := [("FIXED", .fixed), ("HUG", .hug), ("FILL", .fill)]

/-- Where a child stands across the flow of its parent. -/
inductive Alignment where
  | min
  | center
  | max
  | stretch
  | inherit
  deriving Repr, DecidableEq, Inhabited

/-- The tags of alignments. -/
def Alignment.tags : List (String × Alignment) :=
  [("MIN", .min), ("CENTER", .center), ("MAX", .max), ("STRETCH", .stretch), ("INHERIT", .inherit)]

/-- Whether a child takes part in the flow of its parent. -/
inductive Positioning where
  | auto
  | absolute
  deriving Repr, DecidableEq, Inhabited

/-- The tags of positionings. -/
def Positioning.tags : List (String × Positioning) := [("AUTO", .auto), ("ABSOLUTE", .absolute)]

/-- The direction in which children flow. -/
inductive Flow where
  | none
  | horizontal
  | vertical
  deriving Repr, DecidableEq, Inhabited

/-- The tags of flows. -/
def Flow.tags : List (String × Flow) :=
  [("NONE", .none), ("HORIZONTAL", .horizontal), ("VERTICAL", .vertical)]

/-- Whether the flow goes on in a new line. -/
inductive Wrap where
  | noWrap
  | wrap
  deriving Repr, DecidableEq, Inhabited

/-- The tags of wraps. -/
def Wrap.tags : List (String × Wrap) := [("NO_WRAP", .noWrap), ("WRAP", .wrap)]

/-- How children are distributed along the flow. -/
inductive MainAlignment where
  | min
  | max
  | center
  | spaceBetween
  deriving Repr, DecidableEq, Inhabited

/-- The tags of alignments along the flow. -/
def MainAlignment.tags : List (String × MainAlignment) :=
  [("MIN", .min), ("MAX", .max), ("CENTER", .center), ("SPACE_BETWEEN", .spaceBetween)]

/-- How children are aligned across the flow. -/
inductive CrossAlignment where
  | min
  | max
  | center
  | baseline
  deriving Repr, DecidableEq, Inhabited

/-- The tags of alignments across the flow. -/
def CrossAlignment.tags : List (String × CrossAlignment) :=
  [("MIN", .min), ("MAX", .max), ("CENTER", .center), ("BASELINE", .baseline)]

end Viewsmith
