import Viewsmith.Style.Basic

/-!
# Simplified styles

Properties of the single edges are folded into shorthands, and properties that hold their initial
value are dropped.

## Main definitions

* `Style.merge`: replace some keys by one when they hold the same value.
* `Style.simplify`: all merges, then all drops.
-/

namespace Viewsmith

/-- Some properties that are replaced by one shorthand when they agree. -/
structure Shorthand where
  parts : List String
  whole : String

/-- Shorthands of opposite edges, and then of both axes. -/
def Shorthand.cascades : List Shorthand :=
  [⟨["marginTop", "marginBottom"], "marginVertical"⟩,
   ⟨["marginLeft", "marginRight"], "marginHorizontal"⟩,
   ⟨["marginVertical", "marginHorizontal"], "margin"⟩,
   ⟨["paddingTop", "paddingBottom"], "paddingVertical"⟩,
   ⟨["paddingLeft", "paddingRight"], "paddingHorizontal"⟩,
   ⟨["paddingVertical", "paddingHorizontal"], "padding"⟩,
   ⟨["borderTopStyle", "borderBottomStyle"], "borderVerticalStyle"⟩,
   ⟨["borderLeftStyle", "borderRightStyle"], "borderHorizontalStyle"⟩,
   ⟨["borderVerticalStyle", "borderHorizontalStyle"], "borderStyle"⟩,
   ⟨["borderTopColor", "borderBottomColor"], "borderVerticalColor"⟩,
   ⟨["borderLeftColor", "borderRightColor"], "borderHorizontalColor"⟩,
   ⟨["borderVerticalColor", "borderHorizontalColor"], "borderColor"⟩]

/-- Shorthands that need all four edges or corners. -/
def Shorthand.fourWay : List Shorthand :=
  [⟨["borderTopWidth", "borderRightWidth", "borderBottomWidth", "borderLeftWidth"], "borderWidth"⟩,
   ⟨["borderTopLeftRadius", "borderTopRightRadius", "borderBottomRightRadius",
     "borderBottomLeftRadius"], "borderRadius"⟩]

namespace Style

/-- The properties that are dropped when they hold their initial value. -/
def initialValues : List (String × Value) :=
  [("margin", .number 0), ("padding", .number 0), ("borderWidth", .number 0),
   ("borderRadius", .number 0), ("borderStyle", .text "solid"),
   ("borderColor", .text "transparent"), ("background", .text "transparent"),
   ("display", .text "flex"), ("position", .text "relative"), ("flexGrow", .number 0),
   ("flexBasis", .text "auto"), ("flexWrap", .text "nowrap"), ("flexDirection", .text "column"),
   ("alignSelf", .text "auto"), ("alignItems", .text "flex-start"),
   ("justifyContent", .text "flex-start")]

/-- The value of the first key, if every other key holds an equal one. -/
def common? (s : Style) : List String → Option Value
  | [] => none
  | key :: rest =>
    (s.get? key).filter fun v =>
      rest.all fun other => (s.get? other).any fun w => w.same v

/-- The first position of a key of the list; the end if none is present. -/
def firstIndex (s : Style) (keys : List String) : Nat :=
  ((keys.filterMap s.indexOf?).min?).getD s.size

/-- Remove several properties. -/
def eraseAll (s : Style) (keys : List String) : Style :=
  keys.foldl erase s

/-- Replace the parts of a shorthand by the whole when every part is present with the same value.
The whole takes the position of the first part. -/
def merge (s : Style) (shorthand : Shorthand) : Style :=
  match s.common? shorthand.parts with
  | none => s
  | some v =>
    let bare := s.erase shorthand.whole
    let index := bare.firstIndex shorthand.parts
    ((bare.eraseAll shorthand.parts).insertAt? index shorthand.whole v).getD s

/-- Drop a property that holds the given value. -/
def dropInitial (s : Style) (initial : String × Value) : Style :=
  match s.get? initial.1 with
  | some v => if v.same initial.2 then s.erase initial.1 else s
  | none => s

/-- Drop a near offset of zero when there is no far one: that is the default place. -/
def dropOffset (s : Style) (near far : String) : Style :=
  if (s.get? near).any (·.isNumber 0) && !s.contains far then s.erase near else s

/-- Fold all shorthands, then drop what holds its initial value. -/
def simplify (s : Style) : Style :=
  let folded := Shorthand.fourWay.foldl merge (Shorthand.cascades.foldl merge s)
  ((initialValues.foldl dropInitial folded).dropOffset "top" "bottom").dropOffset "left" "right"

end Style

end Viewsmith
