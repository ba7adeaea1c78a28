import Viewsmith.Element.Basic

/-!
# Distinct names

Elements are referred to by name, so no two elements that are written may share one. Names are given
in preorder: a name that is taken is prefixed with underscores until it is free. Blank elements keep
their names and take none.

## Main definitions

* `Element.freshName`: the first free name among a name and its prefixed forms.
* `Element.distinct`: the tree with distinct names.
-/

namespace Viewsmith.Element

/-- The first free name after at most `steps` underscores. -/
def freshWithin (taken : List String) : Nat → String → String
  | 0, name => name
  | steps + 1, name =>
    if name ∈ taken then freshWithin taken steps ("_" ++ name) else name

/-- The name with the fewest underscores before it that is not taken. As many underscores as there
are taken names always suffice. -/
def freshName (taken : List String) (name : String) : String :=
  freshWithin taken taken.length name

mutual

/-- Rename a tree, given the names that are taken, and return those taken afterwards. -/
def rename : Element → List String → Element × List String
  | .mk name content style children, taken =>
    if content.isBlank then
      let (children, taken) := renameAll children taken
      (.mk name content style children, taken)
    else
      let name := freshName taken name
      let (children, taken) := renameAll children (name :: taken)
      (.mk name content style children, taken)

/-- Rename several trees in order. -/
def renameAll : List Element → List String → List Element × List String
  | [], taken => ([], taken)
  | e :: es, taken =>
    let (e, taken) := e.rename taken
    let (es, taken) := renameAll es taken
    (e :: es, taken)

end

/-- The tree with distinct names. -/
def distinct (e : Element) : Element := (e.rename []).1

end Viewsmith.Element
