import Viewsmith.Style.Basic

/-!
# Elements

A selected layer is lowered to a tree of elements: named, styled, and of a kind that says how it is
written.

## Main definitions

* `Content`: the kind of an element, with what belongs to it.
* `Element`: a tree of elements.
* `Element.preorder`: the elements of a tree, each before those below it.
-/

namespace Viewsmith

/-- The kind of an element. Containers may carry the file of a background image. -/
inductive Content where
  | component (props : List (String × String)) (image : Option String)
  | instanceOf (main : String) (props : List (String × String)) (image : Option String)
  | frame (image : Option String)
  | rectangle (image : Option String)
  | group
  | text (markup : String) (maxLines : Option Nat)
  | vector (svg : String)
  /-- Stands for artwork that could not be exported, and is not written. -/
  | blank
  deriving Inhabited

/-- The file of the background image. -/
def Content.image : Content → Option String
  | .component _ image => image
  | .instanceOf _ _ image => image
  | .frame image => image
  | .rectangle image => image
  | _ => none

/-- Whether the element is not written. -/
def Content.isBlank : Content → Bool
  | .blank => true
  | _ => false

/-- A tree of elements. -/
inductive Element where
  | mk (name : String) (content : Content) (style : Style) (children : List Element)

namespace Element

instance : Inhabited Element := ⟨.mk "" .blank {} []⟩

/-- The name. -/
def name : Element → String
  | .mk name _ _ _ => name

/-- The kind. -/
def content : Element → Content
  | .mk _ content _ _ => content

/-- The style. -/
def style : Element → Style
  | .mk _ _ style _ => style

/-- The elements below. -/
def children : Element → List Element
  | .mk _ _ _ children => children

/-- The name of an element that is given by its parts. -/
@[simp] theorem name_mk (n : String) (c : Content) (s : Style) (l : List Element) :
    (mk n c s l).name = n := rfl

/-- The content of an element that is given by its parts. -/
@[simp] theorem content_mk (n : String) (c : Content) (s : Style) (l : List Element) :
    (mk n c s l).content = c := rfl

/-- The style of an element that is given by its parts. -/
@[simp] theorem style_mk (n : String) (c : Content) (s : Style) (l : List Element) :
    (mk n c s l).style = s := rfl

/-- The children of an element that is given by its parts. -/
@[simp] theorem children_mk (n : String) (c : Content) (s : Style) (l : List Element) :
    (mk n c s l).children = l := rfl

/-- An element with other children. -/
def withChildren (children : List Element) : Element → Element
  | .mk name content style _ => .mk name content style children

/-- Whether the element is not written. -/
def isBlank (e : Element) : Bool := e.content.isBlank

mutual

/-- The elements of a tree, each before those below it. -/
def preorder : Element → List Element
  | .mk name content style children => .mk name content style children :: preorderAll children

/-- The elements of several trees in order. -/
def preorderAll : List Element → List Element
  | [] => []
  | e :: es => e.preorder ++ preorderAll es

end

/-- The number of elements in a tree. -/
def size (e : Element) : Nat := e.preorder.length

end Element

end Viewsmith
