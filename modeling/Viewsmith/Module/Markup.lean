import Viewsmith.Element.Basic
import Viewsmith.Text.Blank
import Viewsmith.Text.Case
import Viewsmith.Text.Lines

/-!
# Markup

An element tree is written as markup, line by line: a container opens and closes on lines of its own
around its children, a text takes three lines, artwork is inlined with a reference to its style, and
blank elements are left out. Below the root, a component or an instance is announced by a comment.

## Main definitions

* `Tag`: the framework's elements.
* `Line`: one line of markup.
* `Element.lines`: the lines of a tree, each with its depth.
* `Element.markup`: their text.
* `Element.imports`: the tags that a tree uses.
-/

namespace Viewsmith

/-- The elements of the framework that a module uses. -/
inductive Tag where
  | view
  | imageBackground
  | text
  deriving Repr, DecidableEq

/-- The name of a tag. -/
def Tag.name : Tag → String
  | .view => "View"
  | .imageBackground => "ImageBackground"
  | .text => "Text"

/-- One line of markup. -/
inductive Line where
  /-- The start of a container with children. -/
  | start (tag : Tag) (name : String) (image : Option String)
  /-- The end of a container or of a text. -/
  | finish (tag : Tag)
  /-- A container without children. -/
  | single (tag : Tag) (name : String) (image : Option String)
  /-- The start of a text. -/
  | textStart (name : String) (maxLines : Option Nat)
  /-- The inside of a text. -/
  | textBody (markup : String)
  /-- A remark that names the component an element can be replaced with. -/
  | remark (component : String) (props : List (String × String))
  /-- A line of inlined artwork. -/
  | artwork (text : String)

namespace Line

/-- The reference to the style of an element. -/
def styleReference (name : String) : String := "style=\x7bstyles." ++ name ++ "\x7d"

/-- The attribute of a background image. -/
def sourceAttribute : Option String → String
  | some file => " source=\x7b\x7b uri: '" ++ file ++ "' \x7d\x7d"
  | none => ""

/-- The attribute that limits the lines of a text. -/
def lineLimit : Option Nat → String
  | some n => " numberOfLines=\x7b" ++ toString n ++ "\x7d"
  | none => ""

/-- The attributes of a component in a remark. -/
def propAttributes (props : List (String × String)) : String :=
  String.join (props.map fun p => " " ++ p.1 ++ "=\x7b\"" ++ p.2 ++ "\"\x7d")

/-- The text of a line. -/
def text : Line → String
  | .start tag name image =>
    "<" ++ tag.name ++ " " ++ styleReference name ++ sourceAttribute image ++ ">"
  | .finish tag => "</" ++ tag.name ++ ">"
  | .single tag name image =>
    "<" ++ tag.name ++ " " ++ styleReference name ++ sourceAttribute image ++ "/>"
  | .textStart name maxLines =>
    "<Text " ++ styleReference name ++ lineLimit maxLines ++ ">"
  | .textBody markup => markup
  | .remark component props =>
    "\x7b/* can be replaced with <" ++ Text.capitalized component ++ propAttributes props ++
      " /> */\x7d"
  | .artwork text => text

end Line

/-! ### Artwork -/

/-- Write `reference` into every start tag of artwork that has room for an attribute: after the name
of the tag and the blanks that follow it. While `skipping`, blanks are dropped. -/
def insertReference (reference : List Char) : (skipping : Bool) → List Char → List Char
  | _, '<' :: 's' :: 'v' :: 'g' :: c :: cs =>
    if Text.isBlank c then "<svg ".toList ++ reference ++ ' ' :: insertReference reference true cs
    else '<' :: insertReference reference false ('s' :: 'v' :: 'g' :: c :: cs)
  | skipping, c :: cs =>
    if skipping && Text.isBlank c then insertReference reference true cs
    else c :: insertReference reference false cs
  | _, [] => []

/-- The lines of artwork with a reference to its style; blank lines are left out. -/
def artworkLines (name svg : String) : List String :=
  (Text.lines (String.ofList
    (insertReference (Line.styleReference name).toList false svg.toList))).filter
      (!Text.isBlankText ·)

namespace Element

/-- The tag of an element. Artwork is inlined and blank elements are left out, so neither has
one. -/
def tag? (e : Element) : Option Tag :=
  match e.content with
  | .vector _ => none
  | .blank => none
  | .text _ _ => some .text
  | .group => some .view
  | content => some (if content.image.isSome then .imageBackground else .view)

/-- The component that an element can be replaced with, and its props. -/
def replacement? (name : String) : Content → Option (String × List (String × String))
  | .component props _ => some (name, props)
  | .instanceOf main props _ => some (if main.isEmpty then name else main, props)
  | _ => none

/-- The remark before a container; the root has none. -/
def remarks (depth : Nat) (name : String) (content : Content) : List (Nat × Line) :=
  match depth, replacement? name content with
  | 0, _ => []
  | _, none => []
  | depth, some (component, props) => [(depth, .remark component props)]

/-- The tag of a container. -/
def containerTag (content : Content) : Tag :=
  if content.image.isSome then .imageBackground else .view

mutual

/-- The lines of a tree that stands at `depth`, each with its own depth. -/
def lines (depth : Nat) : Element → List (Nat × Line)
  | .mk name content _ children =>
    match content with
    | .blank => []
    | .vector svg => (artworkLines name svg).map fun l => (depth, .artwork l)
    | .text markup maxLines =>
      [(depth, .textStart name maxLines), (depth + 1, .textBody markup), (depth, .finish .text)]
    | content =>
      remarks depth name content ++
        if children.isEmpty then [(depth, .single (containerTag content) name content.image)]
        else
          (depth, .start (containerTag content) name content.image) ::
            (linesAll (depth + 1) children ++ [(depth, .finish (containerTag content))])

/-- The lines of several trees in order. -/
def linesAll (depth : Nat) : List Element → List (Nat × Line)
  | [] => []
  | e :: es => e.lines depth ++ linesAll depth es

end

/-- The markup of a tree that stands at `depth`, with `indent` spaces for each level. -/
def markup (indent depth : Nat) (e : Element) : List String :=
  (e.lines depth).map fun (d, line) => Text.spaces (d * indent) ++ line.text

/-- The tags that a tree uses, in the order of their first use. -/
def imports (e : Element) : List Tag :=
  (e.preorder.filterMap tag?).foldl (fun tags t => if t ∈ tags then tags else tags ++ [t]) []

end Element

end Viewsmith
