import Viewsmith.Element.Basic
import Viewsmith.Style.Json

/-!
# Elements as JSON text

The JSON of an element tree: its name, its kind with what belongs to it, its style, its children. It
is written compactly, or over indented lines.

## Main definitions

* `Element.json`: the compact text.
* `Element.jsonPretty`: the text over indented lines.
-/

namespace Viewsmith

namespace Content

/-- The JSON of a list of pairs. -/
def pairsDoc (pairs : List (String × String)) : Json.Doc :=
  .object (pairs.map fun p => (p.1, .text p.2))

/-- The fields of the kind of an element. -/
def docFields : Content → List (String × Json.Doc)
  | .component props image =>
    [("kind", .text "COMPONENT"), ("props", pairsDoc props), ("backgroundImage", .optional image)]
  | .instanceOf main props image =>
    [("kind", .text "INSTANCE"), ("mainComponentName", .text main), ("props", pairsDoc props),
      ("backgroundImage", .optional image)]
  | .frame image => [("kind", .text "FRAME"), ("backgroundImage", .optional image)]
  | .rectangle image => [("kind", .text "RECTANGLE"), ("backgroundImage", .optional image)]
  | .group => [("kind", .text "GROUP")]
  | .text markup maxLines =>
    [("kind", .text "TEXT"), ("markup", .text markup),
      ("maxLines", .piece (match maxLines with | some n => toString n | none => "null"))]
  | .vector svg => [("kind", .text "VECTOR"), ("svg", .text svg)]
  | .blank => [("kind", .text "BLANK")]

end Content

namespace Element

mutual

/-- The JSON of a tree. -/
def doc : Element → Json.Doc
  | .mk name content style children =>
    .object (("name", .text name) :: content.docFields
      ++ [("style", style.doc), ("children", .list (docAll children))])

/-- The JSON of several trees. -/
def docAll : List Element → List Json.Doc
  | [] => []
  | e :: es => e.doc :: docAll es

end

/-- The compact JSON text of a tree. -/
def json (e : Element) : String := e.doc.compact

/-- The JSON text of a tree over indented lines. -/
def jsonPretty (e : Element) : String := e.doc.pretty 0

end Element

end Viewsmith
