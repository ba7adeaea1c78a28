import Viewsmith.Json.Doc
import Viewsmith.Number.Text
import Viewsmith.Style.Basic

/-!
# Styles as JSON text

The JSON of a value and of a style, with fields in the order of the record.
-/

namespace Viewsmith

namespace Value

mutual

/-- The JSON of a value. -/
def doc : Value → Json.Doc
  | .number x => .piece (Number.json x)
  | .text s => .text s
  | .list items => .list (docItems items)
  | .record fields => .object (docFields fields)

/-- The JSON of the items. -/
def docItems : List Value → List Json.Doc
  | [] => []
  | v :: vs => v.doc :: docItems vs

/-- The JSON of the fields. -/
def docFields : List (String × Value) → List (String × Json.Doc)
  | [] => []
  | (key, v) :: fs => (key, v.doc) :: docFields fs

end

/-- The compact JSON text of a value. -/
def json (v : Value) : String := v.doc.compact

end Value

/-- The JSON of a style. -/
def Style.doc (s : Style) : Json.Doc := (Value.record s.entries).doc

/-- The compact JSON text of a style. -/
def Style.json (s : Style) : String := s.doc.compact

end Viewsmith
