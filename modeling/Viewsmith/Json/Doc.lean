import Viewsmith.Json.Quote

/-!
# JSON text

JSON that is to be written, as a tree with finished pieces at its leaves, and its two layouts.

## Main definitions

* `Json.Doc.compact`: the text on one line, without spaces.
* `Json.Doc.pretty`: the text over lines, two spaces to a level.
-/

namespace Viewsmith

namespace Json

/-- A tree of JSON text: a finished piece, a list, or an object. -/
inductive Doc where
  | piece (text : String)
  | list (items : List Doc)
  | object (fields : List (String × Doc))

namespace Doc

mutual

/-- The text on one line. -/
def compact : Doc → String
  | .piece s => s
  | .list items => "[" ++ String.intercalate "," (compactItems items) ++ "]"
  | .object fields => "\x7b" ++ String.intercalate "," (compactFields fields) ++ "\x7d"

/-- The texts of the items. -/
def compactItems : List Doc → List String
  | [] => []
  | d :: ds => d.compact :: compactItems ds

/-- The texts of the fields. -/
def compactFields : List (String × Doc) → List String
  | [] => []
  | (key, d) :: fs => (quote key ++ ":" ++ d.compact) :: compactFields fs

end

/-- Rows between brackets on lines of their own; without rows the brackets meet. -/
def enclose (opening closing : String) (depth : Nat) (rows : List String) : String :=
  let pad (n : Nat) : String := String.ofList (List.replicate (2 * n) ' ')
  if rows.isEmpty then opening ++ closing
  else
    opening ++ "\n" ++ String.intercalate ",\n" (rows.map (pad (depth + 1) ++ ·)) ++ "\n"
      ++ pad depth ++ closing

mutual

/-- The text over lines, two spaces to a level. -/
def pretty (depth : Nat) : Doc → String
  | .piece s => s
  | .list items => enclose "[" "]" depth (prettyItems (depth + 1) items)
  | .object fields => enclose "\x7b" "\x7d" depth (prettyFields (depth + 1) fields)

/-- The texts of the items. -/
def prettyItems (depth : Nat) : List Doc → List String
  | [] => []
  | d :: ds => d.pretty depth :: prettyItems depth ds

/-- The texts of the fields. -/
def prettyFields (depth : Nat) : List (String × Doc) → List String
  | [] => []
  | (key, d) :: fs => (quote key ++ ": " ++ d.pretty depth) :: prettyFields depth fs

end

/-- A string. -/
def text (s : String) : Doc := .piece (quote s)

/-- A string or nothing. -/
def optional : Option String → Doc
  | some s => text s
  | none => .piece "null"

end Doc

end Json

end Viewsmith
