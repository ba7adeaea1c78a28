import Viewsmith.Module.Markup
import Viewsmith.Style.Literal

/-!
# Modules

The text of a module: the imports, one function that returns the markup, and the object of styles.

## Main definitions

* `Element.stylesheet`: the entries of the object of styles.
* `Element.emit`: the text of the module.
-/

namespace Viewsmith

/-- The name of a function with the characters of markup escaped. -/
def escapeMarkup (s : String) : String :=
  String.ofList (s.toList.flatMap fun c =>
    if c = '&' then "&amp;".toList
    else if c = '<' then "&lt;".toList
    else if c = '>' then "&gt;".toList
    else if c = '"' then "&quot;".toList
    else if c = '\'' then "&#x27;".toList
    else if c = '`' then "&#x60;".toList
    else if c = '=' then "&#x3D;".toList
    else [c])

namespace Element

/-- The names and styles of the elements that are written, in preorder. -/
def entries (e : Element) : List (String × Style) :=
  (e.preorder.filter (!·.isBlank)).map fun e => (e.name, e.style)

/-- The entries of the object of styles. -/
def stylesheet (space : Nat) (e : Element) : String :=
  String.intercalate ",\n" (e.entries.map fun (name, style) =>
    Value.keyLiteral name ++ ": " ++ style.literal space 0)

/-- The line that imports the tags, if there are any. -/
def importLine (tags : List Tag) : String :=
  if tags.isEmpty then ""
  else "\nimport \x7b " ++ String.intercalate ", " (tags.map Tag.name) ++
    " \x7d from 'react-native';"

/-- The text of the module with the given function. A blank element gives no module. -/
def emit (indent : Nat) (function : String) (e : Element) : String :=
  if e.isBlank then ""
  else
    "import React from 'react';" ++ importLine e.imports ++ "\n\n"
      ++ "export default function " ++ escapeMarkup function ++ "() \x7b\n"
      ++ Text.spaces indent ++ "return (\n"
      ++ Text.indentBy (2 * indent) (Text.unlines (e.markup indent 0)) ++ "\n"
      ++ Text.spaces indent ++ ");\n\x7d\n\n"
      ++ "const styles = \x7b\n"
      ++ Text.indentBy indent (e.stylesheet indent) ++ "\n\x7d;\n"

end Element

end Viewsmith
