import Viewsmith.Identifier
import Viewsmith.Number.Text
import Viewsmith.Style.Basic
import Viewsmith.Text.Lines

/-!
# Styles as object literals

A style is written as an object literal: a key stands bare when it is an identifier, texts stand in
double quotes, and every record and list that is not empty opens a block on lines of its own.

## Main definitions

* `Style.literal`: the literal of a style.
-/

namespace Viewsmith

namespace Value

/-- The escape of a character in a quoted text. -/
def escapeChar (c : Char) : List Char :=
  if c = '"' then ['\\', '"']
  else if c = '\\' then ['\\', '\\']
  else if c = '\n' then ['\\', 'n']
  else [c]

/-- A text in double quotes. -/
def quoted (s : String) : String :=
  String.ofList ('"' :: (s.toList.flatMap escapeChar ++ ['"']))

/-- A key: bare if it is an identifier. -/
def keyLiteral (key : String) : String :=
  if Identifier.isIdentifier key then key else quoted key

/-- A block of lines between two brackets; without lines the brackets meet. -/
def block (opening closing : String) (current : Nat) (rows : List String) : String :=
  if rows.isEmpty then opening ++ closing
  else opening ++ "\n" ++ String.intercalate ",\n" rows ++ "\n" ++ Text.spaces current ++ closing

mutual

/-- The literal of a value that starts in column `current`, with `space` columns for each level. -/
def literal (space current : Nat) : Value → String
  | .number x => Number.css x
  | .text s => quoted s
  | .list items => block "[" "]" current (literalItems space (current + space) items)
  | .record fields =>
    block "\x7b" "\x7d" current (literalFields space (current + space) fields)

/-- The rows of a list. -/
def literalItems (space current : Nat) : List Value → List String
  | [] => []
  | v :: vs => (Text.spaces current ++ v.literal space current) :: literalItems space current vs

/-- The rows of a record. -/
def literalFields (space current : Nat) : List (String × Value) → List String
  | [] => []
  | (key, v) :: fs =>
    (Text.spaces current ++ keyLiteral key ++ ": " ++ v.literal space current)
      :: literalFields space current fs

end

end Value

/-- The literal of a style that starts in column `current`, with `space` columns for each level. -/
def Style.literal (s : Style) (space current : Nat) : String :=
  Value.literal space current (.record s.entries)

end Viewsmith
