import Viewsmith.Text.Blank

/-!
# Lines

A line ends at a line feed, or at a carriage return with a line feed. A final line end adds no line.

## Main definitions

* `lines`: the lines of a text.
* `isBlankText`: whether a text holds nothing but blanks.
* `indentBy`: every line that is not blank shifted to the right.
-/

namespace Viewsmith.Text

/-- Drop a carriage return; the line stands backwards. -/
def dropReturn : List Char → List Char
  | '\r' :: cs => cs
  | cs => cs

/-- The lines of a text; `before` holds the characters of the line so far, backwards. -/
def splitLines (before : List Char) : List Char → List (List Char)
  | [] => if before.isEmpty then [] else [before.reverse]
  | c :: cs =>
    if c = '\n' then (dropReturn before).reverse :: splitLines [] cs
    else splitLines (c :: before) cs

/-- The lines of a text. -/
def lines (text : String) : List String := (splitLines [] text.toList).map String.ofList

/-- Lines put together, without a final line end. -/
def unlines (ls : List String) : String := String.intercalate "\n" ls

/-- Whether a text holds nothing but blanks. -/
def isBlankText (text : String) : Bool := text.toList.all isBlank

/-- A text without the blanks at its ends. -/
def trim (cs : List Char) : List Char :=
  ((cs.dropWhile isBlank).reverse.dropWhile isBlank).reverse

/-- A row of spaces. -/
def spaces (n : Nat) : String := String.ofList (List.replicate n ' ')

/-- Every line shifted to the right by `n` spaces; a blank line becomes empty. -/
def indentBy (n : Nat) (text : String) : String :=
  unlines ((lines text).map fun l => if isBlankText l then "" else spaces n ++ l)

end Viewsmith.Text
