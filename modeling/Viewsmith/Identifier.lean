import Viewsmith.Text.Alphabetic
import Viewsmith.Text.Blank
import Viewsmith.Text.Case
import Viewsmith.Text.Letter
import Viewsmith.Text.Numeral
import Viewsmith.Text.Recent

/-!
# Identifiers

Names of layers are free text. `Identifier.ofName` makes one word of such a name that can serve as a
key and as the name of an element; `Identifier.isIdentifier` says which keys of an object literal
can stand without quotes.

## Main definitions

* `Identifier.ofName`: `"Button / Primary"` becomes `"buttonPrimary"`.
* `Identifier.isIdentifier`: whether a key can be written bare.
-/

namespace Viewsmith.Identifier

open Text

/-- The name given when nothing of a name is left. -/
def fallback : List Char := "MyVar".toList

/-- The characters that stay in a word: letters and numerals that are not recent, and two signs. -/
def isWordChar (c : Char) : Bool :=
  ((isLetter c || isNumeral c) && !isRecent c) || c = '_' || c = '$'

/-- A name without its leading slashes, its leading digits and its blanks. -/
def bare (name : List Char) : List Char :=
  ((name.dropWhile (· = '/')).dropWhile Char.isDigit).filter (!isBlank ·)

/-- The word of a name before its first letter is put in lower case: the parts between slashes,
capitalized and run together, without the characters that no word has. -/
def word (name : List Char) : List Char :=
  ((((bare name).splitOn '/').map capitalize).flatten).filter isWordChar

/-- A word that does not start with a digit and is not empty. -/
def startSafe : List Char → List Char
  | [] => fallback
  | c :: cs => if c.isDigit then '_' :: c :: cs else c :: cs

/-- The identifier of a name. -/
def ofName (name : String) : String :=
  String.ofList (decapitalize (startSafe (word name.toList)))

/-- Whether an identifier may start with the character. -/
def isStart (c : Char) : Bool := isAlphabetic c || c = '_' || c = '$'

/-- Whether an identifier may go on with the character. -/
def isContinue (c : Char) : Bool := isAlphabetic c || isNumeral c || c = '_' || c = '$'

/-- Whether a key can be written without quotes. -/
def isIdentifier (key : String) : Bool :=
  match key.toList with
  | [] => false
  | c :: cs => isStart c && cs.all isContinue

/-- Write a pair; a key that is present keeps its position. -/
def putPair (pairs : List (String × String)) (key value : String) : List (String × String) :=
  if pairs.any (·.1 == key) then pairs.map fun p => if p.1 == key then (key, value) else p
  else pairs ++ [(key, value)]

/-- The pairs of a list with each key once: in its first position, with its last value. -/
def distinctPairs (pairs : List (String × String)) : List (String × String) :=
  pairs.foldl (fun acc p => putPair acc p.1 p.2) []

/-- Pairs of names as pairs of identifiers. -/
def ofPairs (pairs : List (String × String)) : List (String × String) :=
  distinctPairs (pairs.map fun p => (ofName p.1, ofName p.2))

end Viewsmith.Identifier
