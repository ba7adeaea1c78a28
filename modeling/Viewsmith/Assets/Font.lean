import Viewsmith.Scene.Typography
import Viewsmith.Text.Bytes
import Viewsmith.Text.Case
import Viewsmith.Text.Occurs

/-!
# Fonts

A font is hosted when its family is in the catalog of the web-font service, and is otherwise bundled
with the application. A hosted font has a rule that imports it.

## Main definitions

* `Catalog`: the hosted families.
* `Font`: a font that was used, and where it comes from.
* `FontName.importRule`: the rule that imports a hosted font.
-/

namespace Viewsmith

/-- Where a font comes from. -/
inductive FontOrigin where
  | hosted
  | bundled
  deriving Repr, DecidableEq, Inhabited

/-- The families of the web-font service, each once. -/
structure Catalog where
  families : List String
  deriving Inhabited

namespace Catalog

/-- The catalog of a list of families. -/
def ofFamilies (families : List String) : Catalog := ⟨families.eraseDups⟩

/-- The catalog used when no other is given. -/
def builtin : Catalog := ofFamilies
  ["Roboto", "Open Sans", "Noto Sans", "Noto Sans JP", "Noto Sans KR", "Noto Serif", "Montserrat",
   "Lato", "Poppins", "Inter", "Roboto Condensed", "Roboto Mono", "Roboto Slab", "Oswald",
   "Raleway", "Nunito", "Nunito Sans", "Ubuntu", "Rubik", "Playfair Display", "Merriweather",
   "PT Sans", "PT Serif", "Work Sans", "Lora", "Mulish", "Fira Sans", "Quicksand", "Barlow",
   "Manrope", "DM Sans", "Kanit", "Heebo", "IBM Plex Sans", "IBM Plex Mono", "Karla",
   "Josefin Sans", "Libre Baskerville", "Source Code Pro", "Space Grotesk", "Space Mono",
   "Archivo", "Bebas Neue", "Outfit", "Plus Jakarta Sans", "Titillium Web", "Cabin", "Dosis",
   "Inconsolata", "Hind", "Arimo", "Bitter", "Crimson Text", "Dancing Script", "Pacifico",
   "Lobster", "Caveat", "Sora", "Lexend", "Figtree"]

/-- Whether a family is hosted. -/
def contains (catalog : Catalog) (family : String) : Bool := catalog.families.contains family

/-- Where the fonts of a family come from. -/
def origin (catalog : Catalog) (family : String) : FontOrigin :=
  if catalog.contains family then .hosted else .bundled

end Catalog

/-- A font that was used. -/
structure Font where
  origin : FontOrigin
  name : FontName
  deriving Repr, DecidableEq, Inhabited

/-! ### Import rules -/

namespace FontName

/-- The weights that words in the name of a style stand for. Compound words come before the words
that they contain. -/
def weights : List (String × Nat) :=
  [("thin", 100), ("extralight", 200), ("ultralight", 200), ("light", 300), ("medium", 500),
   ("semibold", 600), ("demibold", 600), ("extrabold", 800), ("ultrabold", 800), ("bold", 700),
   ("black", 900), ("heavy", 900)]

/-- A text in lower case. -/
def lowerCase (s : String) : List Char := s.toList.flatMap Text.lower

/-- The weight that the name of a style implies. -/
def weightOfStyle (style : String) : Nat :=
  let word := (lowerCase style).filter fun c => c ≠ ' ' && c ≠ '-'
  match weights.find? fun entry => Text.occurs entry.1.toList word with
  | some entry => entry.2
  | none => 400

/-- The bytes that stand for themselves in a query. -/
def isUnreserved (b : UInt8) : Bool :=
  let c := Char.ofNat b.toNat
  c.isAlphanum || "-_.!~*'()".toList.contains c

/-- An upper-case hexadecimal digit. -/
def upperHexDigit (n : Nat) : Char := (Nat.digitChar n).toUpper

/-- A byte of a family in a query: a space is a plus, other reserved bytes are escaped. -/
def encodeByte (b : UInt8) : List Char :=
  if b.toNat = 32 then ['+']
  else if isUnreserved b then [Char.ofNat b.toNat]
  else ['%', upperHexDigit (b.toNat / 16), upperHexDigit (b.toNat % 16)]

/-- A family as part of a query. -/
def encodeFamily (family : String) : String :=
  String.ofList ((Text.bytes family.toList).flatMap encodeByte)

/-- The part of the rule that names the weight, and the slant of an italic. -/
def axes (style : String) : String :=
  let weight := toString (weightOfStyle style)
  if Text.occurs "italic".toList (lowerCase style) then "ital,wght@1," ++ weight
  else "wght@" ++ weight

/-- The rule that imports a font from the web-font service. -/
def importRule (font : FontName) : String :=
  "@import url('https://fonts.googleapis.com/css2?family=" ++ encodeFamily font.family ++ ":"
    ++ axes font.style ++ "&display=swap');"

end FontName

/-- The rule that imports a font, if it is hosted. -/
def Font.importRule? (font : Font) : Option String :=
  match font.origin with
  | .hosted => some font.name.importRule
  | .bundled => none

end Viewsmith
