import Viewsmith.Json.Basic
import Viewsmith.Text.Lines

/-!
# Functions of templates

The two functions that a template of a module can call. Their arguments are JSON values; one that is
missing or of another shape is replaced by a default.
-/

namespace Viewsmith

/-- A function of templates. -/
inductive TemplateFunction where
  /-- Shift a text to the right by a number of spaces, two by default. -/
  | indent
  /-- Put a list of texts together with a separator, a comma by default. -/
  | join
  deriving Repr, DecidableEq

namespace TemplateFunction

/-- A text argument. -/
def text? : Option Json → Option String
  | some (.text s) => some s
  | _ => none

/-- A count argument: an integer that is not negative. -/
def count? : Option Json → Option Nat
  | some (.int n) => if 0 ≤ n then some n.toNat else none
  | _ => none

/-- The texts of a list argument; other items are left out. -/
def texts : Option Json → List String
  | some (.list items) => items.filterMap fun item => text? (some item)
  | _ => []

/-- The text that a function gives for its arguments. -/
def apply (args : List Json) : TemplateFunction → String
  | .indent => Text.indentBy ((count? args[1]?).getD 2) ((text? args[0]?).getD "")
  | .join => String.intercalate ((text? args[1]?).getD ", ") (texts args[0]?)

end TemplateFunction

end Viewsmith
