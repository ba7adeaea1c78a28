import Viewsmith.Scene.Paint
import Viewsmith.Text.Units

/-!
# Text in a scene

A text node holds its characters and the runs that divide them into ranges of one typography.
Offsets count units of sixteen bits.
-/

namespace Viewsmith

/-- The name of a font: its family and its style. -/
structure FontName where
  family : String
  style : String
  deriving Repr, DecidableEq, Inhabited

/-- The space between letters. -/
inductive LetterSpacing where
  | pixels (value : Float)
  | percent (value : Float)
  deriving Inhabited

/-- The height of lines. -/
inductive LineHeight where
  | auto
  | pixels (value : Float)
  | percent (value : Float)
  deriving Inhabited

/-- A line drawn with the text. -/
inductive TextDecoration where
  | none
  | underline
  | strikethrough
  deriving Repr, DecidableEq, Inhabited

/-- The tags of decorations. -/
def TextDecoration.tags : List (String × TextDecoration) :=
  [("NONE", .none), ("UNDERLINE", .underline), ("STRIKETHROUGH", .strikethrough)]

/-- How lines are aligned. -/
inductive TextAlignment where
  | left
  | right
  | center
  | justified
  deriving Repr, DecidableEq, Inhabited

/-- The tags of alignments. -/
def TextAlignment.tags : List (String × TextAlignment) :=
  [("LEFT", .left), ("RIGHT", .right), ("CENTER", .center), ("JUSTIFIED", .justified)]

/-- A range of characters with one typography, from `start` to before `stop`. -/
structure TextRun where
  start : Nat
  stop : Nat
  font : FontName
  size : Float
  weight : Nat := 400
  letterSpacing : LetterSpacing := .pixels 0
  lineHeight : LineHeight := .auto
  decoration : TextDecoration := .none
  fills : List Paint := []
  deriving Inhabited

/-- What a text node holds. -/
structure TextContent where
  characters : String
  alignment : TextAlignment := .left
  maxLines : Option Nat := none
  runs : List TextRun := []
  deriving Inhabited

namespace TextContent

/-- The characters that a run covers. -/
def runText (text : TextContent) (run : TextRun) : String :=
  Text.slice text.characters run.start run.stop

/-- The position of the first run that starts the text. -/
def leading? (text : TextContent) : Option Nat :=
  text.runs.findIdx? (·.start == 0)

/-- The position of the first run that starts no later than the others. -/
def earliest? (text : TextContent) : Option Nat :=
  (text.runs.map (·.start)).min?.bind fun start => text.runs.findIdx? (·.start == start)

/-- The position of the run that gives the text its base typography: the one that starts the text,
else the earliest. -/
def base? (text : TextContent) : Option Nat := text.leading?.or text.earliest?

end TextContent

end Viewsmith
