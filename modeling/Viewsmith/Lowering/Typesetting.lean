import Viewsmith.Lowering.Painting
import Viewsmith.Lowering.Script
import Viewsmith.Style.Json
import Viewsmith.Text.TemplateLiteral

/-!
# Typesetting

The typography of a text node and the markup of its runs. The element of a text carries the
typography of its base run; every other run carries only what differs from it.

## Main definitions

* `Node.typography`: the properties of one run.
* `Node.baseStyle`: the typography of the element.
* `Node.richText`: the markup of the runs.
-/

namespace Viewsmith

/-- The word for an alignment in a style. -/
def TextAlignment.word : TextAlignment → String
  | .left => "left"
  | .right => "right"
  | .center => "center"
  | .justified => "justify"

/-- The space between letters in pixels, given the size of the font. -/
def LetterSpacing.inPixels (size : Float) : LetterSpacing → Float
  | .pixels value => value
  | .percent value => size * value / 100

/-- The height of lines in pixels, given the size of the font. -/
def LineHeight.inPixels? (size : Float) : LineHeight → Option Float
  | .auto => none
  | .pixels value => some value
  | .percent value => some (size * value / 100)

/-- The word for a decoration in a style. -/
def TextDecoration.word? : TextDecoration → Option String
  | .none => Option.none
  | .underline => some "underline"
  | .strikethrough => some "line-through"

namespace Node

/-- The color of a run: that of the node, or its own when the fills of the node differ along its
text. -/
def runColor? (node : Node) (run : TextRun) : Option String :=
  match node.fills with
  | .paints layers => solidColor? layers
  | .mixed => solidColor? run.fills

/-- The typography of a run. -/
def typography (node : Node) (text : TextContent) (run : TextRun) : Style :=
  ((((((((Style.empty.insert "textAlign" (.text text.alignment.word)).set "color"
    ((node.runColor? run).map .text)).insert "fontFamily" (.text run.font.family)).insert "fontSize"
    (.number run.size)).insert "fontWeight" (.text (toString run.weight))).insert "letterSpacing"
    (.number (run.letterSpacing.inPixels run.size))).set "lineHeight"
    ((run.lineHeight.inPixels? run.size).map .number)).set "textDecorationLine"
    (run.decoration.word?.map .text))

/-- The text of a node, unless it is empty. -/
def text? (node : Node) : Option TextContent := node.text.filter fun t => !t.characters.isEmpty

/-- The base run of a node with its text. -/
def baseRun? (node : Node) : Option (TextContent × TextRun) :=
  node.text?.bind fun text =>
    text.base?.bind fun i => (text.runs[i]?).map fun run => (text, run)

/-- The typography of the element of a text; its font is used. A text without characters or runs has
none. -/
def baseStyle (node : Node) : Script Style :=
  match node.baseRun? with
  | none => .done {}
  | some (text, run) => .font run.font (.done (node.typography text run))

/-- The properties of a style that are absent from the base or differ there. -/
def override (base style : Style) : Style :=
  Style.ofList (style.entries.filter fun e => !(base.get? e.1).any fun v => v.same e.2)

/-- The markup of characters, inside an element of their own when there is something to override. -/
def runMarkup (override : Style) (characters : String) : String :=
  if override.isEmpty then Text.TemplateLiteral.render characters
  else "<Text style=\x7b" ++ override.json ++ "\x7d>" ++ Text.TemplateLiteral.render characters
    ++ "</Text>"

/-- The runs of a text with their positions, in the order in which they start. -/
def orderedRuns (text : TextContent) : List (TextRun × Nat) :=
  text.runs.zipIdx.mergeSort fun a b => a.1.start ≤ b.1.start

/-- The markup of the runs, given the position and the typography of the base run. -/
def runsMarkup (node : Node) (text : TextContent) (baseIndex : Nat) (base : Style) :
    List (TextRun × Nat) → Script String
  | [] => .done ""
  | (run, i) :: rest =>
    let characters := text.runText run
    if i = baseIndex then
      (node.runsMarkup text baseIndex base rest).bind fun markup =>
        .done (Text.TemplateLiteral.render characters ++ markup)
    else
      .font run.font ((node.runsMarkup text baseIndex base rest).bind fun markup =>
        .done (runMarkup (override base (node.typography text run)) characters ++ markup))

/-- The markup inside the element of a text. -/
def richText (node : Node) : Script String :=
  match node.text? with
  | none => .done ""
  | some text =>
    match text.base? with
    | none => .done (Text.TemplateLiteral.render text.characters)
    | some i =>
      match text.runs[i]? with
      | none => .done (Text.TemplateLiteral.render text.characters)
      | some run =>
        .font run.font (node.runsMarkup text i (node.typography text run) (orderedRuns text))

end Node

end Viewsmith
