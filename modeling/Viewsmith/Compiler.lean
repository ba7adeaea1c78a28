import Viewsmith.Element.Names
import Viewsmith.Module.Emit
import Viewsmith.Options

/-!
# The compiler

A compiler turns selections into modules, one after the other. It holds its options and the store of
assets, which every compilation starts afresh.

## Main definitions

* `Compiler`: options and assets.
* `Compiler.lower`: the tree of elements of a selection, with distinct names.
* `Compiler.compile`: the module of a selection, with the assets that it uses.
-/

namespace Viewsmith

/-- A compiled module and its assets. -/
structure Compiled where
  /-- The name of the exported function. -/
  name : String
  /-- The text of the module; empty when the selection is a blank element. -/
  code : String
  assets : Collected

/-- The name of the file of a module. -/
def Compiled.fileName (m : Compiled) : String := m.name ++ ".tsx"

/-- The outcome of a compilation, with what it warned about. -/
structure Outcome (α : Type) where
  result : Except CompileError α
  warnings : List Warning

/-- A compiler. -/
structure Compiler where
  options : Options := {}
  assets : Assets := {}

namespace Compiler

/-- A compiler with a catalog of its own. -/
def new (options : Options) (catalog : Catalog) : Compiler := ⟨options, { catalog }⟩

/-- The tree of elements of a selection. The assets that it uses stay in the store until the next
compilation. -/
def lower (c : Compiler) (scene : Scene) (root : Nat) (source : Source) :
    Outcome Element × Compiler :=
  let (result, log, assets) :=
    (scene.lower root source c.options.imageFills).run [] c.assets.clear
  (⟨result.map Element.distinct, log.reverse⟩, { c with assets })

/-- The module of a tree of elements. -/
def moduleOf (options : Options) (assets : Collected) (e : Element) : Compiled :=
  let name := options.componentName.getD (Text.capitalized e.name)
  ⟨name, e.emit options.indent name, assets⟩

/-- The module of a selection. The store is empty afterwards, whether it succeeds or not. -/
def compile (c : Compiler) (scene : Scene) (root : Nat) (source : Source) :
    Outcome Compiled × Compiler :=
  let (lowered, c) := c.lower scene root source
  (⟨lowered.result.map (moduleOf c.options c.assets.collected), lowered.warnings⟩,
    { c with assets := c.assets.clear })

end Compiler

end Viewsmith
