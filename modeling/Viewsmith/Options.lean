import Viewsmith.Assets.Font
import Viewsmith.Json.Typed
import Viewsmith.Lowering.Build

/-!
# Options and catalogs

What can be chosen about a compilation, and the texts in which options and font catalogs are given.

## Main definitions

* `Options`, `Options.read`: the options of a compilation.
* `Catalog.read`: a font catalog.
-/

namespace Viewsmith

open Json

/-- The options of a compilation. -/
structure Options where
  imageFills : ImageFills := .css
  /-- Spaces for each level in the module. -/
  indent : Nat := 2
  /-- The name of the exported function; otherwise that of the root. -/
  componentName : Option String := none
  /-- The file of a font catalog. -/
  hostedFonts : Option String := none
  deriving Inhabited

/-- The fields of options. -/
def Options.fields : List (Typed.Field Options) :=
  [Typed.field "imageFills" (Typed.choice ImageFills.tags) fun v o => { o with imageFills := v },
   Typed.field "indent" (Typed.natBelow (Nat.pow 2 64)) fun v o => { o with indent := v },
   Typed.field "componentName" (Typed.option Typed.text) fun v o => { o with componentName := v },
   Typed.field "hostedFonts" (Typed.option Typed.text) fun v o => { o with hostedFonts := v }]

/-- Read options. -/
def Options.read : String → Except Fault Options :=
  Typed.document (Typed.record Options.fields {})

/-- The family of an item of a catalog. -/
def Catalog.item : Typed String :=
  Typed.record [Typed.requiredField "family" Typed.text fun family _ => family] ""

/-- The families of a catalog: a list of items that name them. -/
def Catalog.items : Typed (List String) :=
  Typed.record [Typed.requiredField "items" (Typed.list Catalog.item) fun families _ => families] []

/-- Read a catalog. -/
def Catalog.read (text : String) : Except Fault Catalog := do
  return Catalog.ofFamilies (← Typed.document Catalog.items text)

end Viewsmith
