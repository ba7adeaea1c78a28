import Viewsmith.Assets.Font
import Viewsmith.Assets.Media

/-!
# Assets

The fonts and files that a compilation collects. A font is kept once for its name, a file once for
its hash; the first one stays.

## Main definitions

* `Assets`: the collected fonts and files, with the catalog that classifies fonts.
* `Assets.registerFont`, `Assets.keepMedia`: what a compilation records.
* `Assets.clear`, `Assets.collected`: the start and the end of a collection.
-/

namespace Viewsmith

/-- Fonts and files in the order in which they were first recorded. -/
structure Assets where
  catalog : Catalog := .builtin
  fonts : List Font := []
  media : List (String × Media) := []

/-- What a compilation has collected. -/
structure Collected where
  fonts : List Font := []
  media : List Media := []

namespace Assets

/-- Whether a font of this name is recorded. -/
def hasFont (assets : Assets) (name : FontName) : Bool := assets.fonts.any (·.name == name)

/-- Record a font, unless one of its name is recorded. -/
def keepFont (assets : Assets) (font : Font) : Assets :=
  if assets.hasFont font.name then assets else { assets with fonts := assets.fonts ++ [font] }

/-- Record a font that the catalog classifies. -/
def registerFont (assets : Assets) (name : FontName) : Assets :=
  assets.keepFont ⟨assets.catalog.origin name.family, name⟩

/-- The file that is recorded for a hash. -/
def media? (assets : Assets) (hash : String) : Option Media := assets.media.lookup hash

/-- Record the bytes of a hash, unless a file is recorded for it, and return the file. Bytes of no
recognized kind are not recorded. -/
def keepMedia (assets : Assets) (hash : String) (bytes : List UInt8) : Option Media × Assets :=
  match assets.media? hash with
  | some media => (some media, assets)
  | none =>
    match Media.ofBytes? hash bytes with
    | some media => (some media, { assets with media := assets.media ++ [(hash, media)] })
    | none => (none, assets)

/-- Forget what was recorded; the catalog stays. -/
def clear (assets : Assets) : Assets := { catalog := assets.catalog }

/-- Nothing but the catalog is left of a store. -/
theorem clear_congr {assets others : Assets} (h : assets.catalog = others.catalog) :
    assets.clear = others.clear := by
  unfold clear
  rw [h]

/-- What is recorded. -/
def collected (assets : Assets) : Collected := ⟨assets.fonts, assets.media.map Prod.snd⟩

end Assets

namespace Collected

/-- The rules that import the hosted fonts, in the order of first use. -/
def importRules (c : Collected) : List String := c.fonts.filterMap Font.importRule?

/-- The fonts that are bundled with the application. -/
def bundled (c : Collected) : List Font := c.fonts.filter (·.origin = .bundled)

/-- The style sheet that imports the hosted fonts and lists the bundled ones. -/
def fontsCss (c : Collected) : String :=
  String.join (c.importRules.map (· ++ "\n")) ++
    if c.bundled.isEmpty then ""
    else "/* local fonts: "
      ++ String.intercalate ", " (c.bundled.map fun f => f.name.family ++ " " ++ f.name.style)
      ++ " */\n"

end Collected

end Viewsmith
