import Viewsmith.Assets.Basic
import Viewsmith.Error
import Viewsmith.Scene.Arrangement

/-!
# Scripts

A script is a computation that asks for the store of assets step by step: it records fonts, looks
files up, offers bytes to be kept, and warns. The requests are data, so that the same script can be
performed at once, or a step at a time beside others.

## Main definitions

* `Warning`: what a compilation warns about.
* `Script`: a computation with its requests.
* `Script.run`: perform all requests of a script in order.
-/

namespace Viewsmith

/-- An axis of the plane. -/
inductive Axis where
  | vertical
  | horizontal
  deriving Repr, DecidableEq

/-- The name of an axis. -/
def Axis.name : Axis → String
  | .vertical => "vertical"
  | .horizontal => "horizontal"

/-- What a compilation warns about. -/
inductive Warning where
  /-- The constraint of an axis is not supported. -/
  | anchor (node : String) (axis : Axis) (constraint : Constraint)
  /-- An image could not be fetched. -/
  | fetch (node hash error : String)
  /-- The bytes of an image are of no known kind. -/
  | unknownImage (node hash : String)
  /-- Artwork could not be exported. -/
  | exportFailed (node error : String)
  deriving Repr, DecidableEq

/-- The text for bytes of no known kind. -/
def unknownImageType : String := "Unknown image type"

/-- The fields of a warning, its message first. -/
def Warning.fields : Warning → List (String × String)
  | .anchor node axis constraint =>
    [("message", "constraint is not supported, anchoring to the far edge"), ("node", node),
      ("axis", axis.name), ("constraint", constraint.word)]
  | .fetch node hash error =>
    [("message", "image fetch failed"), ("node", node), ("hash", hash), ("error", error)]
  | .unknownImage node hash =>
    [("message", "image layer dropped"), ("node", node), ("hash", hash),
      ("error", unknownImageType)]
  | .exportFailed node error =>
    [("message", "vector export failed, emitting blank"), ("node", node), ("error", error)]

/-- A computation that makes requests to the store of assets. -/
inductive Script (α : Type) where
  | done (result : α)
  | fail (error : CompileError)
  /-- Record a font. -/
  | font (name : FontName) (next : Script α)
  /-- Look up the file of a hash. -/
  | recall (hash : String) (next : Option Media → Script α)
  /-- Offer the bytes of a hash, and get the file that is kept for it. -/
  | keep (hash : String) (bytes : List UInt8) (next : Option Media → Script α)
  | warn (warning : Warning) (next : Script α)

namespace Script

variable {α β : Type}

/-- Go on with the result. -/
def bind : Script α → (α → Script β) → Script β
  | .done a, f => f a
  | .fail e, _ => .fail e
  | .font name next, f => .font name (next.bind f)
  | .recall hash next, f => .recall hash fun media => (next media).bind f
  | .keep hash bytes next, f => .keep hash bytes fun media => (next media).bind f
  | .warn w next, f => .warn w (next.bind f)

instance : Monad Script where
  pure := .done
  bind := bind

/-- Warn about everything in a list. -/
def warnAll : List Warning → Script Unit
  | [] => .done ()
  | w :: ws => .warn w (warnAll ws)

/-- Perform scripts one after the other. -/
def inOrder : List (Script α) → Script (List α)
  | [] => .done []
  | s :: ss => s.bind fun a => (inOrder ss).bind fun as => .done (a :: as)

/-- Perform all requests of a script in order: the result, the warnings so far (the last one first),
and the assets. -/
def run : Script α → List Warning → Assets → Except CompileError α × List Warning × Assets
  | .done a, log, assets => (.ok a, log, assets)
  | .fail e, log, assets => (.error e, log, assets)
  | .font name next, log, assets => next.run log (assets.registerFont name)
  | .recall hash next, log, assets => (next (assets.media? hash)).run log assets
  | .keep hash bytes next, log, assets =>
    (next (assets.keepMedia hash bytes).1).run log (assets.keepMedia hash bytes).2
  | .warn w next, log, assets => next.run (w :: log) assets

end Script

end Viewsmith
