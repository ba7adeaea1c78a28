import Viewsmith.Scene.Kind

/-!
# Errors and sources

Why a compilation fails, and what the design tool answers when it is asked for artwork and images.

## Main definitions

* `CompileError`: the causes for which a compilation stops.
* `Source`: the answers of the design tool.

## Main statements

* `Except.map_eq_ok_iff`, `Except.bind_eq_ok_iff`: where a value comes from.
-/

namespace Viewsmith

/-! ### Values or errors -/

namespace Except

variable {ε α β : Type}

/-- A value comes out of a map if one went in. -/
theorem map_eq_ok_iff {f : α → β} {x : Except ε α} {b : β} :
    x.map f = .ok b ↔ ∃ a, x = .ok a ∧ f a = b := by
  cases x with
  | error e => simp [Except.map]
  | ok a => simp [Except.map]

/-- A value comes out of two steps if both have one. -/
theorem bind_eq_ok_iff {f : α → Except ε β} {x : Except ε α} {b : β} :
    (x >>= f) = .ok b ↔ ∃ a, x = .ok a ∧ f a = .ok b := by
  cases x with
  | error e => exact iff_of_false (fun h => by cases h) (by simp)
  | ok a => exact ⟨fun h => ⟨a, rfl, h⟩, fun ⟨_, hx, h⟩ => Except.ok.inj hx ▸ h⟩

/-- What is not an error is a value. -/
theorem exists_of_isOk {x : Except ε α} (h : x.isOk = true) : ∃ a, x = .ok a := by
  cases x with
  | error e => cases h
  | ok a => exact ⟨a, rfl⟩

/-- Two answers that agree up to their errors are the same value or are both errors. -/
theorem cases_of_toOption_eq {x y : Except ε α} (h : x.toOption = y.toOption) :
    (∃ a, x = .ok a ∧ y = .ok a) ∨ ∃ e e', x = .error e ∧ y = .error e' := by
  cases x with
  | ok a =>
    cases y with
    | ok b => exact Or.inl ⟨a, rfl, by rw [Option.some.inj h]⟩
    | error e => cases h
  | error e =>
    cases y with
    | ok b => cases h
    | error e' => exact Or.inr ⟨e, e', rfl, rfl⟩

end Except

/-! ### Causes and sources -/

/-- The text of the number of a node. -/
def nodeLabel (id : Nat) : String := "#" ++ toString id

/-- Why a compilation stops. -/
inductive CompileError where
  /-- A set of variants was reached. -/
  | componentSet (name : String)
  /-- A node of an unknown kind was reached. -/
  | invalidKind (kind : Kind)
  /-- The selected node cannot stand alone. -/
  | unsupportedRoot (kind : Kind)
  /-- A node other than a text has fills that differ along its text. -/
  | mixedFills (kind : Kind) (name : String)
  /-- There is no node of this number. -/
  | unknownNode (id : Nat)
  deriving Repr, DecidableEq

namespace CompileError

/-- The code of an error. -/
def code : CompileError → String
  | .componentSet _ => "COMPONENT_SET_IN_THE_NODE"
  | .invalidKind _ => "INVALID_NODE_TYPE"
  | .unsupportedRoot _ => "UNSUPPORTED_ROOT"
  | .mixedFills _ _ => "DATA_INCONSISTENCY"
  | .unknownNode _ => "UNKNOWN_NODE"

/-- What the error is about. -/
def detail : CompileError → String
  | .componentSet name => name
  | .invalidKind kind => kind.tag
  | .unsupportedRoot kind => kind.tag
  | .mixedFills kind name => "mixed fills on " ++ kind.tag ++ " node '" ++ name ++ "'"
  | .unknownNode id => nodeLabel id

/-- The text of an error: its code and its detail. -/
def message (e : CompileError) : String := e.code ++ "::" ++ e.detail

/-- The explanation for the designer. -/
def userMessage : CompileError → String
  | .componentSet _ =>
    "A variant set cannot be converted. Select a single variant or an instance of it."
  | .invalidKind _ | .unsupportedRoot _ =>
    "The selection cannot be converted. Select a frame, group, rectangle, component or instance."
  | e => e.message

end CompileError

/-- Why the design tool gave no answer. -/
inductive SourceError where
  | exportUnavailable (id : Nat)
  | exportFailed (id : Nat) (reason : String)
  | imageFetch (hash : String) (reason : String)
  deriving Repr, DecidableEq

/-- The text of an error. -/
def SourceError.message : SourceError → String
  | .exportUnavailable id => "vector export is not available for node " ++ nodeLabel id
  | .exportFailed id reason => "vector export failed for node " ++ nodeLabel id ++ ": " ++ reason
  | .imageFetch hash reason => "failed to fetch image " ++ hash ++ ": " ++ reason

/-- What the design tool answers: the artwork of a node, and the bytes of an image if it has it. -/
structure Source where
  artwork : Nat → Except SourceError String
  image : String → Except SourceError (Option (List UInt8))

/-- The source that has neither artwork nor images. -/
def Source.none : Source where
  artwork id := .error (.exportUnavailable id)
  image _ := .ok Option.none

end Viewsmith
