import Viewsmith.Json.Basic

/-!
# Decoding JSON

Readers of JSON values that are held. A record is written as an object, or as a list of its fields
in order; a field that has a default may be left out. A choice is written as its tag, or as an
object that gives the tag nothing. A tagged record names its kind in one of its fields, or in front
of the others.

## Main definitions

* `Json.Decoder`: a reader of values.
* `Json.record`: the fields of a record.
* `Json.choice`: a choice between tags.
* `Json.tagged`: the kind and the rest of a tagged record.
-/

namespace Viewsmith.Json

/-- A reader of values. -/
abbrev Decoder (α : Type) := Json → Except Fault α

/-! ### Simple values -/

/-- A number. -/
def toFloat : Decoder Float
  | .int n => .ok (Float.ofInt n)
  | .float x => .ok x
  | _ => .error .shape

/-- An integer from zero to below `bound`. -/
def toNatBelow (bound : Nat) : Decoder Nat
  | .int n => if 0 ≤ n ∧ n < bound then .ok n.toNat else .error .shape
  | _ => .error .shape

/-- A truth value. -/
def toBool : Decoder Bool
  | .bool b => .ok b
  | _ => .error .shape

/-- A string. -/
def toText : Decoder String
  | .text s => .ok s
  | _ => .error .shape

/-- A value or nothing. -/
def toOption {α : Type} (item : Decoder α) : Decoder (Option α)
  | .null => .ok none
  | v => (item v).map some

/-- A list. -/
def toList {α : Type} (item : Decoder α) : Decoder (List α)
  | .list items => items.mapM item
  | _ => .error .shape

/-- Write a field; one that is present keeps its position. -/
def putField {α : Type} (key : String) (value : α) : List (String × α) → List (String × α)
  | [] => [(key, value)]
  | (k, v) :: rest => if k = key then (key, value) :: rest else (k, v) :: putField key value rest

/-- Fields with each key once: in its first position, with its last value. -/
def distinctFields {α : Type} (fields : List (String × α)) : List (String × α) :=
  fields.foldl (fun acc (key, v) => putField key v acc) []

/-- A table of strings. A repeated key keeps its first position and its last value. -/
def toTable : Decoder (List (String × String))
  | .object fields => do
    let pairs ← fields.mapM fun (key, v) => (toText v).map (key, ·)
    return distinctFields pairs
  | _ => .error .shape

/-- The choice of a tag. -/
def chosen {α : Type} (tags : List (String × α)) (tag : String) : Except Fault α :=
  ((tags.lookup tag).map .ok).getD (.error .shape)

/-- A choice between tags: the tag itself, or an object that gives the tag nothing or an object
without fields. -/
def choice {α : Type} (tags : List (String × α)) : Decoder α
  | .text s => chosen tags s
  | .object [(key, .null)] => chosen tags key
  | .object [(key, .object [])] => chosen tags key
  | _ => .error .shape

/-! ### Records -/

/-- The known fields of a record. -/
abbrev Fields := List (String × Json)

/-- The known fields of an object. Unknown fields are passed over; a known one may not be
repeated. -/
def knownFields (names : List String) : List (String × Json) → Except Fault Fields
  | [] => .ok []
  | (key, v) :: rest =>
    if names.contains key then
      if rest.any (·.1 == key) then .error .shape else (knownFields names rest).map ((key, v) :: ·)
    else knownFields names rest

/-- The fields of a record: an object, or a list of values in the order of the names, of which there
may be no more than names. -/
def record (names : List String) : Decoder Fields
  | .object fields => knownFields names fields
  | .list items => if items.length ≤ names.length then .ok (names.zip items) else .error .shape
  | _ => .error .shape

namespace Fields

/-- A field that has to be there. -/
def required {α : Type} (fields : Fields) (key : String) (item : Decoder α) : Except Fault α :=
  match fields.lookup key with
  | some v => item v
  | none => .error .shape

/-- A field with a default. -/
def withDefault {α : Type} (fields : Fields) (key : String) (default : α) (item : Decoder α) :
    Except Fault α :=
  match fields.lookup key with
  | some v => item v
  | none => .ok default

end Fields

/-- The position of a tag: its name, or the position itself. Positions beyond the tags are those of
no tag. -/
def tagIndex (tags : List String) : Decoder (Option Nat)
  | .text s => .ok (tags.idxOf? s)
  | .int n => if 0 ≤ n then .ok (if n < tags.length then some n.toNat else none) else .error .shape
  | _ => .error .shape

/-- The kind of a tagged record, as the position of its tag, and the rest of the record. -/
def tagged (field : String) (tags : List String) : Decoder (Option Nat × Json)
  | .object fields =>
    match fields.filter (·.1 == field) with
    | [(_, tag)] => do
      let index ← tagIndex tags tag
      return (index, .object (fields.filter (·.1 != field)))
    | _ => .error .shape
  | .list (tag :: rest) => do
    let index ← tagIndex tags tag
    return (index, .list rest)
  | _ => .error .shape

/-- The rest of a tagged record that has no fields: anything in an object, nothing in a list. -/
def noFields : Decoder Unit
  | .object _ => .ok ()
  | .list [] => .ok ()
  | _ => .error .shape

end Viewsmith.Json
