import Viewsmith.Json.Decode
import Viewsmith.Json.Values

/-!
# Typed readers

Readers that know what they are looking for, and take it off the text without holding the whole of
it. Of several faults, also of faults in the shape, the first in the text is found. What is not
asked for is passed over.

## Main definitions

* `Json.Limits`, `Json.Typed`: a reader, given how far the text may nest.
* `Json.Typed.record`: a record, as an object or as a list of its fields.
* `Json.Typed.choice`: a choice between tags.
* `Json.Typed.document`: the value of a whole text.
-/

namespace Viewsmith.Json

/-- Lists and objects may nest `room` deep, and none has more than `size` members. -/
structure Limits where
  room : Nat
  size : Nat

/-- A reader that knows what it is looking for. -/
abbrev Typed (α : Type) := Limits → Reader α

/-- The deepest nesting of lists and objects in a document. -/
def maxDepth : Nat := 127

namespace Typed

variable {α : Type}

/-- Read what stands inside a bracket. -/
def inside (inner : Typed α) : Typed α := fun limits =>
  match limits.room with
  | 0 => throw .malformed
  | room + 1 => inner { limits with room }

/-- A value that is neither a list nor an object, which are of another shape. -/
def plain : Reader Json := fun cs =>
  match skipSpace cs with
  | '[' :: _ => .error .shape
  | '{' :: _ => .error .shape
  | cs => holding.scalar cs

/-- The fault of finding another shape. A number, a string or a word is read before it is
refused. -/
def mismatch : Reader α := do
  let _ ← plain
  throw .shape

/-- A string. -/
def text : Typed String := fun _ => do
  match ← plain with
  | .text s => return s
  | _ => throw .shape

/-- An integer from zero to below `bound`. -/
def natBelow (bound : Nat) : Typed Nat := fun _ => do
  match toNatBelow bound (← plain) with
  | .ok n => return n
  | .error fault => throw fault

/-- A value or nothing. -/
def option (item : Typed α) : Typed (Option α) := fun limits cs =>
  match skipSpace cs with
  | 'n' :: cs => word none ['u', 'l', 'l'] cs
  | cs => (some <$> item limits) cs

/-- A list. -/
def list (item : Typed α) : Typed (List α) := fun limits cs =>
  match skipSpace cs with
  | '[' :: cs => inside (fun limits => items (item limits) limits.size true []) limits cs
  | cs => mismatch cs

/-- A table of strings. A repeated key keeps its first position and its last value. -/
def table : Typed (List (String × String)) := fun limits cs =>
  match skipSpace cs with
  | '{' :: cs =>
    (distinctFields <$>
      inside (fun limits => members string (text limits) limits.size true []) limits) cs
  | cs => mismatch cs

/-! ### Choices -/

/-- The tag of a choice that is known. -/
def tag (tags : List (String × α)) : Reader α := do
  match ← plain with
  | .text s =>
    match chosen tags s with
    | .ok a => return a
    | .error fault => throw fault
  | _ => throw .shape

/-- The nothing that a tag is given. -/
def nothing : Reader Unit := do
  match ← plain with
  | .null => return ()
  | _ => throw .shape

/-- A choice between tags: the tag itself, or an object that gives the tag nothing. What can be
neither is malformed. -/
def choice (tags : List (String × α)) : Typed α := fun limits cs =>
  match skipSpace cs with
  | [] => .error .endOfText
  | '"' :: cs => tag tags ('"' :: cs)
  | '{' :: cs =>
    inside (fun _ => do
      let a ← tag tags
      expect ':'
      nothing
      expect '}'
      return a) limits cs
  | _ => .error .malformed

/-! ### Records -/

/-- A field of a record: how its value changes what is being read. -/
structure Field (σ : Type) where
  name : String
  required : Bool := false
  read : Typed (σ → σ)

/-- A field whose value is put into what is being read. -/
def field {σ : Type} (name : String) (item : Typed α) (put : α → σ → σ) : Field σ :=
  { name, read := fun limits => put <$> item limits }

/-- A field that has to be there. -/
def requiredField {σ : Type} (name : String) (item : Typed α) (put : α → σ → σ) : Field σ :=
  { field name item put with required := true }

/-- Read the fields of a record that is written as a list, after its bracket. Nothing may follow the
last field. -/
def inOrder {σ : Type} : List (Field σ) → (first : Bool) → σ → Typed σ
  | [], _, s => fun _ => do
    expect ']'
    return s
  | f :: fs, first, s => fun limits => do
    if ← nextItem first then
      let change ← f.read limits
      inOrder fs false (change s) limits
    else if (f :: fs).any (·.required) then throw .shape
    else return s

/-- Read the members of a record that is written as an object, after its brace, and note the fields
that are seen. A field that was seen may not come again; what is no field is passed over. -/
def byName {σ : Type} (fields : List (Field σ)) :
    (steps : Nat) → (first : Bool) → (seen : List String) → σ → Typed (σ × List String)
  | 0, _, _, _ => fun _ => throw .endOfText
  | steps + 1, first, seen, s => fun limits => do
    match ← nextKey string first with
    | none => return (s, seen)
    | some key =>
      match fields.find? (·.name == key) with
      | none =>
        expect ':'
        skip limits.size
        byName fields steps false seen s limits
      | some f =>
        if seen.contains key then throw .shape
        expect ':'
        let change ← f.read limits
        byName fields steps false (key :: seen) (change s) limits

/-- The object of a record, after its brace. -/
def named {σ : Type} (fields : List (Field σ)) (start : σ) : Typed σ := fun limits => do
  let (s, seen) ← byName fields limits.size true [] start limits
  if fields.any fun f => f.required && !seen.contains f.name then throw .shape
  return s

/-- A record: an object, or a list of its fields in order. Fields change what is read from `start`
on. -/
def record {σ : Type} (fields : List (Field σ)) (start : σ) : Typed σ := fun limits cs =>
  match skipSpace cs with
  | '[' :: cs => inside (inOrder fields true start) limits cs
  | '{' :: cs => inside (named fields start) limits cs
  | cs => mismatch cs

/-- The value of a whole text. -/
def document (reader : Typed α) (text : String) : Except Fault α :=
  let cs := text.toList
  whole (reader ⟨maxDepth, cs.length + 1⟩) cs

end Typed

end Viewsmith.Json
