/-!
# Style values

A property of a style holds a number, a text, a list or a record of named values.

Equality of values is the equality of a style sheet: numbers are compared as doubles, so that a
value holding no number differs from itself and the two zeros agree, and records are compared
without regard to the order of their fields.

## Main definitions

* `Value`: a style value.
* `Value.same`: equality of values.
* `Value.isNumber`, `Value.isText`: comparison with a number and with a text.
-/

namespace Viewsmith

/-- The value of a style property. -/
inductive Value where
  | number (x : Float)
  | text (s : String)
  | list (items : List Value)
  | record (fields : List (String × Value))
  deriving Inhabited

namespace Value

instance : Coe Float Value := ⟨.number⟩

instance : Coe String Value := ⟨.text⟩

/-- The number that a value holds. -/
def number? : Value → Option Float
  | .number x => some x
  | _ => none

/-- The text that a value holds. -/
def text? : Value → Option String
  | .text s => some s
  | _ => none

/-- Whether the value is the number `x`. -/
def isNumber (x : Float) : Value → Bool
  | .number y => y == x
  | _ => false

/-- Whether the value is the text `s`. -/
def isText (s : String) : Value → Bool
  | .text t => t == s
  | _ => false

mutual

/-- Equality of values. -/
def same : Value → Value → Bool
  | .number x, .number y => x == y
  | .text s, .text t => s == t
  | .list vs, .list ws => sameItems vs ws
  | .record fs, .record gs => fs.length == gs.length && sameFields fs gs
  | _, _ => false

/-- Equality of lists, item by item. -/
def sameItems : List Value → List Value → Bool
  | [], [] => true
  | v :: vs, w :: ws => v.same w && sameItems vs ws
  | _, _ => false

/-- Whether each field has an equal one of the same name in `gs`. -/
def sameFields : List (String × Value) → List (String × Value) → Bool
  | [], _ => true
  | (key, v) :: fs, gs =>
    (match gs.lookup key with
      | some w => v.same w
      | none => false) && sameFields fs gs

end

end Value

end Viewsmith
