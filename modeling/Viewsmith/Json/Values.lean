import Viewsmith.Json.Number
import Viewsmith.Json.Quoted

/-!
# Whole values

A value is read to be held, or passed over. Both follow one grammar; they differ in what is made of
the parts. What is held may not nest deeper than a limit, and its numbers and strings have to be
such that they can be held.

## Main definitions

* `Json.Builder`: what is made of the parts of a value.
* `Json.holding`, `Json.skipping`: the two builders.
* `Json.Builder.value`: a value, with a limit on the nesting.
* `Json.readWithin`: the value of a whole text.
-/

namespace Viewsmith.Json

/-- What is made of the parts of a value. Numbers come after their sign, strings and keys after
their opening quote. -/
structure Builder (κ α : Type) where
  constant : Json → α
  number : (negative : Bool) → Reader α
  string : Reader α
  key : Reader κ
  list : List α → α
  object : List (κ × α) → α

/-- A value is held. -/
def holding : Builder String Json where
  constant v := v
  number := Json.number
  string := Json.text <$> Json.string
  key := Json.string
  list := Json.list
  object := Json.object

/-- A value is passed over. -/
def skipping : Builder Unit Unit where
  constant _ := ()
  number _ := skipNumber
  string := skipString
  key := skipString
  list _ := ()
  object _ := ()

/-- Read the rest of a word. -/
def word {α : Type} (a : α) : List Char → Reader α
  | [], cs => .ok (a, cs)
  | _ :: _, [] => .error .endOfText
  | expected :: rest, c :: cs => if c = expected then word a rest cs else .error .malformed

namespace Builder

variable {κ α : Type}

/-- A value that is neither a list nor an object. -/
def scalar (b : Builder κ α) : Reader α := fun cs =>
  match skipSpace cs with
  | [] => .error .endOfText
  | 'n' :: cs => word (b.constant .null) ['u', 'l', 'l'] cs
  | 't' :: cs => word (b.constant (.bool true)) ['r', 'u', 'e'] cs
  | 'f' :: cs => word (b.constant (.bool false)) ['a', 'l', 's', 'e'] cs
  | '-' :: cs => b.number true cs
  | '"' :: cs => b.string cs
  | c :: cs => if c.isDigit then b.number false (c :: cs) else .error .malformed

/-- A value in which lists and objects nest at most `room` deep, and none has more than `size`
members. -/
def value (b : Builder κ α) (size : Nat) : (room : Nat) → Reader α
  | 0 => b.scalar
  | room + 1 => fun cs =>
    match skipSpace cs with
    | '[' :: cs => (b.list <$> items (b.value size room) size true []) cs
    | '{' :: cs => (b.object <$> members b.key (b.value size room) size true []) cs
    | cs => b.scalar cs

end Builder

/-- Pass over a value in a text of no more than `size` characters, however deep. -/
def skip (size : Nat) : Reader Unit := skipping.value size size

/-- Read a text that holds one value and nothing else. -/
def readWithin (room : Nat) (text : String) : Except Fault Json :=
  let cs := text.toList
  whole (holding.value (cs.length + 1) room) cs

end Viewsmith.Json
