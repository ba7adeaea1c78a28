import Viewsmith.Json.Basic

/-!
# Readers

A reader takes characters off the front of a text and stops at the first fault, so that of several
faults the one that stands first in the text is found. This module has the readers of what stands
between values: blanks, colons, commas and brackets.

## Main definitions

* `Json.Reader`: a reader of a text.
* `Json.nextItem`, `Json.nextKey`: the way from one member of a list or an object to the next.
* `Json.items`, `Json.members`: all members, given a reader of one.
-/

namespace Viewsmith.Json

/-- A reader takes characters off a text. -/
abbrev Reader (α : Type) := StateT (List Char) (Except Fault) α

/-- The blanks between tokens. -/
def isSpace (c : Char) : Bool := c = ' ' || c = '\n' || c = '\r' || c = '\t'

/-- Drop blanks. -/
def skipSpace (cs : List Char) : List Char := cs.dropWhile isSpace

/-- Take a character that has to come next, blanks apart. -/
def expect (expected : Char) : Reader Unit := fun cs =>
  match skipSpace cs with
  | [] => .error .endOfText
  | c :: rest => if c = expected then .ok ((), rest) else .error .malformed

/-- After a comma there has to be another item. -/
def itemAfterComma : Reader Bool := fun cs =>
  match skipSpace cs with
  | [] => .error .endOfText
  | ']' :: _ => .error .malformed
  | rest => .ok (true, rest)

/-- Go to the next item of a list, or past its bracket; the result tells whether there is one. -/
def nextItem (first : Bool) : Reader Bool := fun cs =>
  match skipSpace cs with
  | [] => .error .endOfText
  | ']' :: rest => .ok (false, rest)
  | c :: rest =>
    if first then .ok (true, c :: rest)
    else if c = ',' then itemAfterComma rest
    else .error .malformed

/-- A key, given the reader of what follows its opening quote. -/
def quotedKey {κ : Type} (key : Reader κ) : Reader (Option κ) := fun cs =>
  match skipSpace cs with
  | [] => .error .endOfText
  | '"' :: rest => (some <$> key) rest
  | _ => .error .malformed

/-- Read the next key of an object, or go past its brace. -/
def nextKey {κ : Type} (key : Reader κ) (first : Bool) : Reader (Option κ) := fun cs =>
  match skipSpace cs with
  | [] => .error .endOfText
  | '}' :: rest => .ok (none, rest)
  | c :: rest =>
    if first then quotedKey key (c :: rest)
    else if c = ',' then quotedKey key rest
    else .error .malformed

/-- Read the items of a list after its bracket, `steps` at most; `before` holds those read so far,
backwards. -/
def items {α : Type} (item : Reader α) : (steps : Nat) → (first : Bool) → List α → Reader (List α)
  | 0, _, _ => throw .endOfText
  | steps + 1, first, before => do
    if ← nextItem first then
      let a ← item
      items item steps false (a :: before)
    else
      return before.reverse

/-- Read the members of an object after its brace, `steps` at most; `before` holds those read so
far, backwards. -/
def members {κ α : Type} (key : Reader κ) (item : Reader α) :
    (steps : Nat) → (first : Bool) → List (κ × α) → Reader (List (κ × α))
  | 0, _, _ => throw .endOfText
  | steps + 1, first, before => do
    match ← nextKey key first with
    | none => return before.reverse
    | some k =>
      expect ':'
      let a ← item
      members key item steps false ((k, a) :: before)

/-- The value of a whole text: only blanks may follow it. -/
def whole {α : Type} (reader : Reader α) (cs : List Char) : Except Fault α := do
  let (a, rest) ← reader cs
  if (skipSpace rest).isEmpty then return a else throw .malformed

end Viewsmith.Json
