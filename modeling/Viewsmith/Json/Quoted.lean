import Viewsmith.Json.Reader

/-!
# Quoted text

Reading a string, and passing over one. A string that is read has to pair the halves of its
surrogate pairs; one that is passed over need not.

## Main definitions

* `Json.string`: read a string after its opening quote.
* `Json.skipString`: pass over a string after its opening quote.
-/

namespace Viewsmith.Json

/-- The value of a hexadecimal digit. -/
def hexDigit? (c : Char) : Option Nat :=
  if '0' ≤ c && c ≤ '9' then some (c.toNat - 48)
  else if 'a' ≤ c && c ≤ 'f' then some (c.toNat - 87)
  else if 'A' ≤ c && c ≤ 'F' then some (c.toNat - 55)
  else none

/-- The value of four hexadecimal digits. -/
def hexUnit? (a b c d : Char) : Option Nat :=
  match hexDigit? a, hexDigit? b, hexDigit? c, hexDigit? d with
  | some a, some b, some c, some d => some (((a * 16 + b) * 16 + c) * 16 + d)
  | _, _, _, _ => none

/-- The fault of an escape that is cut short: the text ends too early only if fewer than four bytes
are left. -/
def shortEscape (cs : List Char) : Fault :=
  if (cs.map Char.utf8Size).foldr (· + ·) 0 < 4 then .endOfText else .malformed

/-- The character of a one-letter escape. -/
def simpleEscape? : Char → Option Char
  | '"' => some '"'
  | '\\' => some '\\'
  | '/' => some '/'
  | 'b' => some (Char.ofNat 8)
  | 'f' => some (Char.ofNat 12)
  | 'n' => some '\n'
  | 'r' => some '\r'
  | 't' => some '\t'
  | _ => none

/-- What an escaped code unit adds to a string: a first half of a surrogate pair that now waits for
its second, or a character. A half that finds no other half adds nothing. -/
def takeUnit? (half : Option Nat) (unit : Nat) : Option (Option Nat × List Char) :=
  let isFirst := 0xD800 ≤ unit && unit < 0xDC00
  let isSecond := 0xDC00 ≤ unit && unit < 0xE000
  match half with
  | none =>
    if isSecond then none
    else if isFirst then some (some unit, [])
    else some (none, [Char.ofNat unit])
  | some first =>
    if isSecond then
      some (none, [Char.ofNat (0x10000 + (first - 0xD800) * 0x400 + (unit - 0xDC00))])
    else none

/-- Read a string after its opening quote: `half` is a first half that waits for its second, which
has to come at once, and `before` holds the characters read so far, backwards. -/
def stringBody : (half : Option Nat) → (before : List Char) → Reader String
  | _, _, [] => .error .endOfText
  | half, before, '\\' :: 'u' :: a :: b :: c :: d :: cs =>
    match (hexUnit? a b c d).bind (takeUnit? half) with
    | some (half, chars) => stringBody half (chars ++ before) cs
    | none => .error .malformed
  | _, _, '\\' :: 'u' :: cs => .error (shortEscape cs)
  | _, _, ['\\'] => .error .endOfText
  | some _, _, _ :: _ => .error .malformed
  | none, before, '"' :: cs => .ok (String.ofList before.reverse, cs)
  | none, before, '\\' :: e :: cs =>
    match simpleEscape? e with
    | some c => stringBody none (c :: before) cs
    | none => .error .malformed
  | none, before, c :: cs =>
    if c.toNat < 32 then .error .malformed else stringBody none (c :: before) cs

/-- Read a string after its opening quote. -/
def string : Reader String := stringBody none []

/-- Pass over a string after its opening quote. -/
def skipString : Reader Unit
  | [] => .error .endOfText
  | '\\' :: 'u' :: a :: b :: c :: d :: cs =>
    match hexUnit? a b c d with
    | some _ => skipString cs
    | none => .error .malformed
  | '\\' :: 'u' :: cs => .error (shortEscape cs)
  | ['\\'] => .error .endOfText
  | '"' :: cs => .ok ((), cs)
  | '\\' :: e :: cs =>
    match simpleEscape? e with
    | some _ => skipString cs
    | none => .error .malformed
  | c :: cs => if c.toNat < 32 then .error .malformed else skipString cs

end Viewsmith.Json
