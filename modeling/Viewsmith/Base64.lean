import Viewsmith.Text.Bytes
import Viewsmith.Text.Lines

/-!
# Base64

Bytes are written in groups of three as four symbols of six bits. The last group may be shorter; it
is filled up with `=` and its unused bits are zero.

## Main definitions

* `Base64.encode`: the text of bytes.
* `Base64.decode`: the bytes of a text, or why it has none.
* `Base64.decodeImage`: the bytes of an image, given plainly or behind a `data:` header.
-/

namespace Viewsmith.Base64

/-- Why a text is not the text of bytes. -/
inductive Fault where
  | symbol (byte : UInt8) (offset : Nat)
  | length (n : Nat)
  | padding
  /-- The last symbol has bits that no byte takes up. -/
  | lastSymbol (byte : UInt8) (offset : Nat)
  deriving Repr, DecidableEq

/-- The text of a fault. -/
def Fault.message : Fault → String
  | .symbol byte offset =>
    "Invalid symbol " ++ toString byte.toNat ++ ", offset " ++ toString offset ++ "."
  | .length n => "Invalid input length: " ++ toString n
  | .padding => "Invalid padding"
  | .lastSymbol byte offset =>
    "Invalid last symbol " ++ toString byte.toNat ++ ", offset " ++ toString offset ++ "."

/-- The byte that fills up the last group. -/
def pad : UInt8 := 61

/-- The value of a symbol. -/
def value? (b : UInt8) : Option Nat :=
  let n := b.toNat
  if 65 ≤ n && n ≤ 90 then some (n - 65)
  else if 97 ≤ n && n ≤ 122 then some (n - 71)
  else if 48 ≤ n && n ≤ 57 then some (n + 4)
  else if n = 43 then some 62
  else if n = 47 then some 63
  else none

/-- The symbol of a value. -/
def symbol (n : Nat) : UInt8 :=
  if n < 26 then (n + 65).toUInt8
  else if n < 52 then (n + 71).toUInt8
  else if n < 62 then (n - 4).toUInt8
  else if n = 62 then 43
  else 47

/-- The text of bytes. -/
def encode : List UInt8 → List UInt8
  | [] => []
  | [a] => [symbol (a.toNat / 4), symbol (a.toNat % 4 * 16), pad, pad]
  | [a, b] =>
    [symbol (a.toNat / 4), symbol (a.toNat % 4 * 16 + b.toNat / 16), symbol (b.toNat % 16 * 4), pad]
  | a :: b :: c :: rest =>
    symbol (a.toNat / 4) :: symbol (a.toNat % 4 * 16 + b.toNat / 16)
      :: symbol (b.toNat % 16 * 4 + c.toNat / 64) :: symbol (c.toNat % 64) :: encode rest

/-- The bytes of six-bit values. Two and three values at the end give one and two bytes. -/
def pack : List Nat → List UInt8
  | a :: b :: c :: d :: rest =>
    (a * 4 + b / 16).toUInt8 :: (b % 16 * 16 + c / 4).toUInt8 :: (c % 4 * 64 + d).toUInt8
      :: pack rest
  | [a, b, c] => [(a * 4 + b / 16).toUInt8, (b % 16 * 16 + c / 4).toUInt8]
  | [a, b] => [(a * 4 + b / 16).toUInt8]
  | _ => []

/-- The values of symbols that start at an offset. -/
def values (offset : Nat) : List UInt8 → Except Fault (List Nat)
  | [] => .ok []
  | b :: bs =>
    match value? b with
    | none => .error (.symbol b offset)
    | some v => (values (offset + 1) bs).map (v :: ·)

/-- The values in the last group, and how much of it is filled up. `index` counts the bytes of the
group, and `filled` holds the offset of the first filling byte and their number. -/
def lastGroup (start index : Nat) (filled : Option (Nat × Nat)) :
    List UInt8 → Except Fault (List Nat × Nat)
  | [] => .ok ([], (filled.map Prod.snd).getD 0)
  | b :: bs =>
    if b = pad then
      match filled with
      | some (first, count) => lastGroup start (index + 1) (some (first, count + 1)) bs
      | none =>
        if index < 2 then .error (.symbol pad (start + index))
        else lastGroup start (index + 1) (some (start + index, 1)) bs
    else
      match filled with
      -- the fault is the filling that came too early, not the byte after it
      | some (first, _) => .error (.symbol pad first)
      | none =>
        match value? b with
        | none => .error (.symbol b (start + index))
        | some v => (lastGroup start (index + 1) none bs).map fun (vs, count) => (v :: vs, count)

/-- Whether the last value of a group has bits that no byte takes up. -/
def hasLooseBits : List Nat → Bool
  | [_, b] => b % 16 ≠ 0
  | [_, _, c] => c % 4 ≠ 0
  | _ => false

/-- Check the last group. -/
def checkGroup (start : Nat) (group : List UInt8) (vs : List Nat) (count : Nat) :
    Except Fault Unit :=
  if vs.length < 2 then .error (.length (start + vs.length))
  else if (vs.length + count) % 4 ≠ 0 then .error .padding
  else if hasLooseBits vs then
    .error (.lastSymbol (group.getD (vs.length - 1) 0) (start + vs.length - 1))
  else .ok ()

/-- A byte left over alone that is no symbol is reported before all else. -/
def checkLeftOver (text : List UInt8) : Except Fault Unit :=
  match text.getLast? with
  | none => .ok ()
  | some b =>
    if text.length % 4 = 1 && b ≠ pad && (value? b).isNone then
      .error (.symbol b (text.length - 1))
    else .ok ()

/-- The bytes of a text. -/
def decode (text : List UInt8) : Except Fault (List UInt8) := do
  checkLeftOver text
  if text.isEmpty then return []
  -- the last group is never empty: a text of full groups has four bytes in it
  let start := (text.length - 1) / 4 * 4
  let front ← values 0 (text.take start)
  let group := text.drop start
  let (vs, count) ← lastGroup start 0 none group
  checkGroup start group vs count
  return pack (front ++ vs)

/-! ### Images -/

/-- What follows the header of a data address: the text behind the first comma. -/
def afterComma (cs : List Char) : List Char :=
  match cs.dropWhile (· ≠ ',') with
  | [] => cs
  | _ :: rest => rest

/-- The text of the bytes of an image, without a header and without blanks around it. -/
def payload (text : String) : List Char :=
  let cs := text.toList
  let header := "data:".toList
  Text.trim (if header.isPrefixOf cs then afterComma (cs.drop header.length) else cs)

/-- The bytes of an image. -/
def decodeImage (text : String) : Except Fault (List UInt8) :=
  decode (Text.bytes (payload text))

end Viewsmith.Base64
