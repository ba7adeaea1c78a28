import Viewsmith.Proofs.MarkupReader

/-!
# What a template literal denotes

A template literal is read from the backtick that opens it to the first one that is not escaped. On
the way escapes are undone, a dollar before a brace would open a substitution and is refused, and
line ends are normalized: a carriage return, alone or with a line feed after it, denotes a line
feed.

The literal of a text ends where it should and holds no substitution, whatever the text is. It
denotes the text with a line feed for each carriage return, because a carriage return is the only
character that is written raw and does not denote itself.

## Main definitions

* `scan`: read a literal up to its end.
* `cooked?`: the value of one literal between braces.

## Main statements

* `scan_encode`: an escaped text is read up to the backtick after it.
* `cooked_render`: the texts that are denoted by their literals are those without a carriage return.
-/

namespace Viewsmith.Text.TemplateLiteral

open Markup (unescape)

/-- What a character denotes that is written without an escape. -/
def lineEnd (c : Char) : Char := if c = '\r' then '\n' else c

/-- Read a literal after the backtick that opens it, up to the one that closes it: its value, and
what follows. There is none if the literal does not end, opens a substitution, or has an escape
other than those of a backslash, a backtick, a dollar and a line feed. The flag says whether a
backslash was read before. -/
def scan : Bool → List Char → Option (List Char × List Char)
  | _, [] => none
  | true, c :: cs => (unescape c).bind fun d => (scan false cs).map (Prod.map (d :: ·) id)
  | false, c :: cs =>
    if c = '`' then some ([], cs)
    else if c = '\\' then scan true cs
    else if c = '$' ∧ cs.head? = some '{' then none
    -- the line feed that follows is read next and stands for both
    else if c = '\r' ∧ cs.head? = some '\n' then scan false cs
    else (scan false cs).map (Prod.map (lineEnd c :: ·) id)

/-- The value of a text that is one literal without a substitution between braces, and nothing
else. -/
def cooked? (text : String) : Option String :=
  match text.toList with
  | '{' :: '`' :: cs =>
    match scan false cs with
    | some (value, ['}']) => some (String.ofList value)
    | _ => none
  | _ => none

/-! ### Single characters -/

/-- A backtick ends the literal. -/
theorem scan_tick (cs : List Char) : scan false ('`' :: cs) = some ([], cs) := by
  rw [scan, if_pos rfl]

/-- A backslash and the character after it are read as one. -/
theorem scan_escape {c d : Char} (h : unescape c = some d) (cs : List Char) :
    scan false ('\\' :: c :: cs) = (scan false cs).map (Prod.map (d :: ·) id) := by
  rw [scan, if_neg (by decide), if_pos rfl, scan, h, Option.bind_some]

/-- A character that is not special stands for itself, and a return for a line feed. -/
theorem scan_raw {c : Char} {cs : List Char} (htick : c ≠ '`') (hslash : c ≠ '\\')
    (hdollar : c = '$' → cs.head? ≠ some '{') (hfeed : cs.head? ≠ some '\n') :
    scan false (c :: cs) = (scan false cs).map (Prod.map (lineEnd c :: ·) id) := by
  rw [scan, if_neg htick, if_neg hslash, if_neg fun h => hdollar h.1 h.2, if_neg fun h => hfeed h.2]

/-! ### Escaped texts -/

/-- What can follow a raw character: an escaped text begins with a backslash or with its own first
character, and in no case with a line feed. -/
theorem head?_encode_append (cs rest : List Char) :
    (encode cs ++ '`' :: rest).head? ≠ some '\n' ∧
      ((encode cs ++ '`' :: rest).head? = some '{' → cs.head? = some '{') := by
  have hother :
      ∀ c ∈ ['`', '\\'], some c ≠ some '\n' ∧ (some c = some '{' → cs.head? = some '{') := by
    simp
  cases cs with
  | nil => exact hother '`' (by simp)
  | cons c cs =>
    rw [encode]
    split_ifs with hslash htick hfeed hdollar
    case neg => exact ⟨fun h => hfeed (Option.some.inj h), id⟩
    -- an escape begins with a backslash
    all_goals exact hother '\\' (by simp)

/-- An escaped text is read up to the backtick after it. -/
theorem scan_encode (cs rest : List Char) :
    scan false (encode cs ++ '`' :: rest) = some (cs.map lineEnd, rest) := by
  induction cs with
  | nil => exact scan_tick rest
  | cons c cs ih =>
    obtain ⟨hfeed, hbrace⟩ := head?_encode_append cs rest
    -- the four escapes differ in the character after the backslash only
    have hescape : ∀ {d : Char}, unescape d = some (lineEnd c) →
        scan false ('\\' :: d :: (encode cs ++ '`' :: rest)) =
          some ((c :: cs).map lineEnd, rest) := by
      intro d hd
      rw [scan_escape hd, ih]
      rfl
    rw [encode]
    by_cases hslash : c = '\\'
    · rw [if_pos hslash]
      exact hescape (by rw [hslash]; rfl)
    rw [if_neg hslash]
    by_cases htick : c = '`'
    · rw [if_pos htick]
      exact hescape (by rw [htick]; rfl)
    rw [if_neg htick]
    by_cases hline : c = '\n'
    · rw [if_pos hline]
      exact hescape (by rw [hline]; rfl)
    rw [if_neg hline]
    by_cases hdollar : c = '$' ∧ cs.head? = some '{'
    · rw [if_pos (by simp [hdollar])]
      exact hescape (by rw [hdollar.1]; rfl)
    · rw [if_neg (by simpa using hdollar), List.cons_append,
        scan_raw htick hslash (fun hc h => hdollar ⟨hc, hbrace h⟩) hfeed, ih]
      rfl

/-- Raw characters stand for themselves if and only if there is no return among them. -/
theorem map_lineEnd_eq_self_iff (cs : List Char) : cs.map lineEnd = cs ↔ '\r' ∉ cs := by
  have hchar : ∀ c, lineEnd c = c ↔ c ≠ '\r' := by
    intro c
    unfold lineEnd
    split
    next h => exact iff_of_false (by rw [h]; decide) (fun hne => hne h)
    next h => exact iff_of_true rfl h
  calc cs.map lineEnd = cs ↔ cs.map lineEnd = cs.map id := by rw [List.map_id]
    _ ↔ ∀ c ∈ cs, lineEnd c = id c := List.map_inj_left
    _ ↔ ∀ c ∈ cs, c ≠ '\r' := forall₂_congr fun c _ => hchar c
    _ ↔ '\r' ∉ cs := ⟨fun h hm => h _ hm rfl, fun h c hm hc => h (hc ▸ hm)⟩

/-- **Escaping is exact.** What is rendered for a text is one complete literal without a
substitution between braces, for every text; the literal denotes the text with a line feed for each
carriage return, which is the text itself if and only if it has no carriage return. -/
theorem cooked_render (text : String) :
    ∃ value, cooked? (render text) = some value ∧ value.toList = text.toList.map lineEnd ∧
      (value = text ↔ '\r' ∉ text.toList) := by
  refine ⟨String.ofList (text.toList.map lineEnd), ?_, String.toList_ofList, ?_⟩
  · have hscan := scan_encode text.toList ['}']
    unfold cooked? render
    simp only [String.toList_ofList, hscan]
  · rw [← map_lineEnd_eq_self_iff, ← String.toList_inj, String.toList_ofList]

example : cooked? (render "$$\x7b`\\\r") = some "$$\x7b`\\\n" := by decide +kernel

-- a backtick that closes early, and a substitution
example : cooked? "\x7b`a`b`\x7d" = none ∧ cooked? "\x7b`$\x7ba\x7d`\x7d" = none := by
  decide +kernel

end Viewsmith.Text.TemplateLiteral
