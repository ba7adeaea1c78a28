import Viewsmith.Proofs.NumberTexts
import Viewsmith.Proofs.UsableNames
import Viewsmith.Style.Literal

/-!
# Reading object literals

This module reads an object literal back. The characters are first cut into tokens: marks, texts in
quotes, and words, which are keys without quotes and numbers. Blanks and line ends between tokens
are passed over, so that nothing of the layout is left. The tokens are then put together with the
open blocks on a stack.

A number is read as the word that it is written with. Everything else of a style is found again: its
keys in their order, its texts and its nesting, at any indentation. The texts and keys may hold
quotes, braces, commas and backslashes; inside quotes only the quote itself ends a text, and it is
escaped where it is meant.

## Main definitions

* `Literal.tokens`: the tokens of characters.
* `Literal.step`, `Literal.read`: the reader of tokens, and that of a literal.
* `Value.spelled`, `Style.spelled`: a value with the words of its numbers in their place.

## Main statements

* `Literal.lexes_literal`: the tokens of a literal, at any indentation.
* `Literal.run_tokensOf`: what is read from the tokens of a value.
* `Style.read_literal`: the literal of a style can be read back.
-/

namespace Viewsmith

/-! ### What is read -/

/-- What a literal says: a value with the spellings of its numbers. -/
inductive Literal where
  | number (spelling : String)
  | text (s : String)
  | list (items : List Literal)
  | record (fields : List (String × Literal))

namespace Value

mutual

/-- A value with the spellings of its numbers in their place. -/
def spelled : Value → Literal
  | .number x => .number (Number.css x)
  | .text s => .text s
  | .list items => .list (spelledItems items)
  | .record fields => .record (spelledFields fields)

/-- The items of a list, spelled. -/
def spelledItems : List Value → List Literal
  | [] => []
  | v :: vs => v.spelled :: spelledItems vs

/-- The fields of a record, spelled. -/
def spelledFields : List (String × Value) → List (String × Literal)
  | [] => []
  | (key, v) :: fs => (key, v.spelled) :: spelledFields fs

end

end Value

/-- A style with the spellings of its numbers in their place. -/
def Style.spelled (s : Style) : Literal := Value.spelled (.record s.entries)

namespace Literal

/-! ### Tokens -/

/-- The two kinds of blocks. -/
inductive Bracket where
  | square
  | curly
  deriving Repr, DecidableEq

/-- The bracket that opens a block. -/
def Bracket.opens : Bracket → String
  | .square => "["
  | .curly => "\x7b"

/-- The bracket that closes a block. -/
def Bracket.closes : Bracket → String
  | .square => "]"
  | .curly => "\x7d"

/-- A token of a literal. -/
inductive Token where
  | opening (bracket : Bracket)
  | closing (bracket : Bracket)
  | comma
  | colon
  | quoted (s : String)
  | word (s : String)
  deriving Repr, DecidableEq

/-- Where a reader of characters stands. What it has read of a text or a word is kept backwards. -/
inductive Mode where
  | between
  | word (before : List Char)
  | quoted (before : List Char)
  /-- After a backslash in a text. -/
  | escape (before : List Char)

/-- The characters of words: those of identifiers and of numbers. -/
def isWordChar (c : Char) : Bool := Identifier.isContinue c || c = '-' || c = '.'

/-- The mark that a character is. -/
def mark? (c : Char) : Option Token :=
  if c = '{' then some (.opening .curly)
  else if c = '}' then some (.closing .curly)
  else if c = '[' then some (.opening .square)
  else if c = ']' then some (.closing .square)
  else if c = ',' then some .comma
  else if c = ':' then some .colon
  else none

/-- The character that is meant by one after a backslash. -/
def unescape (c : Char) : Option Char :=
  if c = 'n' then some '\n'
  else if c = '"' ∨ c = '\\' then some c
  else none

/-- One character between tokens: the token that it completes, and what comes next. -/
def stepBetween (c : Char) : Option (List Token × Mode) :=
  if isWordChar c then some ([], .word [c])
  else if c = ' ' ∨ c = '\n' then some ([], .between)
  else if c = '"' then some ([], .quoted [])
  else (mark? c).map fun mark => ([mark], .between)

/-- One character: the tokens that it completes, and what comes next. A word ends before the first
character that is not of it, a text at its quote. A text has no line end in it. -/
def stepChar : Mode → Char → Option (List Token × Mode)
  | .between, c => stepBetween c
  | .word before, c =>
    if isWordChar c then some ([], .word (c :: before))
    else (stepBetween c).map fun (ts, next) => (.word (String.ofList before.reverse) :: ts, next)
  | .quoted before, c =>
    if c = '"' then some ([.quoted (String.ofList before.reverse)], .between)
    else if c = '\\' then some ([], .escape before)
    else if c = '\n' then none
    else some ([], .quoted (c :: before))
  | .escape before, c => (unescape c).map fun c => ([], .quoted (c :: before))

/-- The tokens of characters. -/
def tokens : Mode → List Char → Option (List Token)
  | .between, [] => some []
  | .word before, [] => some [.word (String.ofList before.reverse)]
  | .quoted _, [] => none
  | .escape _, [] => none
  | mode, c :: cs => (stepChar mode c).bind fun (ts, next) => (tokens next cs).map (ts ++ ·)

/-! ### Reading tokens -/

/-- An open block: what has been read of it, the last first, and the key of the field that is being
read. -/
inductive Frame where
  | list (before : List Literal)
  | record (before : List (String × Literal)) (key : String)

/-- Where a reader of tokens stands, with the open blocks, the innermost first. -/
inductive State where
  /-- A value is due. -/
  | value (stack : List Frame)
  /-- A key is due, in a record with the given fields. -/
  | key (before : List (String × Literal)) (stack : List Frame)
  | colon (before : List (String × Literal)) (key : String) (stack : List Frame)
  /-- After a value. -/
  | after (v : Literal) (stack : List Frame)

/-- Whether a word is a number: a decimal with a sign, or a word for what is no finite number. -/
def isNumber (word : String) : Bool :=
  ["NaN", "inf", "-inf"].contains word || word.toList.all fun c => c.isDigit || c = '.' || c = '-'

/-- One token. A block may end at once, or after a value; a comma comes between two values. -/
def step : State → Token → Option State
  | .value stack, .word w => if isNumber w then some (.after (.number w) stack) else none
  | .value stack, .quoted s => some (.after (.text s) stack)
  | .value stack, .opening .square => some (.value (.list [] :: stack))
  | .value stack, .opening .curly => some (.key [] stack)
  | .value (.list [] :: stack), .closing .square => some (.after (.list []) stack)
  | .key before stack, .word w =>
    if Identifier.isIdentifier w then some (.colon before w stack) else none
  | .key before stack, .quoted s => some (.colon before s stack)
  | .key [] stack, .closing .curly => some (.after (.record []) stack)
  | .colon before key stack, .colon => some (.value (.record before key :: stack))
  | .after v (.list before :: stack), .comma => some (.value (.list (v :: before) :: stack))
  | .after v (.list before :: stack), .closing .square =>
    some (.after (.list (v :: before).reverse) stack)
  | .after v (.record before key :: stack), .comma => some (.key ((key, v) :: before) stack)
  | .after v (.record before key :: stack), .closing .curly =>
    some (.after (.record ((key, v) :: before).reverse) stack)
  | _, _ => none

/-- The value that has been read, if all blocks are closed. -/
def State.result? : State → Option Literal
  | .after v [] => some v
  | _ => none

/-- Read a literal. -/
def read (text : String) : Option Literal :=
  (tokens .between text.toList).bind fun ts => (ts.foldlM step (.value [])).bind State.result?

/-! ### The tokens of a value -/

/-- The tokens of a block. -/
def blockTokens (bracket : Bracket) (rows : List (List Token)) : List Token :=
  .opening bracket :: ([Token.comma].intercalate rows ++ [.closing bracket])

/-- The token of a key. -/
def keyToken (key : String) : Token :=
  if Identifier.isIdentifier key then .word key else .quoted key

mutual

/-- The tokens of a value. -/
def tokensOf : Value → List Token
  | .number x => [.word (Number.css x)]
  | .text s => [.quoted s]
  | .list items => blockTokens .square (tokensOfItems items)
  | .record fields => blockTokens .curly (tokensOfFields fields)

/-- The tokens of the items of a list. -/
def tokensOfItems : List Value → List (List Token)
  | [] => []
  | v :: vs => tokensOf v :: tokensOfItems vs

/-- The tokens of the fields of a record. -/
def tokensOfFields : List (String × Value) → List (List Token)
  | [] => []
  | (key, v) :: fs => (keyToken key :: .colon :: tokensOf v) :: tokensOfFields fs

end

/-! ### Characters -/

/-- What follows does not go on with a word. -/
def Stops (rest : List Char) : Prop := ∀ c ∈ rest.head?, isWordChar c = false

/-- A character that is none of a word stops a word. -/
theorem stops_cons {c : Char} (h : isWordChar c = false) (rest : List Char) :
    Stops (c :: rest) := by
  intro d hd
  cases hd
  exact h

/-- What starts with something that stops a word, or is empty before such, stops it. -/
theorem Stops.append {cs rest : List Char} (h : Stops cs) (h' : Stops rest) :
    Stops (cs ++ rest) := by
  cases cs with
  | nil => exact h'
  | cons c cs => exact stops_cons (h c rfl) _

/-- The characters have these tokens, whatever follows that does not go on with a word. -/
def Lexes (cs : List Char) (ts : List Token) : Prop :=
  ∀ rest, Stops rest → tokens .between (cs ++ rest) = (tokens .between rest).map (ts ++ ·)

/-- The tokens of characters, one step at a time. -/
theorem tokens_cons (mode : Mode) (c : Char) (cs : List Char) :
    tokens mode (c :: cs) =
      (stepChar mode c).bind fun r => (tokens r.2 cs).map (r.1 ++ ·) := by
  cases mode <;> rfl

/-- A character that completes no token. -/
theorem tokens_cons_of_step {mode next : Mode} {c : Char} (h : stepChar mode c = some ([], next))
    (cs : List Char) : tokens mode (c :: cs) = tokens next cs := by
  rw [tokens_cons, h, Option.bind_some]
  simp

/-- No characters have no tokens. -/
theorem Lexes.nil : Lexes [] [] := by
  intro rest _
  simp

/-- A blank or a mark before other characters. -/
theorem Lexes.cons {c : Char} {mark : List Token} (hc : stepBetween c = some (mark, .between))
    {cs : List Char} {ts : List Token} (h : Lexes cs ts) : Lexes (c :: cs) (mark ++ ts) := by
  intro rest hrest
  have hstep : stepChar .between c = some (mark, .between) := hc
  rw [List.cons_append, tokens_cons, hstep, Option.bind_some, h rest hrest, Option.map_map]
  congr 1
  funext us
  exact (List.append_assoc mark ts us).symm

/-- Tokens can be put together where a word cannot run over. -/
theorem Lexes.append {cs ds : List Char} {ts us : List Token} (h : Lexes cs ts) (h' : Lexes ds us)
    (hstops : Stops ds) : Lexes (cs ++ ds) (ts ++ us) := by
  intro rest hrest
  rw [List.append_assoc, h _ (hstops.append hrest), h' rest hrest, Option.map_map]
  congr 1
  funext vs
  exact (List.append_assoc ts us vs).symm

/-- Characters that have tokens whatever follows have them alone. -/
theorem Lexes.tokens_eq {cs : List Char} {ts : List Token} (h : Lexes cs ts) :
    tokens .between cs = some ts := by
  have hend := h [] (fun c hc => by cases hc)
  rw [List.append_nil] at hend
  rw [hend]
  simp [tokens]

/-! ### Blanks and marks -/

/-- Marks, quotes and blanks are no characters of words. -/
theorem isWordChar_mark :
    ∀ c ∈ ['{', '}', '[', ']', ',', ':', '"', ' ', '\n'], isWordChar c = false := by
  have hall :
      (['{', '}', '[', ']', ',', ':', '"', ' ', '\n'].all fun c => !isWordChar c) = true := by
    decide +kernel
  intro c hc
  simpa using List.all_eq_true.mp hall c hc

/-- A blank between tokens is passed over. -/
theorem stepBetween_of_blank {c : Char} (h : c = ' ' ∨ c = '\n') :
    stepBetween c = some ([], .between) := by
  have hword : isWordChar c = false := isWordChar_mark c (by rcases h with rfl | rfl <;> simp)
  unfold stepBetween
  rw [hword, if_neg Bool.false_ne_true, if_pos h]

/-- A mark between tokens is a token. -/
theorem stepBetween_of_mark {c : Char} {mark : Token} (h : mark? c = some mark)
    (hmem : c ∈ ['{', '}', '[', ']', ',', ':']) : stepBetween c = some ([mark], .between) := by
  have hword : isWordChar c = false := isWordChar_mark c (by simp at hmem ⊢; tauto)
  have hblank : ¬ (c = ' ' ∨ c = '\n') ∧ c ≠ '"' := by
    simp only [List.mem_cons, List.not_mem_nil, or_false] at hmem
    rcases hmem with rfl | rfl | rfl | rfl | rfl | rfl <;> decide
  unfold stepBetween
  rw [hword, if_neg Bool.false_ne_true, if_neg hblank.1, if_neg hblank.2, h]
  rfl

/-- Leading spaces make no token. -/
theorem Lexes.spaces (n : Nat) {cs : List Char} {ts : List Token} (h : Lexes cs ts) :
    Lexes ((Text.spaces n).toList ++ cs) ts := by
  unfold Text.spaces
  rw [String.toList_ofList]
  induction n with
  | zero => exact h
  | succ n ih => exact Lexes.cons (stepBetween_of_blank (Or.inl rfl)) ih

/-- A leading line feed makes no token. -/
theorem Lexes.feed {cs : List Char} {ts : List Token} (h : Lexes cs ts) : Lexes ('\n' :: cs) ts :=
  Lexes.cons (stepBetween_of_blank (Or.inr rfl)) h

/-- A mark is a token of its own. -/
theorem Lexes.mark {c : Char} {mark : Token} (hmark : mark? c = some mark)
    (hmem : c ∈ ['{', '}', '[', ']', ',', ':']) {cs : List Char} {ts : List Token}
    (h : Lexes cs ts) : Lexes (c :: cs) (mark :: ts) :=
  Lexes.cons (stepBetween_of_mark hmark hmem) h

/-! ### Words and texts -/

/-- The rest of a word. -/
theorem tokens_word {cs : List Char} (h : ∀ c ∈ cs, isWordChar c = true) {rest : List Char}
    (hrest : Stops rest) (before : List Char) :
    tokens (.word before) (cs ++ rest) =
      (tokens .between rest).map ([.word (String.ofList (before.reverse ++ cs))] ++ ·) := by
  induction cs generalizing before with
  | nil =>
    rw [List.nil_append, List.append_nil]
    cases rest with
    | nil => rfl
    | cons c rest =>
      have hc : stepChar (.word before) c =
          (stepBetween c).map fun r => (.word (String.ofList before.reverse) :: r.1, r.2) :=
        if_neg (by simp [hrest c rfl])
      have hc' : stepChar .between c = stepBetween c := rfl
      rw [tokens_cons, tokens_cons, hc, hc']
      cases stepBetween c with
      | none => rfl
      | some r => simp [Function.comp_def]
  | cons c cs ih =>
    have hc : stepChar (.word before) c = some ([], .word (c :: before)) :=
      if_pos (h c List.mem_cons_self)
    rw [List.cons_append, tokens_cons_of_step hc, ih (fun d hd => h d (List.mem_cons_of_mem _ hd)),
      List.reverse_cons, List.append_assoc, List.singleton_append]

/-- The characters of a word make one token. -/
theorem lexes_word {word : String} (h : ∀ c ∈ word.toList, isWordChar c = true)
    (hne : word.toList ≠ []) : Lexes word.toList [.word word] := by
  intro rest hrest
  cases hw : word.toList with
  | nil => exact absurd hw hne
  | cons c cs =>
    rw [hw] at h
    have hc : stepChar .between c = some ([], .word [c]) := if_pos (h c List.mem_cons_self)
    have hback : String.ofList (c :: cs) = word := by rw [← hw, String.ofList_toList]
    rw [List.cons_append, tokens_cons_of_step hc,
      tokens_word (fun d hd => h d (List.mem_cons_of_mem _ hd)) hrest, List.reverse_singleton,
      List.singleton_append, hback]

/-- The rest of a text in quotes. -/
theorem tokens_quoted (cs : List Char) (before rest : List Char) :
    tokens (.quoted before) (cs.flatMap Value.escapeChar ++ '"' :: rest) =
      (tokens .between rest).map ([.quoted (String.ofList (before.reverse ++ cs))] ++ ·) := by
  induction cs generalizing before with
  | nil =>
    have hend : stepChar (.quoted before) '"' =
        some ([.quoted (String.ofList before.reverse)], .between) := rfl
    rw [List.flatMap_nil, List.nil_append, tokens_cons, hend, List.append_nil]
    rfl
  | cons c cs ih =>
    -- however a character is escaped, the reader has collected just this one after it
    have hchar : tokens (.quoted before)
          (Value.escapeChar c ++ (cs.flatMap Value.escapeChar ++ '"' :: rest)) =
        tokens (.quoted (c :: before)) (cs.flatMap Value.escapeChar ++ '"' :: rest) := by
      have hslash : stepChar (.quoted before) '\\' = some ([], .escape before) := rfl
      unfold Value.escapeChar
      split_ifs with hquote hback hfeed
      · subst hquote
        have hescape : stepChar (.escape before) '"' = some ([], .quoted ('"' :: before)) := rfl
        exact (tokens_cons_of_step hslash _).trans (tokens_cons_of_step hescape _)
      · subst hback
        have hescape : stepChar (.escape before) '\\' = some ([], .quoted ('\\' :: before)) := rfl
        exact (tokens_cons_of_step hslash _).trans (tokens_cons_of_step hescape _)
      · subst hfeed
        have hescape : stepChar (.escape before) 'n' = some ([], .quoted ('\n' :: before)) := rfl
        exact (tokens_cons_of_step hslash _).trans (tokens_cons_of_step hescape _)
      · have hplain : stepChar (.quoted before) c = some ([], .quoted (c :: before)) := by
          rw [stepChar, if_neg hquote, if_neg hback, if_neg hfeed]
        exact tokens_cons_of_step hplain _
    rw [List.flatMap_cons, List.append_assoc, hchar, ih, List.reverse_cons, List.append_assoc,
      List.singleton_append]

/-- A quoted text is one token, and it is read back. -/
theorem lexes_quoted (s : String) : Lexes (Value.quoted s).toList [.quoted s] := by
  intro rest _
  have hopen : stepChar .between '"' = some ([], .quoted []) := by
    have hword : isWordChar '"' = false := isWordChar_mark _ (by simp)
    rw [stepChar, stepBetween, hword]
    rfl
  rw [Value.quoted, String.toList_ofList, List.cons_append, List.append_assoc,
    tokens_cons_of_step hopen, List.singleton_append, tokens_quoted, List.reverse_nil,
    List.nil_append, String.ofList_toList]

/-- A key is one token, bare or quoted. -/
theorem lexes_keyLiteral (key : String) : Lexes (Value.keyLiteral key).toList [keyToken key] := by
  unfold Value.keyLiteral keyToken
  by_cases h : Identifier.isIdentifier key = true
  · rw [if_pos h, if_pos h]
    unfold Identifier.isIdentifier at h
    cases hkey : key.toList with
    | nil =>
      rw [hkey] at h
      cases h
    | cons c cs =>
      rw [hkey] at h
      obtain ⟨hstart, hcontinue⟩ := Bool.and_eq_true_iff.mp h
      rw [← hkey]
      apply lexes_word
      · rw [hkey]
        intro d hd
        have hd' : Identifier.isContinue d = true := by
          rcases List.mem_cons.mp hd with rfl | hd
          · exact Identifier.isContinue_of_isStart hstart
          · exact List.all_eq_true.mp hcontinue d hd
        simp [isWordChar, hd']
      · simp [hkey]
  · rw [if_neg h, if_neg h]
    exact lexes_quoted key

/-! ### Numbers -/

/-- Digits are characters of words. -/
theorem isWordChar_of_isDigit {c : Char} (h : c.isDigit = true) : isWordChar c = true := by
  have hnumeral : Text.isNumeral c = true := by
    have hrange : 0x30 ≤ c.toNat ∧ c.toNat ≤ 0x39 := by
      simpa [Char.isDigit, UInt32.le_iff_toNat_le] using h
    unfold Text.isNumeral Text.numeralRanges
    rw [Text.inRanges, if_neg (by omega), if_pos (by omega)]
  simp [isWordChar, Identifier.isContinue, hnumeral]

/-- A number is written as a word that is read as one. -/
theorem css_word (x : Float) :
    (∀ c ∈ (Number.css x).toList, isWordChar c = true) ∧ (Number.css x).toList ≠ [] ∧
      isNumber (Number.css x) = true := by
  -- the words for what has no digits are checked one by one
  have hclosed (word : String) (h : word ∈ ["0", "NaN", "inf", "-inf"]) :
      (∀ c ∈ word.toList, isWordChar c = true) ∧ word.toList ≠ [] ∧ isNumber word = true := by
    have hall : (["0", "NaN", "inf", "-inf"].all fun word =>
        word.toList.all isWordChar && !word.toList.isEmpty && isNumber word) = true := by
      decide +kernel
    simpa [and_assoc] using List.all_eq_true.mp hall word h
  unfold Number.css
  split
  · exact hclosed "0" (by simp)
  · rcases Number.plain_cases x with hword | ⟨negative, d, hdecimal⟩
    · exact hclosed _ (List.mem_cons_of_mem _ hword)
    · have hminus : isWordChar '-' = true := by simp [isWordChar]
      have hsign : ∀ c ∈ (Number.sign negative).toList, c = '-' := by
        cases negative <;> simp [Number.sign]
      have hdigits {p : Char → Prop} (hp : ∀ c, c.isDigit = true → p c) (hpoint : p '.')
          (hminus : p '-') :
          ∀ c ∈ (Number.sign negative).toList ++ d.positional.toList, p c := by
        intro c hc
        rcases List.mem_append.mp hc with hc | hc
        · rw [hsign c hc]
          exact hminus
        · exact Decimal.forall_mem_positional hp hpoint d c hc
      rw [hdecimal, String.toList_append]
      refine ⟨hdigits (fun _ => isWordChar_of_isDigit) (by simp [isWordChar]) hminus, ?_, ?_⟩
      · simp [d.toList_positional_ne_nil]
      · unfold isNumber
        rw [String.toList_append, Bool.or_eq_true, List.all_eq_true]
        exact Or.inr (hdigits (fun c hc => by simp [hc]) rfl rfl)

/-- A number is one word. -/
theorem lexes_css (x : Float) : Lexes (Number.css x).toList [.word (Number.css x)] :=
  lexes_word (css_word x).1 (css_word x).2.1

/-! ### Blocks -/

/-- Rows that are joined by commas and line feeds have their tokens joined by commas. -/
theorem lexes_rows {rows : List String} {tss : List (List Token)}
    (h : List.Forall₂ (fun row ts => Lexes row.toList ts) rows tss) :
    Lexes (String.intercalate ",\n" rows).toList ([Token.comma].intercalate tss) := by
  have hseparator : ",\n".toList = [',', '\n'] := rfl
  induction h with
  | nil => exact Lexes.nil
  | cons hrow hrows ih =>
    cases hrows with
    | nil => simpa using hrow
    | cons hnext hrest =>
      rw [String.intercalate_cons_cons, List.intercalate_cons_cons, String.toList_append,
        String.toList_append, List.append_assoc, List.append_assoc, hseparator]
      exact hrow.append (Lexes.mark rfl (by decide) ih.feed)
        (stops_cons (isWordChar_mark ',' (by decide)) _)

/-- The bracket that opens a block is a token. -/
theorem Lexes.opening (bracket : Bracket) {cs : List Char} {ts : List Token} (h : Lexes cs ts) :
    Lexes (bracket.opens.toList ++ cs) (.opening bracket :: ts) := by
  cases bracket with
  | square => exact Lexes.mark rfl (by decide) h
  | curly => exact Lexes.mark rfl (by decide) h

/-- The bracket that closes a block is a token. -/
theorem lexes_closing (bracket : Bracket) : Lexes bracket.closes.toList [.closing bracket] := by
  cases bracket with
  | square => exact Lexes.mark rfl (by decide) Lexes.nil
  | curly => exact Lexes.mark rfl (by decide) Lexes.nil

/-- A block has the tokens of its rows, with commas between them. -/
theorem lexes_block (bracket : Bracket) (current : Nat) {rows : List String}
    {tss : List (List Token)} (h : List.Forall₂ (fun row ts => Lexes row.toList ts) rows tss) :
    Lexes (Value.block bracket.opens bracket.closes current rows).toList
      (blockTokens bracket tss) := by
  have hend := lexes_closing bracket
  unfold Value.block blockTokens
  split
  · rename_i hempty
    cases h with
    | nil =>
      rw [String.toList_append]
      exact hend.opening bracket
    | cons hrow hrows => cases hempty
  · have hrows := (lexes_rows h).append (hend.spaces current).feed
      (stops_cons (isWordChar_mark '\n' (by decide)) _)
    simp only [String.toList_append, List.append_assoc]
    exact hrows.feed.opening bracket

mutual

/-- The tokens of a literal are those of its value, at any indentation. -/
theorem lexes_literal (space current : Nat) :
    (v : Value) → Lexes (v.literal space current).toList (tokensOf v)
  | .number x => lexes_css x
  | .text s => lexes_quoted s
  | .list items => lexes_block .square current (lexes_literalItems space (current + space) items)
  | .record fields =>
    lexes_block .curly current (lexes_literalFields space (current + space) fields)

/-- The rows of a list have the tokens of its items. -/
theorem lexes_literalItems (space current : Nat) :
    (vs : List Value) →
      List.Forall₂ (fun row ts => Lexes row.toList ts) (Value.literalItems space current vs)
        (tokensOfItems vs)
  | [] => .nil
  | v :: vs => by
      refine .cons ?_ (lexes_literalItems space current vs)
      rw [String.toList_append]
      exact (lexes_literal space current v).spaces current

/-- The rows of a record have the tokens of its fields. -/
theorem lexes_literalFields (space current : Nat) :
    (fs : List (String × Value)) →
      List.Forall₂ (fun row ts => Lexes row.toList ts) (Value.literalFields space current fs)
        (tokensOfFields fs)
  | [] => .nil
  | (key, v) :: fs => by
      refine .cons ?_ (lexes_literalFields space current fs)
      have hvalue :
          Lexes (": ".toList ++ (v.literal space current).toList) (.colon :: tokensOf v) :=
        Lexes.mark rfl (by decide) ((lexes_literal space current v).spaces 1)
      have hrow := ((lexes_keyLiteral key).append hvalue
        (stops_cons (isWordChar_mark ':' (by decide)) _)).spaces current
      simp only [String.toList_append, List.append_assoc]
      exact hrow

end

/-! ### Reading the tokens of a value -/

/-- Read some tokens. -/
def run (state : State) (ts : List Token) : Option State := ts.foldlM step state

/-- Tokens are read one after the other. -/
theorem run_append (state : State) (ts us : List Token) :
    run state (ts ++ us) = (run state ts).bind (run · us) :=
  List.foldlM_append

/-- Reading takes one step for each token. -/
theorem run_cons (state : State) (t : Token) (ts : List Token) :
    run state (t :: ts) = (step state t).bind (run · ts) :=
  List.foldlM_cons

/-- A key is accepted where one is due, bare or quoted. -/
theorem step_keyToken (before : List (String × Literal)) (stack : List Frame) (key : String) :
    step (.key before stack) (keyToken key) = some (.colon before key stack) := by
  unfold keyToken
  by_cases h : Identifier.isIdentifier key = true
  · rw [if_pos h, step, if_pos h]
  · rw [if_neg h, step]

mutual

/-- From the tokens of a value the value is read, whatever blocks are open. -/
theorem run_tokensOf : (v : Value) → ∀ stack : List Frame,
    run (.value stack) (tokensOf v) = some (.after v.spelled stack)
  | .number x, stack => by
      have hstep : step (.value stack) (.word (Number.css x)) =
          some (.after (.number (Number.css x)) stack) := if_pos (css_word x).2.2
      rw [tokensOf, run_cons, hstep]
      rfl
  | .text s, stack => rfl
  | .list items, stack => by
      rw [tokensOf, blockTokens, run_cons]
      exact run_tokensOfItems items [] stack (Or.inr rfl)
  | .record fields, stack => by
      rw [tokensOf, blockTokens, run_cons]
      exact run_tokensOfFields fields [] stack (Or.inr rfl)

/-- The rest of a list. After a comma there is an item. -/
theorem run_tokensOfItems : (vs : List Value) → ∀ (before : List Literal) (stack : List Frame),
    vs ≠ [] ∨ before = [] →
      run (.value (.list before :: stack))
        ([Token.comma].intercalate (tokensOfItems vs) ++ [.closing .square]) =
        some (.after (.list (before.reverse ++ Value.spelledItems vs)) stack)
  | [], before, stack, h => by
      rw [h.resolve_left (fun hne => hne rfl)]
      rfl
  | [v], before, stack, _ => by
      have hone : [Token.comma].intercalate (tokensOfItems [v]) = tokensOf v := by
        simp [tokensOfItems]
      rw [hone, run_append, run_tokensOf v]
      simp [step, run, Value.spelledItems]
  | v :: w :: vs, before, stack, _ => by
      have hrest :=
        run_tokensOfItems (w :: vs) (v.spelled :: before) stack (Or.inl (List.cons_ne_nil w vs))
      rw [tokensOfItems, tokensOfItems, List.intercalate_cons_cons, ← tokensOfItems,
        List.append_assoc, List.append_assoc, run_append, run_tokensOf v, Option.bind_some,
        List.singleton_append, run_cons, step, Option.bind_some, hrest]
      simp [Value.spelledItems]

/-- The rest of a record. After a comma there is a field. -/
theorem run_tokensOfFields : (fs : List (String × Value)) →
    ∀ (before : List (String × Literal)) (stack : List Frame), fs ≠ [] ∨ before = [] →
      run (.key before stack) ([Token.comma].intercalate (tokensOfFields fs) ++ [.closing .curly]) =
        some (.after (.record (before.reverse ++ Value.spelledFields fs)) stack)
  | [], before, stack, h => by
      rw [h.resolve_left (fun hne => hne rfl)]
      rfl
  | [(key, v)], before, stack, _ => by
      have hone : [Token.comma].intercalate (tokensOfFields [(key, v)]) =
          keyToken key :: .colon :: tokensOf v := by simp [tokensOfFields]
      rw [hone, List.cons_append, List.cons_append, run_cons, step_keyToken, Option.bind_some,
        run_cons, step, Option.bind_some, run_append, run_tokensOf v]
      simp [step, run, Value.spelledFields]
  | (key, v) :: f :: fs, before, stack, _ => by
      have hrest := run_tokensOfFields (f :: fs) ((key, v.spelled) :: before) stack
        (Or.inl (List.cons_ne_nil f fs))
      obtain ⟨key', w⟩ := f
      rw [tokensOfFields, tokensOfFields, List.intercalate_cons_cons, ← tokensOfFields,
        List.cons_append, List.cons_append, List.cons_append, List.cons_append, List.cons_append,
        List.cons_append, run_cons, step_keyToken, Option.bind_some, run_cons, step,
        Option.bind_some, List.append_assoc, List.append_assoc, run_append, run_tokensOf v,
        Option.bind_some, List.singleton_append, run_cons, step, Option.bind_some, hrest]
      simp [Value.spelledFields]

end

/-- The literal of a value is read as the value, with the spellings of its numbers. -/
theorem read_valueLiteral (v : Value) (space current : Nat) :
    read (v.literal space current) = some v.spelled := by
  have hrun : (tokensOf v).foldlM step (.value []) = some (.after v.spelled []) := run_tokensOf v []
  unfold Literal.read
  rw [(lexes_literal space current v).tokens_eq, Option.bind_some, hrun]
  rfl

end Literal

namespace Value

mutual

/-- Nothing but what is spelled is written. -/
theorem literal_congr (space current : Nat) :
    (v w : Value) → v.spelled = w.spelled → v.literal space current = w.literal space current
  | .number x, w, h => by
      cases w with
      | number y => exact Literal.number.inj h
      | _ => cases h
  | .text s, w, h => by
      cases w with
      | text t =>
        rw [Literal.text.inj h]
      | _ => cases h
  | .list items, w, h => by
      cases w with
      | list items' =>
        rw [literal, literal,
          literalItems_congr space (current + space) items items' (Literal.list.inj h)]
      | _ => cases h
  | .record fields, w, h => by
      cases w with
      | record fields' =>
        rw [literal, literal,
          literalFields_congr space (current + space) fields fields' (Literal.record.inj h)]
      | _ => cases h

/-- Items with the same spelling are written alike. -/
theorem literalItems_congr (space current : Nat) :
    (vs ws : List Value) → spelledItems vs = spelledItems ws →
      literalItems space current vs = literalItems space current ws
  | [], [], _ => rfl
  | [], _ :: _, h => by cases h
  | _ :: _, [], h => by cases h
  | v :: vs, w :: ws, h => by
      obtain ⟨hv, hvs⟩ := List.cons.inj h
      rw [literalItems, literalItems, literal_congr space current v w hv,
        literalItems_congr space current vs ws hvs]

/-- Fields with the same spelling are written alike. -/
theorem literalFields_congr (space current : Nat) :
    (fs gs : List (String × Value)) → spelledFields fs = spelledFields gs →
      literalFields space current fs = literalFields space current gs
  | [], [], _ => rfl
  | [], _ :: _, h => by cases h
  | _ :: _, [], h => by cases h
  | (key, v) :: fs, (key', w) :: gs, h => by
      obtain ⟨hfield, hfs⟩ := List.cons.inj h
      obtain ⟨hkey, hv⟩ := Prod.mk.inj hfield
      rw [literalFields, literalFields, hkey, literal_congr space current v w hv,
        literalFields_congr space current fs gs hfs]

end

end Value

/-- **Reading back.** The literal of a style, whatever its depth, its keys and its texts, is read as
the style, with every number as the word that it is written with, whatever the indentation. So two
styles that are written alike, even at different indentations, have the same keys in the same order
with the same texts, the same nesting and the same words for numbers; and styles that have all this
in common are written alike at every indentation. -/
theorem Style.read_literal (s : Style) (space current : Nat) :
    Literal.read (s.literal space current) = some s.spelled ∧
      ∀ t : Style,
        ((∃ space' current', t.literal space' current' = s.literal space current) →
          t.spelled = s.spelled) ∧
        (t.spelled = s.spelled → t.literal space current = s.literal space current) := by
  have hread (t : Style) (space current : Nat) :
      Literal.read (t.literal space current) = some t.spelled :=
    Literal.read_valueLiteral (.record t.entries) space current
  refine ⟨hread s space current, fun t => ⟨?_, Value.literal_congr space current _ _⟩⟩
  rintro ⟨space', current', heq⟩
  have hboth := hread t space' current'
  rw [heq, hread s space current] at hboth
  exact (Option.some.inj hboth).symm

-- a text may hold what ends texts and blocks outside of it
example :
    Literal.read
      "\x7b\n   \"a-b\": [\n    \"\\\"\x7d,\\n\\\\\",\n    \x7b\x7d\n   ],\n   b: -0.5\n  \x7d" =
      some (.record [("a-b", .list [.text "\"\x7d,\n\\", .record []]), ("b", .number "-0.5")]) :=
  rfl

-- commas stand between values and nowhere else, and every block is closed once
example :
    ["\x7ba: 1,\x7d", "\x7ba: [1 2]\x7d", "\x7ba: 1", "[1]]"].all
      (Literal.read · |>.isNone) = true := by
  decide +kernel

end Viewsmith
