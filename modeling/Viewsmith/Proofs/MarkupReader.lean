import Viewsmith.Proofs.NumberTexts
import Viewsmith.Proofs.RunTexts

/-!
# Reading the markup of a text

The markup inside the element of a text consists of template literals, some of them inside elements
of their own. This module reads it back, character by character: it passes over tags, with the
strings in them, and takes every literal for what it denotes. A line feed is refused wherever it
stands, and so is a substitution. The names of the tags that start elements can be listed on the
way.

What the markup of a run shows is then the text of the run. Which characters an override holds does
not matter, since quotes and backslashes are escaped in its strings, and nothing outside of them
ends a tag. A run with an override stands in an element of its own, and no other element starts in
its markup.

## Main definitions

* `Markup.step`: one character of markup.
* `Markup.shown`: the text that markup shows.
* `Markup.starts`: the names of the elements in markup.
* `Markup.Leads`: what is made of characters, whatever follows.

## Main statements

* `Markup.leads_render`: a literal shows the text that it was made from.
* `Markup.leads_json`: a style is passed over.
* `Markup.leads_runMarkup`: the markup of a run shows its text, and the elements in it.
-/

namespace Viewsmith.Markup

open Text.TemplateLiteral

/-- Where a reader of markup stands. -/
inductive Mode where
  /-- Between literals and tags. -/
  | content
  /-- After the brace before a literal. -/
  | brace
  /-- In a tag. -/
  | tag
  /-- In a string of a tag. -/
  | quoted
  /-- After a backslash in such a string. -/
  | quotedEscape
  /-- In a literal. -/
  | literal
  /-- After a dollar in a literal. -/
  | dollar
  /-- After a backslash in a literal. -/
  | escape
  /-- After the end of a literal. -/
  | closing
  deriving Repr, DecidableEq

/-- One character of a literal: what it shows, and what comes next. -/
def stepLiteral (c : Char) : List Char × Mode :=
  if c = '\\' then ([], .escape)
  else if c = '`' then ([], .closing)
  else if c = '$' then (['$'], .dollar)
  else ([c], .literal)

/-- The character that is meant by one after a backslash in a literal. -/
def unescape (c : Char) : Option Char :=
  if c = 'n' then some '\n'
  else if c = '\\' ∨ c = '`' ∨ c = '$' then some c
  else none

/-- One character of markup: what it shows, and what comes next. -/
def step : Mode → Char → Option (List Char × Mode)
  | .content, c => if c = '<' then some ([], .tag) else if c = '{' then some ([], .brace) else none
  | .brace, c => if c = '`' then some ([], .literal) else none
  | .tag, c => some ([], if c = '>' then .content else if c = '"' then .quoted else .tag)
  | .quoted, c => some ([], if c = '"' then .tag else if c = '\\' then .quotedEscape else .quoted)
  | .quotedEscape, _ => some ([], .quoted)
  | .literal, c => some (stepLiteral c)
  -- a brace after a dollar would open a substitution
  | .dollar, c => if c = '{' then none else some (stepLiteral c)
  | .escape, c => (unescape c).map fun c => ([c], .literal)
  | .closing, c => if c = '}' then some ([], .content) else none

/-- What characters of markup show. They have to end between literals and tags, and a line feed is
refused. -/
def read : Mode → List Char → Option (List Char)
  | mode, [] => if mode = .content then some [] else none
  | mode, c :: cs =>
    if c = '\n' then none
    else (step mode c).bind fun (shown, next) => (read next cs).map (shown ++ ·)

/-- The text that markup shows. -/
def shown (markup : String) : Option String := (read .content markup.toList).map String.ofList

/-- The characters of the name of a tag. -/
def isNameChar (c : Char) : Bool := c ≠ ' ' && c ≠ '/' && c ≠ '>'

/-- The names of the elements that start in markup, in order. A tag with a slash before its name is
an end. -/
def starts : Mode → List Char → List String
  | _, [] => []
  | mode, c :: cs =>
    (if mode = .content ∧ c = '<' ∧ cs.head? ≠ some '/' then
        [String.ofList (cs.takeWhile isNameChar)]
      else [])
      ++ ((step mode c).map fun (_, next) => starts next cs).getD []

/-! ### What can be read -/

/-- What can be read has no line feed. -/
theorem line_feed_not_mem_of_read {mode : Mode} {cs shown : List Char}
    (h : read mode cs = some shown) : '\n' ∉ cs := by
  induction cs generalizing mode shown with
  | nil => exact List.not_mem_nil
  | cons c cs ih =>
    by_cases hc : c = '\n'
    · simp [read, hc] at h
    · rw [read, if_neg hc] at h
      obtain ⟨⟨shown', next⟩, -, hmap⟩ := Option.bind_eq_some_iff.mp h
      obtain ⟨rest, hrest, -⟩ := Option.map_eq_some_iff.mp hmap
      exact fun hm => (List.mem_cons.mp hm).elim (fun heq => hc heq.symm) (ih hrest)

/-- What can be read starts with a tag or a literal. -/
theorem head?_of_read {cs shown : List Char} (h : read .content cs = some shown) (hne : cs ≠ []) :
    cs.head? = some '<' ∨ cs.head? = some '{' := by
  cases cs with
  | nil => exact absurd rfl hne
  | cons c cs =>
    rw [read] at h
    by_cases hopen : c = '<' ∨ c = '{'
    · rcases hopen with rfl | rfl
      · exact Or.inl rfl
      · exact Or.inr rfl
    · rw [not_or] at hopen
      simp [step, hopen] at h

/-- Only the end of a tag and the brace after a literal lead back between literals and tags. -/
theorem eq_of_step_content {mode : Mode} {c : Char} {shown : List Char}
    (h : step mode c = some (shown, .content)) : c = '>' ∨ c = '}' := by
  cases mode
  case escape =>
    obtain ⟨d, -, hd⟩ := Option.map_eq_some_iff.mp h
    cases hd
  all_goals
    simp only [step, stepLiteral] at h
    grind

/-- What can be read ends with a tag or a literal. -/
theorem getLast?_of_read {mode : Mode} {cs shown : List Char} (h : read mode cs = some shown)
    (hne : cs ≠ []) : cs.getLast? = some '>' ∨ cs.getLast? = some '}' := by
  induction cs generalizing mode shown with
  | nil => exact absurd rfl hne
  | cons c cs ih =>
    rw [read] at h
    split at h
    · cases h
    · obtain ⟨⟨shown', next⟩, hstep, hmap⟩ := Option.bind_eq_some_iff.mp h
      obtain ⟨rest, hrest, -⟩ := Option.map_eq_some_iff.mp hmap
      cases cs with
      | nil =>
        rw [read] at hrest
        split at hrest
        · rename_i hnext
          subst hnext
          rcases eq_of_step_content hstep with rfl | rfl
          · exact Or.inl rfl
          · exact Or.inr rfl
        · cases hrest
      | cons d cs =>
        rw [List.getLast?_cons_cons]
        exact ih hrest (List.cons_ne_nil d cs)

/-! ### Reading on -/

/-- Some characters show a text and are read from one mode to another, whatever follows. -/
def Reads (mode : Mode) (cs shown : List Char) (next : Mode) : Prop :=
  ∀ rest, read mode (cs ++ rest) = (read next rest).map (shown ++ ·)

namespace Reads

variable {mode next last : Mode} {cs ds shown shown' : List Char}

/-- Reading nothing shows nothing. -/
theorem nil : Reads mode [] [] mode := by
  intro rest
  simp

/-- What is read in two parts shows what they show. -/
theorem append (h : Reads mode cs shown next) (h' : Reads next ds shown' last) :
    Reads mode (cs ++ ds) (shown ++ shown') last := by
  intro rest
  rw [List.append_assoc, h, h', Option.map_map]
  congr 1
  funext text
  exact (List.append_assoc shown shown' text).symm

/-- One character is read in one step. -/
theorem of_step {c : Char} (hc : c ≠ '\n') (h : step mode c = some (shown, next)) :
    Reads mode [c] shown next := by
  intro rest
  rw [List.cons_append, List.nil_append, read, if_neg hc, h]
  rfl

/-- What is read from content to content can be read alone. -/
theorem read_eq (h : Reads .content cs shown .content) : read .content cs = some shown := by
  have hread := h []
  rw [List.append_nil, read, if_pos rfl, Option.map_some, List.append_nil] at hread
  exact hread

end Reads

/-- Some characters show a text, start elements of some names, and lead from one mode to another. -/
structure Leads (mode : Mode) (cs shown : List Char) (names : List String) (next : Mode) :
    Prop where
  reads : Reads mode cs shown next
  starts_append : ∀ rest, starts mode (cs ++ rest) = names ++ starts next rest

namespace Leads

variable {mode next last : Mode} {cs ds shown shown' : List Char} {names names' : List String}

/-- Reading nothing starts no element. -/
theorem nil : Leads mode [] [] [] mode := ⟨.nil, fun _ => rfl⟩

/-- What is read in two parts starts the elements of both. -/
theorem append (h : Leads mode cs shown names next) (h' : Leads next ds shown' names' last) :
    Leads mode (cs ++ ds) (shown ++ shown') (names ++ names') last := by
  refine ⟨h.reads.append h'.reads, fun rest => ?_⟩
  rw [List.append_assoc, h.starts_append, h'.starts_append, List.append_assoc]

/-- Inside of a tag or a literal no element starts. -/
theorem of_step {c : Char} (hmode : mode ≠ .content) (hc : c ≠ '\n')
    (h : step mode c = some (shown, next)) : Leads mode [c] shown [] next := by
  refine ⟨.of_step hc h, fun rest => ?_⟩
  rw [List.cons_append, List.nil_append, starts, if_neg fun hopen => hmode hopen.1, h]
  rfl

/-- The elements that start in what is read from content to content. -/
theorem starts_eq (h : Leads .content cs shown names .content) : starts .content cs = names := by
  have hstarts := h.starts_append []
  rw [List.append_nil, starts, List.append_nil] at hstarts
  exact hstarts

/-- Pieces of markup one after the other. -/
theorem flatMap {ι : Type} {f g : ι → List Char} {names : ι → List String} {l : List ι}
    (h : ∀ i ∈ l, Leads mode (f i) (g i) (names i) mode) :
    Leads mode (l.flatMap f) (l.flatMap g) (l.flatMap names) mode := by
  induction l with
  | nil => exact nil
  | cons i l ih =>
    rw [List.flatMap_cons, List.flatMap_cons, List.flatMap_cons]
    exact (h i List.mem_cons_self).append (ih fun j hj => h j (List.mem_cons_of_mem _ hj))

end Leads

/-! ### Literals -/

/-- After a dollar a literal goes on, unless a brace follows. -/
theorem step_eq_stepLiteral {mode : Mode} {c : Char}
    (h : mode = .literal ∨ mode = .dollar ∧ c ≠ '{') : step mode c = some (stepLiteral c) := by
  rcases h with rfl | ⟨rfl, hc⟩
  · rfl
  · exact if_neg hc

/-- An escape stands for its character. -/
theorem leads_escape {mode : Mode} (h : mode = .literal ∨ mode = .dollar) {c d : Char}
    (hd : unescape d = some c) : Leads mode ['\\', d] [c] [] .literal := by
  have hne : d ≠ '\n' := by
    rintro rfl
    cases hd
  have hmode : mode ≠ .content := by
    rcases h with rfl | rfl <;> decide
  have hslash : step mode '\\' = some ([], .escape) :=
    step_eq_stepLiteral (h.imp id fun hmode => ⟨hmode, by decide⟩)
  have hescaped : step .escape d = some ([c], .literal) := by
    rw [step, hd]
    rfl
  exact (Leads.of_step hmode (by decide) hslash).append (.of_step (by decide) hne hescaped)

/-- An escaped text is read as it was. After a dollar it may not begin with a brace: such a dollar
is escaped. -/
theorem leads_encode (cs : List Char) {mode : Mode}
    (h : mode = .literal ∨ mode = .dollar ∧ cs.head? ≠ some '{') :
    Leads mode (encode cs ++ ['`', '}']) cs [] .content := by
  have hliteral : mode = .literal ∨ mode = .dollar := h.imp id And.left
  have hmode : mode ≠ .content := by
    rcases hliteral with rfl | rfl <;> decide
  induction cs generalizing mode with
  | nil =>
    have hquote : step mode '`' = some ([], .closing) :=
      step_eq_stepLiteral (h.imp id fun hmode => ⟨hmode.1, by decide⟩)
    exact (Leads.of_step hmode (by decide) hquote).append (.of_step (by decide) (by decide) rfl)
  | cons c cs ih =>
    have hrest := ih (Or.inl rfl) (Or.inl rfl) (by decide)
    rw [encode]
    by_cases hslash : c = '\\'
    · rw [if_pos hslash]
      exact (leads_escape hliteral (by rw [hslash]; rfl)).append hrest
    rw [if_neg hslash]
    by_cases htick : c = '`'
    · rw [if_pos htick]
      exact (leads_escape hliteral (by rw [htick]; rfl)).append hrest
    rw [if_neg htick]
    by_cases hfeed : c = '\n'
    · rw [if_pos hfeed]
      exact (leads_escape hliteral (by rw [hfeed]; rfl)).append hrest
    rw [if_neg hfeed]
    -- what is left is not escaped, unless it is a dollar before a brace
    have hc : step mode c = some (stepLiteral c) :=
      step_eq_stepLiteral (h.imp id fun hd => ⟨hd.1, fun hbrace => hd.2 (congrArg some hbrace)⟩)
    by_cases hdollar : c = '$'
    · subst hdollar
      by_cases hbrace : cs.head? = some '{'
      · rw [if_pos (by simp [hbrace])]
        exact (leads_escape hliteral rfl).append hrest
      · rw [if_neg (by simp [hbrace])]
        -- a bare dollar leaves the reader waiting for a brace, which is why the mode is general
        have hnext := ih (Or.inr ⟨rfl, hbrace⟩) (Or.inr rfl) (by decide)
        exact (Leads.of_step hmode hfeed hc).append hnext
    · rw [if_neg (by simp [hdollar])]
      have hplain : stepLiteral c = ([c], .literal) := by
        rw [stepLiteral, if_neg hslash, if_neg htick, if_neg hdollar]
      rw [hplain] at hc
      exact (Leads.of_step hmode hfeed hc).append hrest

/-- A literal shows the text that it was made from. -/
theorem leads_render (text : String) :
    Leads .content (render text).toList text.toList [] .content := by
  have hbrace : Leads .content ['{'] [] [] .brace :=
    ⟨.of_step (by decide) rfl, fun rest => by rw [List.cons_append, starts, if_neg (by simp)]; rfl⟩
  have htick : Leads .brace ['`'] [] [] .literal := .of_step (by decide) (by decide) rfl
  rw [render, String.toList_ofList]
  exact hbrace.append (htick.append (leads_encode text.toList (Or.inl rfl)))

/-! ### Tags -/

/-- The characters that a tag is read over with. -/
def isPlain (c : Char) : Bool := c ≠ '>' && c ≠ '"' && c ≠ '\n'

/-- A tag is read over. -/
theorem leads_plain {cs : List Char} (h : cs.all isPlain = true) : Leads .tag cs [] [] .tag := by
  induction cs with
  | nil => exact .nil
  | cons c cs ih =>
    rw [List.all_cons, Bool.and_eq_true] at h
    simp only [isPlain, Bool.and_eq_true, decide_eq_true_eq] at h
    obtain ⟨⟨⟨hend, hquote⟩, hfeed⟩, hcs⟩ := h
    have hc : step .tag c = some ([], .tag) := by
      rw [step, if_neg hend, if_neg hquote]
    exact (Leads.of_step (by decide) hfeed hc).append (ih hcs)

/-- A string in a tag is read over. -/
theorem leads_quoted {c : Char} (hquote : c ≠ '"') (hslash : c ≠ '\\') (hfeed : c ≠ '\n') :
    Leads .quoted [c] [] [] .quoted := by
  apply Leads.of_step (by decide) hfeed
  rw [step, if_neg hquote, if_neg hslash]

/-- An escape in a string is read over. -/
theorem leads_quotedEscape {c : Char} (hfeed : c ≠ '\n') :
    Leads .quoted ['\\', c] [] [] .quoted := by
  have hslash : Leads .quoted ['\\'] [] [] .quotedEscape := .of_step (by decide) (by decide) rfl
  exact hslash.append (.of_step (by decide) hfeed rfl)

/-- A digit in a string is read over. -/
theorem leads_digit {n : Nat} (h : n < 16) : Leads .quoted [Nat.digitChar n] [] [] .quoted := by
  have hdigit :
      ∀ n < 16, Nat.digitChar n ≠ '"' ∧ Nat.digitChar n ≠ '\\' ∧ Nat.digitChar n ≠ '\n' := by
    decide
  obtain ⟨hquote, hslash, hfeed⟩ := hdigit n h
  exact leads_quoted hquote hslash hfeed

/-- A character of a string does not end it. -/
theorem leads_escapeChar (c : Char) : Leads .quoted (Json.escapeChar c) [] [] .quoted := by
  unfold Json.escapeChar
  split
  · exact leads_quotedEscape (by decide)
  split
  · exact leads_quotedEscape (by decide)
  split
  · exact leads_quotedEscape (by decide)
  split
  · exact leads_quotedEscape (by decide)
  split
  · exact leads_quotedEscape (by decide)
  split
  · exact leads_quotedEscape (by decide)
  split
  · exact leads_quotedEscape (by decide)
  split
  · have hzero : Leads .quoted ['0'] [] [] .quoted := leads_digit (n := 0) (by decide)
    have hbyte : Leads .quoted (Json.hexByte c.toNat) [] [] .quoted :=
      (leads_digit (Nat.mod_lt _ (by decide))).append (leads_digit (Nat.mod_lt _ (by decide)))
    exact (((leads_quotedEscape (by decide)).append hzero).append hzero).append hbyte
  · exact leads_quoted ‹_› ‹_› ‹_›

/-- A string in a tag is passed over. -/
theorem leads_quote (s : String) : Leads .tag (Json.quote s).toList [] [] .tag := by
  have hinside : Leads .quoted (s.toList.flatMap Json.escapeChar) [] [] .quoted := by
    have hflat := Leads.flatMap (l := s.toList) fun c _ => leads_escapeChar c
    rw [List.flatMap_eq_nil_iff.mpr fun c _ => rfl,
      List.flatMap_eq_nil_iff.mpr fun c _ => rfl] at hflat
    exact hflat
  have hopen : Leads .tag ['"'] [] [] .quoted := .of_step (by decide) (by decide) rfl
  have hclose : Leads .quoted ['"'] [] [] .tag := .of_step (by decide) (by decide) rfl
  rw [Json.quote, String.toList_ofList]
  exact hopen.append (hinside.append hclose)

/-! ### Numbers and styles -/

/-- Digits are plain. -/
theorem isPlain_of_isDigit {c : Char} (h : c.isDigit = true) : isPlain c = true := by
  simp only [isPlain, Bool.and_eq_true, decide_eq_true_eq]
  refine ⟨⟨?_, ?_⟩, ?_⟩
  all_goals
    rintro rfl
    exact absurd h (by decide)

/-- A decimal in positional notation is plain. -/
theorem all_isPlain_positional (d : Decimal) : d.positional.toList.all isPlain = true :=
  List.all_eq_true.mpr (Decimal.forall_mem_positional (fun _ => isPlain_of_isDigit) rfl d)

/-- A decimal with an exponent is plain. -/
theorem all_isPlain_scientific (d : Decimal) : d.scientific.toList.all isPlain = true :=
  List.all_eq_true.mpr
    (Decimal.forall_mem_scientific (fun _ => isPlain_of_isDigit) rfl rfl rfl rfl d)

/-- A sign is plain. -/
theorem all_isPlain_sign (negative : Bool) : (Number.sign negative).toList.all isPlain = true := by
  cases negative <;> rfl

/-- The text of a number is plain. -/
theorem all_isPlain_plain (x : Float) : (Number.plain x).toList.all isPlain = true := by
  rcases Number.plain_cases x with hword | ⟨negative, d, hdecimal⟩
  · simp only [List.mem_cons, List.not_mem_nil, or_false] at hword
    rcases hword with hword | hword | hword <;> rw [hword] <;> rfl
  · rw [hdecimal, String.toList_append, List.all_append, all_isPlain_sign, all_isPlain_positional]
    rfl

/-- A number holds nothing that ends a tag or starts a string in it. -/
theorem all_isPlain_json (x : Float) : (Number.json x).toList.all isPlain = true := by
  unfold Number.json
  split
  · rfl
  · rfl
  · split
    · split
      · rfl
      · exact all_isPlain_plain x
    · rw [String.toList_append, List.all_append, all_isPlain_sign]
      unfold Number.jsonDigits
      split
      · split
        · rw [String.toList_append, List.all_append, all_isPlain_positional]
          rfl
        · rw [all_isPlain_positional]
          rfl
      · rw [all_isPlain_scientific]
        rfl

/-- Texts that are read over stay so with commas between them. -/
theorem leads_intercalate {texts : List String} (h : ∀ s ∈ texts, Leads .tag s.toList [] [] .tag) :
    Leads .tag (String.intercalate "," texts).toList [] [] .tag := by
  induction texts with
  | nil => exact .nil
  | cons s texts ih =>
    have hs := h s List.mem_cons_self
    have hrest := ih fun t ht => h t (List.mem_cons_of_mem _ ht)
    cases texts with
    | nil => exact hs
    | cons t texts =>
      have hcomma : Leads .tag ",".toList [] [] .tag := leads_plain rfl
      rw [String.intercalate_cons_cons, String.toList_append, String.toList_append]
      exact (hs.append hcomma).append hrest

/-- A text between two others that are passed over. -/
theorem leads_between {before text after : String} (hbefore : before.toList.all isPlain = true)
    (h : Leads .tag text.toList [] [] .tag) (hafter : after.toList.all isPlain = true) :
    Leads .tag (before ++ text ++ after).toList [] [] .tag := by
  rw [String.toList_append, String.toList_append]
  exact ((leads_plain hbefore).append h).append (leads_plain hafter)

mutual

/-- The compact document of a value is read over in a tag. -/
theorem leads_doc : (v : Value) → Leads .tag v.doc.compact.toList [] [] .tag
  | .number x => leads_plain (all_isPlain_json x)
  | .text s => leads_quote s
  | .list items => leads_between rfl (leads_intercalate (leads_docItems items)) rfl
  | .record fields => leads_between rfl (leads_intercalate (leads_docFields fields)) rfl

/-- The items of a list are read over in a tag. -/
theorem leads_docItems : (vs : List Value) →
    ∀ s ∈ Json.Doc.compactItems (Value.docItems vs), Leads .tag s.toList [] [] .tag
  | [], s, hs => absurd hs List.not_mem_nil
  | v :: vs, s, hs => by
      rcases List.mem_cons.mp hs with rfl | hs
      · exact leads_doc v
      · exact leads_docItems vs s hs

/-- The fields of a record are read over in a tag. -/
theorem leads_docFields : (fs : List (String × Value)) →
    ∀ s ∈ Json.Doc.compactFields (Value.docFields fs), Leads .tag s.toList [] [] .tag
  | [], s, hs => absurd hs List.not_mem_nil
  | (key, v) :: fs, s, hs => by
      rcases List.mem_cons.mp hs with rfl | hs
      · have hcolon : Leads .tag ":".toList [] [] .tag := leads_plain rfl
        rw [String.toList_append, String.toList_append]
        exact ((leads_quote key).append hcolon).append (leads_doc v)
      · exact leads_docFields fs s hs

end

/-- A style in a tag is passed over. -/
theorem leads_json (s : Style) : Leads .tag s.json.toList [] [] .tag :=
  leads_doc (.record s.entries)

/-! ### Runs -/

/-- The start of a nested text. -/
theorem leads_start : Leads .content "<Text ".toList [] ["Text"] .tag := by
  refine ⟨?_, fun rest => rfl⟩
  have hless : Reads .content ['<'] [] .tag := .of_step (by decide) rfl
  have hname : Leads .tag "Text ".toList [] [] .tag := leads_plain rfl
  exact hless.append hname.reads

/-- The end of a nested text. -/
theorem leads_end : Leads .content "</Text>".toList [] [] .content := by
  refine ⟨?_, fun rest => rfl⟩
  have hless : Reads .content ['<'] [] .tag := .of_step (by decide) rfl
  have hname : Leads .tag "/Text".toList [] [] .tag := leads_plain rfl
  exact hless.append (hname.reads.append (.of_step (by decide) rfl))

/-- The markup of a run shows its characters. If there is something to override, it is an element of
its own. -/
theorem leads_runMarkup (override : Style) (characters : String) :
    Leads .content (Node.runMarkup override characters).toList characters.toList
      (if override.isEmpty then [] else ["Text"]) .content := by
  unfold Node.runMarkup
  split
  · exact leads_render characters
  · have hstyle : Leads .tag "style=\x7b".toList [] [] .tag := leads_plain rfl
    have hbrace : Leads .tag ['}'] [] [] .tag := leads_plain rfl
    have hgreater : Leads .tag ['>'] [] [] .content := .of_step (by decide) (by decide) rfl
    have hstart :=
      leads_start.append (hstyle.append ((leads_json override).append (hbrace.append hgreater)))
    have hall := (hstart.append (leads_render characters)).append leads_end
    simp only [String.toList_append]
    simp only [List.append_nil, List.nil_append, List.append_assoc] at hall ⊢
    exact hall

/-- The markup of runs shows their texts, one after the other. The runs with something to override
are elements of their own. -/
theorem leads_runPieces (node : Node) (text : TextContent) (index : Nat) (base : Style)
    (runs : List (TextRun × Nat)) :
    Leads .content (String.join (runs.map (node.runPiece text index base))).toList
      (runs.flatMap fun run => (text.runText run.1).toList)
      ((runs.filter (node.isNested text index base)).map fun _ => "Text") .content := by
  induction runs with
  | nil => exact .nil
  | cons run runs ih =>
    rw [List.map_cons, String.join_cons, String.toList_append, List.flatMap_cons, List.filter_cons]
    unfold Node.runPiece Node.isNested
    by_cases hbase : run.2 = index
    · rw [if_pos hbase, if_neg (by simp [hbase])]
      exact (leads_render _).append ih
    · have hpiece := (leads_runMarkup (Node.override base (node.typography text run.1))
        (text.runText run.1)).append ih
      rw [if_neg hbase]
      by_cases hempty : (Node.override base (node.typography text run.1)).isEmpty = true
      · rw [if_pos hempty] at hpiece
        rw [if_neg (by simp [hempty])]
        exact hpiece
      · rw [if_neg hempty] at hpiece
        rw [if_pos (by simp [hbase, hempty])]
        exact hpiece

end Viewsmith.Markup
