import Viewsmith.Proofs.StyleReferences

/-!
# The reference in artwork

Artwork is inlined with a reference to its style, which belongs into its first start tag. It is
written by a search for `<svg` with a blank after it, everywhere in the text. So the first tag gets
the reference if it has an attribute or at least a blank, and every further tag of that form gets
one as well: artwork that starts with `<svg>` is left without a reference, and artwork inside of
artwork is given the style of the whole.

This module says for all artwork that starts with such a tag when the outcome is the intended one.
The lines that are written are compared with the intended ones by their characters that are not
blank, of which splitting into lines and leaving out blank lines loses none. It loses no reference
either, unless a line feed in the name tears it apart.

## Main definitions

* `Text.ink`: the characters of a text that are not blank.
* `Text.occurrences`: how often characters stand in a text.
* `Element.StyledOnce`: lines of artwork with one reference, in the first tag.

## Main statements

* `Text.flatMap_ink_lines`: the lines of a text have all of its ink.
* `Text.occurrencesIn_lines`: characters stand in the lines as often as in the text.
* `Element.insertReference_of_startTags`: what becomes of artwork with room for one reference.
* `Element.styledOnce_markup_iff`: the artwork that is given exactly one reference, in its first
  tag.
-/

namespace Viewsmith

namespace Text

/-- The characters that are not blank. -/
def ink (cs : List Char) : List Char := cs.filter (!isBlank ·)

/-- The ink of two texts in a row. -/
theorem ink_append (cs ds : List Char) : ink (cs ++ ds) = ink cs ++ ink ds := List.filter_append ..

/-- Blanks have no ink. -/
theorem ink_eq_nil {cs : List Char} (h : ∀ c ∈ cs, isBlank c = true) : ink cs = [] := by
  rw [ink, List.filter_eq_nil_iff]
  intro c hc
  simp [h c hc]

/-- Leading blanks have no ink. -/
theorem ink_dropWhile (cs : List Char) : ink (cs.dropWhile isBlank) = ink cs := by
  induction cs with
  | nil => rfl
  | cons c cs ih =>
    by_cases hc : isBlank c = true
    · rw [List.dropWhile_cons_of_pos hc, ih, ink, ink, List.filter_cons_of_neg (by simp [hc])]
    · rw [List.dropWhile_cons_of_neg hc]

/-- The return that ends a line has no ink. -/
theorem ink_dropReturn (before : List Char) :
    ink (dropReturn before).reverse = ink before.reverse := by
  unfold dropReturn
  split
  · rw [List.reverse_cons, ink_append]
    simp [ink, show isBlank '\r' = true by decide]
  · rfl

/-- The lines of a text hold its ink, in order. -/
theorem flatMap_ink_splitLines (before cs : List Char) :
    (splitLines before cs).flatMap ink = ink before.reverse ++ ink cs := by
  fun_induction splitLines before cs with
  | case1 before hempty =>
    rw [List.isEmpty_iff.mp hempty]
    rfl
  | case2 before hempty => simp [ink]
  | case3 before cs ih =>
    rw [List.flatMap_cons, ih, ink_dropReturn]
    simp [ink, show isBlank '\n' = true by decide]
  | case4 before c cs hc ih =>
    rw [ih, List.reverse_cons, ink_append, List.append_assoc, ← ink_append]; rfl

/-- Blank lines have no ink. -/
theorem flatMap_ink_filter (ls : List String) :
    (ls.filter (!isBlankText ·)).flatMap (fun line => ink line.toList) =
      ls.flatMap fun line => ink line.toList := by
  induction ls with
  | nil => rfl
  | cons line ls ih =>
    rw [List.filter_cons, List.flatMap_cons, ← ih]
    by_cases hblank : isBlankText line = true
    · rw [if_neg (by simp [hblank]), ink_eq_nil (List.all_eq_true.mp hblank), List.nil_append]
    · rw [if_pos (by simp [hblank]), List.flatMap_cons]

/-- The lines of a text that are not blank have all of its ink. -/
theorem flatMap_ink_lines (text : String) :
    ((lines text).filter (!isBlankText ·)).flatMap (fun line => ink line.toList) =
      ink text.toList := by
  rw [flatMap_ink_filter, lines, List.flatMap_map]
  simp only [String.toList_ofList]
  exact flatMap_ink_splitLines [] text.toList

/-- A text is split at every line feed. -/
theorem line_feed_not_mem_of_mem_splitLines {before cs line : List Char} (hbefore : '\n' ∉ before)
    (h : line ∈ splitLines before cs) : '\n' ∉ line := by
  fun_induction splitLines before cs with
  | case1 before hempty => exact absurd h List.not_mem_nil
  | case2 before hempty =>
    rw [List.mem_singleton.mp h, List.mem_reverse]
    exact hbefore
  | case3 before cs ih =>
    rcases List.mem_cons.mp h with rfl | h
    · rw [List.mem_reverse]
      intro hm
      unfold dropReturn at hm
      split at hm
      · exact hbefore (List.mem_cons_of_mem _ hm)
      · exact hbefore hm
    · exact ih List.not_mem_nil h
  | case4 before c cs hc ih =>
    refine ih (fun hm => ?_) h
    rcases List.mem_cons.mp hm with heq | hm
    · exact hc heq.symm
    · exact hbefore hm

/-- No line of a text has a line feed. -/
theorem line_feed_not_mem_of_mem_lines {text line : String} (h : line ∈ lines text) :
    '\n' ∉ line.toList := by
  obtain ⟨cs, hcs, rfl⟩ := List.mem_map.mp h
  rw [String.toList_ofList]
  exact line_feed_not_mem_of_mem_splitLines List.not_mem_nil hcs

/-! ### Occurrences -/

/-- How often some characters stand in a text. -/
def occurrences (pattern cs : List Char) : Nat := cs.tails.countP (pattern.isPrefixOf ·)

/-- How often some characters stand in lines. -/
def occurrencesIn (pattern : List Char) (ls : List String) : Nat :=
  (ls.flatMap fun line => line.toList.tails).countP (pattern.isPrefixOf ·)

section

variable {pattern : List Char}

/-- A pattern with any characters does not stand at the end of a text. -/
theorem isPrefixOf_nil (hne : pattern ≠ []) : pattern.isPrefixOf [] = false := by
  cases pattern with
  | nil => exact absurd rfl hne
  | cons c cs => rfl

/-- A pattern with any characters does not stand in the empty text. -/
theorem occurrences_nil (hne : pattern ≠ []) : occurrences pattern [] = 0 := by
  simp [occurrences, isPrefixOf_nil hne]

/-- Occurrences are counted by where they start. -/
theorem occurrences_cons (c : Char) (cs : List Char) :
    occurrences pattern (c :: cs) =
      occurrences pattern cs + if pattern.isPrefixOf (c :: cs) then 1 else 0 := by
  rw [occurrences, List.tails_cons, List.countP_cons]
  rfl

/-- A pattern occurs in a text if and only if it stands somewhere in it. -/
theorem occurrences_pos_iff (cs : List Char) : 0 < occurrences pattern cs ↔ pattern <:+: cs := by
  rw [occurrences, List.countP_pos_iff, List.infix_iff_prefix_suffix]
  simp only [List.mem_tails, List.isPrefixOf_iff_prefix]
  exact exists_congr fun t => and_comm

/-- A pattern without a line feed does not reach over one. -/
theorem isPrefixOf_append_feed (hfeed : '\n' ∉ pattern) (cs ds : List Char) :
    pattern.isPrefixOf (cs ++ '\n' :: ds) = pattern.isPrefixOf cs := by
  induction pattern generalizing cs with
  | nil => rfl
  | cons p pattern ih =>
    rw [List.mem_cons, not_or] at hfeed
    cases cs with
    | nil =>
      have hp : (p == '\n') = false := by simpa using Ne.symm hfeed.1
      simp [List.isPrefixOf, hp]
    | cons c cs => rw [List.cons_append, List.isPrefixOf, ih hfeed.2, List.isPrefixOf]

/-- What has no line feed stands before one or after it. -/
theorem occurrences_append_feed (hfeed : '\n' ∉ pattern) (hne : pattern ≠ []) (cs ds : List Char) :
    occurrences pattern (cs ++ '\n' :: ds) = occurrences pattern cs + occurrences pattern ds := by
  induction cs with
  | nil =>
    have hnot : pattern.isPrefixOf ('\n' :: ds) = pattern.isPrefixOf [] :=
      isPrefixOf_append_feed hfeed [] ds
    rw [List.nil_append, occurrences_cons, hnot, isPrefixOf_nil hne, occurrences_nil hne,
      Nat.zero_add]
    rfl
  | cons c cs ih =>
    rw [List.cons_append, occurrences_cons, ih, occurrences_cons, ← List.cons_append,
      isPrefixOf_append_feed hfeed]
    omega

/-- What does not end with a carriage return does not stand in one more. -/
theorem occurrences_concat_return (hne : pattern ≠ []) (hlast : pattern.getLast? ≠ some '\r')
    (cs : List Char) : occurrences pattern (cs ++ ['\r']) = occurrences pattern cs := by
  have hprefix (cs : List Char) : pattern.isPrefixOf (cs ++ ['\r']) = pattern.isPrefixOf cs := by
    rw [Bool.eq_iff_iff, List.isPrefixOf_iff_prefix, List.isPrefixOf_iff_prefix,
      List.prefix_concat_iff]
    refine or_iff_right fun heq => hlast ?_
    rw [heq, List.getLast?_concat]
  induction cs with
  | nil =>
    have hnot : pattern.isPrefixOf ['\r'] = pattern.isPrefixOf [] := hprefix []
    rw [List.nil_append, occurrences_cons, hnot, isPrefixOf_nil hne]
    rfl
  | cons c cs ih =>
    rw [List.cons_append, occurrences_cons, ih, occurrences_cons, ← List.cons_append, hprefix]

/-- A pattern that no line end can cut occurs in the lines as often as in the text. -/
theorem countP_tails_splitLines (hfeed : '\n' ∉ pattern) (hne : pattern ≠ [])
    (hlast : pattern.getLast? ≠ some '\r') (before cs : List Char) :
    ((splitLines before cs).flatMap List.tails).countP (pattern.isPrefixOf ·) =
      occurrences pattern (before.reverse ++ cs) := by
  fun_induction splitLines before cs with
  | case1 before hempty =>
    rw [List.isEmpty_iff.mp hempty]
    exact (occurrences_nil hne).symm
  | case2 before hempty => simp [occurrences]
  | case3 before cs ih =>
    have hreturn :
        occurrences pattern (dropReturn before).reverse = occurrences pattern before.reverse := by
      unfold dropReturn
      split
      · rw [List.reverse_cons, occurrences_concat_return hne hlast]
      · rfl
    rw [List.flatMap_cons, List.countP_append, ih, occurrences_append_feed hfeed hne, ← hreturn]
    rfl
  | case4 before c cs hc ih => rw [ih, List.reverse_cons, List.append_assoc]; rfl

/-- On a blank line stands nothing that starts with a character that is not blank. -/
theorem occurrences_of_isBlankText {c : Char} (hhead : pattern.head? = some c)
    (hc : isBlank c = false) {line : String} (hblank : isBlankText line = true) :
    occurrences pattern line.toList = 0 := by
  by_contra hpos
  obtain ⟨rest, rfl⟩ := List.head?_eq_some_iff.mp hhead
  have hinfix := (occurrences_pos_iff _).mp (Nat.pos_of_ne_zero hpos)
  have hmem : c ∈ line.toList := hinfix.subset List.mem_cons_self
  rw [List.all_eq_true.mp hblank c hmem] at hc
  cases hc

/-- A pattern that starts with ink does not occur in a blank line. -/
theorem occurrencesIn_filter {c : Char} (hhead : pattern.head? = some c) (hc : isBlank c = false)
    (ls : List String) :
    occurrencesIn pattern (ls.filter (!isBlankText ·)) = occurrencesIn pattern ls := by
  induction ls with
  | nil => rfl
  | cons line ls ih =>
    have hcons (ls : List String) : occurrencesIn pattern (line :: ls) =
        occurrences pattern line.toList + occurrencesIn pattern ls := List.countP_append
    rw [List.filter_cons, hcons, ← ih]
    by_cases hblank : isBlankText line = true
    · rw [if_neg (by simp [hblank]), occurrences_of_isBlankText hhead hc hblank, Nat.zero_add]
    · rw [if_pos (by simp [hblank]), hcons]

/-- Characters stand in the lines of a text as often as in the text, if they fit on a single line
and start with one that is not blank. -/
theorem occurrencesIn_lines (hfeed : '\n' ∉ pattern) (hlast : pattern.getLast? ≠ some '\r')
    {c : Char} (hhead : pattern.head? = some c) (hc : isBlank c = false) (text : String) :
    occurrencesIn pattern ((lines text).filter (!isBlankText ·)) =
      occurrences pattern text.toList := by
  have hne : pattern ≠ [] := by
    rintro rfl
    cases hhead
  rw [occurrencesIn_filter hhead hc, occurrencesIn, lines, List.flatMap_map]
  simp only [String.toList_ofList]
  exact countP_tails_splitLines hfeed hne hlast [] text.toList

end

end Text

namespace Piece

/-! ### The ink of pieces -/

/-- The character that a piece is. -/
def char? : Piece → Option Char
  | .char c => some c
  | .reference _ => none

/-- The characters among pieces, without those of references. -/
def plainChars (line : List Piece) : List Char := line.filterMap char?

/-- The plain characters of two lines of pieces in a row. -/
theorem plainChars_append (l m : List Piece) : plainChars (l ++ m) = plainChars l ++ plainChars m :=
  List.filterMap_append

/-- What is written into artwork besides references is the ink of the artwork. -/
theorem ink_plainChars_markTags (e : Element) (skipping : Bool) (cs : List Char) :
    Text.ink (plainChars (markTags e skipping cs)) = Text.ink cs := by
  fun_induction markTags e skipping cs with
  | case1 skipping c cs hblank ih =>
    -- the blank after the name is replaced by two, and blanks have no ink
    have hhead :
        Text.ink (plainChars (plain "<svg " ++ [reference e] ++ [char ' '])) = "<svg".toList := by
      show Text.ink ['<', 's', 'v', 'g', ' ', ' '] = _
      decide
    have htag : Text.ink ('<' :: 's' :: 'v' :: 'g' :: c :: cs) = "<svg".toList ++ Text.ink cs := by
      have hfront : Text.ink ['<', 's', 'v', 'g'] = "<svg".toList := by decide
      have hc : Text.ink [c] = [] := Text.ink_eq_nil (by simpa using hblank)
      have hcut : '<' :: 's' :: 'v' :: 'g' :: c :: cs = ['<', 's', 'v', 'g'] ++ ([c] ++ cs) := rfl
      rw [hcut, Text.ink_append, Text.ink_append, hfront, hc, List.nil_append]
    have hcut : plain "<svg " ++ [reference e] ++ char ' ' :: markTags e true cs =
        (plain "<svg " ++ [reference e] ++ [char ' ']) ++ markTags e true cs := by
      simp
    rw [hcut, plainChars_append, Text.ink_append, hhead, ih, htag]
  | case2 skipping c cs hblank ih =>
    have hcut : char '<' :: markTags e false ('s' :: 'v' :: 'g' :: c :: cs) =
        [char '<'] ++ markTags e false ('s' :: 'v' :: 'g' :: c :: cs) := rfl
    rw [hcut, plainChars_append, Text.ink_append, ih, ← Text.ink_append]
    rfl
  | case3 skipping c cs hno hskip ih =>
    have hc : Text.ink [c] = [] :=
      Text.ink_eq_nil (by simpa using (Bool.and_eq_true_iff.mp hskip).2)
    rw [ih, ← List.singleton_append, Text.ink_append, hc, List.nil_append]
  | case4 skipping c cs hno hskip ih =>
    have hcut : char c :: markTags e false cs = [char c] ++ markTags e false cs := rfl
    rw [hcut, plainChars_append, Text.ink_append, ih, ← Text.ink_append]
    rfl
  | case5 => rfl

/-- The ink of a line of pieces: that of its characters, and that of each reference. -/
theorem length_ink_chars {e : Element} {line : List Piece} (h : ∀ d ∈ referred line, d = e) :
    (Text.ink (line.flatMap chars)).length =
      (Text.ink (plainChars line)).length +
        (referred line).length * (Text.ink (Line.styleReference e.name).toList).length := by
  induction line with
  | nil => simp [plainChars, referred, Text.ink]
  | cons p line ih =>
    rw [List.flatMap_cons, Text.ink_append, List.length_append]
    cases p with
    | char c =>
      have hplain : plainChars (char c :: line) = [c] ++ plainChars line := rfl
      rw [ih h, hplain, Text.ink_append, List.length_append, Nat.add_assoc]
      rfl
    | reference d =>
      obtain ⟨rfl, hrest⟩ := List.forall_mem_cons.mp h
      rw [ih hrest, referred_reference_cons, List.length_cons, Nat.add_mul, Nat.one_mul]
      show (Text.ink (Line.styleReference d.name).toList).length + _ =
        (Text.ink (plainChars line)).length + _
      omega

/-- Artwork without a place for a reference is left alone, but for the blanks that are skipped. -/
theorem markTags_of_referred_eq_nil {e : Element} {skipping : Bool} {cs : List Char}
    (h : referred (markTags e skipping cs) = []) :
    markTags e skipping cs = (if skipping then cs.dropWhile Text.isBlank else cs).map char := by
  have hless : Text.isBlank '<' = false := by decide
  fun_induction markTags e skipping cs with
  | case1 skipping c cs hblank ih =>
    rw [referred_append] at h
    simp at h
  | case2 skipping c cs hblank ih =>
    rw [ih h, if_neg Bool.false_ne_true, List.dropWhile_cons_of_neg (by simp [hless]), ite_self]
    rfl
  | case3 skipping c cs hno hskip ih =>
    obtain ⟨hskipping, hc⟩ := Bool.and_eq_true_iff.mp hskip
    rw [ih h, if_pos rfl, if_pos hskipping, List.dropWhile_cons_of_pos hc]
  | case4 skipping c cs hno hskip ih =>
    rw [ih h, if_neg Bool.false_ne_true]
    by_cases hskipping : skipping = true
    · have hc : ¬ Text.isBlank c = true := fun hc => hskip (by rw [hskipping, hc]; rfl)
      rw [if_pos hskipping, List.dropWhile_cons_of_neg hc]
      rfl
    · rw [if_neg hskipping]
      rfl
  | case5 skipping => cases skipping <;> rfl

end Piece

namespace Element

open Piece

/-! ### One reference -/

/-- What follows the name of a tag: a blank, or the end of the tag. -/
def EndsName (rest : List Char) : Prop :=
  ∃ c cs, rest = c :: cs ∧ (Text.isBlank c = true ∨ c = '>' ∨ c = '/')

/-- The lines are those of artwork that starts with a tag, with the reference once, in that tag:
after the name, between blanks that stand in the place of those that were there. The artwork is
`<svg` with `rest` after it. Blank lines are left out, and nothing else is changed. -/
def StyledOnce (reference rest : List Char) (lines : List String) : Prop :=
  (∃ before after : List Char, before ≠ [] ∧ (∀ c ∈ before ++ after, Text.isBlank c = true) ∧
    lines = (Text.lines (String.ofList ("<svg".toList ++ before ++ reference ++ after ++
      rest.dropWhile Text.isBlank))).filter (!Text.isBlankText ·)) ∧
    Text.occurrencesIn reference lines = 1

section

variable {e : Element} {svg : String} {rest : List Char}

/-- The markup of a piece of artwork is its lines, indented. -/
theorem markup_of_vector (h : e.content = .vector svg) (indent depth : Nat) :
    e.markup indent depth = (artworkLines e.name svg).map (Text.spaces (depth * indent) ++ ·) := by
  obtain ⟨name, content, style, children⟩ := e
  cases h
  rw [markup, lines, List.map_map]
  rfl

/-- A reference to a style starts with the name of an attribute. -/
theorem exists_styleReference_eq (name : String) :
    ∃ cs, (Line.styleReference name).toList = 's' :: 't' :: cs := by
  rw [styleReference_toList]
  exact ⟨_, rfl⟩

/-- A reference to a style ends with a brace. -/
theorem getLast?_styleReference (name : String) :
    (Line.styleReference name).toList.getLast? = some '}' := by
  rw [styleReference_toList, List.getLast?_concat]

/-- A reference has a line feed only if the name that it refers to has one. -/
theorem line_feed_mem_styleReference_iff (name : String) :
    '\n' ∈ (Line.styleReference name).toList ↔ '\n' ∈ name.toList := by
  simp [styleReference_toList]

/-- The lines of artwork have no line feed, so no reference with one stands in them. -/
theorem StyledOnce.line_feed_not_mem
    (h : StyledOnce (Line.styleReference e.name).toList rest (artworkLines e.name svg)) :
    '\n' ∉ e.name.toList := by
  have hpos :
      0 < Text.occurrencesIn (Line.styleReference e.name).toList (artworkLines e.name svg) := by
    rw [h.2]
    exact Nat.one_pos
  obtain ⟨tail, htail, hprefix⟩ := List.countP_pos_iff.mp hpos
  obtain ⟨line, hline, hsuffix⟩ := List.mem_flatMap.mp htail
  have hfeed := Text.line_feed_not_mem_of_mem_lines (List.mem_filter.mp hline).1
  rw [← line_feed_mem_styleReference_iff]
  intro hm
  exact hfeed (((List.mem_tails _ _).mp hsuffix).subset
    ((List.isPrefixOf_iff_prefix.mp hprefix).subset hm))

/-- The name of the tag is all ink. -/
theorem ink_tagName : Text.ink "<svg".toList = "<svg".toList := by decide

/-- Lines with one reference have the ink of the artwork and that of the reference. -/
theorem StyledOnce.ink_eq
    (h : StyledOnce (Line.styleReference e.name).toList rest (artworkLines e.name svg)) :
    Text.ink (insertReference (Line.styleReference e.name).toList false svg.toList) =
      "<svg".toList ++ Text.ink (Line.styleReference e.name).toList ++ Text.ink rest := by
  obtain ⟨⟨before, after, -, hblank, hlines⟩, -⟩ := h
  obtain ⟨hbefore, hafter⟩ := List.forall_mem_append.mp hblank
  have hink := congrArg (List.flatMap fun line : String => Text.ink line.toList) hlines
  rw [artworkLines, Text.flatMap_ink_lines, Text.flatMap_ink_lines, String.toList_ofList,
    String.toList_ofList] at hink
  rw [hink]
  simp only [Text.ink_append, ink_tagName, Text.ink_eq_nil hbefore, Text.ink_eq_nil hafter,
    Text.ink_dropWhile, List.append_nil]

/-- What is no tag is passed by. -/
theorem insertReference_cons {c : Char} (hc : c ≠ '<') (reference cs : List Char) :
    insertReference reference false (c :: cs) = c :: insertReference reference false cs := by
  rw [insertReference]
  · rfl
  · intro d ds heq
    exact absurd heq hc

/-- The ink of a reference starts as the reference does. -/
theorem exists_ink_styleReference (name : String) :
    ∃ cs, Text.ink (Line.styleReference name).toList = 's' :: cs := by
  obtain ⟨cs, hcs⟩ := exists_styleReference_eq name
  rw [hcs, Text.ink, List.filter_cons_of_pos (by decide)]
  exact ⟨_, rfl⟩

/-- The first tag has room for the reference. Without a blank after its name it is left alone, and
what comes next is the end of the tag and not the reference. -/
theorem StyledOnce.startsTag
    (h : StyledOnce (Line.styleReference e.name).toList rest (artworkLines e.name svg))
    (hsvg : svg.toList = "<svg".toList ++ rest) (hend : EndsName rest) :
    startsTag svg.toList = true := by
  obtain ⟨c, cs, rfl, hc⟩ := hend
  rw [hsvg]
  by_contra hroom
  have hblank : ¬ Text.isBlank c = true := hroom
  have hless : c ≠ '<' := by
    rcases hc.resolve_left hblank with rfl | rfl <;> decide
  have hs : c ≠ 's' := by
    rcases hc.resolve_left hblank with rfl | rfl <;> decide
  have hleft (r : List Char) : insertReference r false ("<svg".toList ++ c :: cs) =
      "<svg".toList ++ c :: insertReference r false cs := by
    show insertReference r false ('<' :: 's' :: 'v' :: 'g' :: c :: cs) = _
    rw [insertReference, if_neg hblank, insertReference_cons (by decide),
      insertReference_cons (by decide), insertReference_cons (by decide),
      insertReference_cons hless]
    rfl
  obtain ⟨more, hmore⟩ := exists_ink_styleReference e.name
  have hink := h.ink_eq
  rw [hsvg, hleft, Text.ink_append, hmore, ink_tagName, List.append_assoc,
    List.append_cancel_left_eq, Text.ink, List.filter_cons_of_pos (by simpa using hblank),
    List.cons_append] at hink
  exact hs (List.cons.inj hink).1

/-- There is room for one reference, since each adds its ink. -/
theorem StyledOnce.startTags_eq_one
    (h : StyledOnce (Line.styleReference e.name).toList rest (artworkLines e.name svg))
    (hsvg : svg.toList = "<svg".toList ++ rest) : startTags svg = 1 := by
  have hreferred := referred_markTags e false svg.toList
  have hself : ∀ d ∈ referred (markTags e false svg.toList), d = e := by
    rw [hreferred]
    intro d hd
    exact List.eq_of_mem_replicate hd
  have hleft := length_ink_chars hself
  rw [flatMap_chars_markTags, h.ink_eq, ink_plainChars_markTags, hreferred,
    List.length_replicate, hsvg, Text.ink_append, ink_tagName, ← hsvg] at hleft
  obtain ⟨more, hmore⟩ := exists_ink_styleReference e.name
  simp only [hmore, List.length_append, List.length_cons] at hleft
  have hcount : startTags svg * (more.length + 1) = 1 * (more.length + 1) := by
    unfold startTags
    omega
  exact Nat.eq_of_mul_eq_mul_right (Nat.succ_pos _) hcount

/-- If the first tag has room for a reference and no other has, then it is written there, and
nothing else is changed. -/
theorem insertReference_of_startTags (e : Element) (hsvg : svg.toList = "<svg".toList ++ rest)
    (hroom : Piece.startsTag svg.toList = true) (hone : startTags svg = 1) :
    insertReference (Line.styleReference e.name).toList false svg.toList =
      "<svg ".toList ++
      ((Line.styleReference e.name).toList ++ ' ' :: rest.dropWhile Text.isBlank) := by
  cases rest with
  | nil =>
    rw [hsvg] at hroom
    cases hroom
  | cons c cs =>
    have hblank : Text.isBlank c = true := by
      rw [hsvg] at hroom
      exact hroom
    have hmark : markTags e false svg.toList =
        plain "<svg " ++ [reference e] ++ char ' ' :: markTags e true cs := by
      rw [hsvg]
      show markTags e false ('<' :: 's' :: 'v' :: 'g' :: c :: cs) = _
      rw [markTags, if_pos hblank]
    -- the one reference is that of the first tag, so none is left for what follows
    have hnone : referred (markTags e true cs) = [] := by
      have hreferred := referred_markTags e false svg.toList
      have hcount : svg.toList.tails.countP Piece.startsTag = 1 := hone
      rw [hcount, hmark, referred_append, referred_append, referred_plain] at hreferred
      exact (List.cons.inj hreferred).2
    rw [← flatMap_chars_markTags, hmark, markTags_of_referred_eq_nil hnone, if_pos rfl,
      List.dropWhile_cons_of_pos hblank, ← List.map_cons (f := char), List.flatMap_append,
      List.flatMap_append, plain, flatMap_chars_map_char, flatMap_chars_map_char,
      List.flatMap_singleton, List.append_assoc]
    rfl

/-- The reference that is written counts once, besides what begins after its first character. -/
theorem occurrences_styled (name : String) (cs : List Char) :
    Text.occurrences (Line.styleReference name).toList
      ("<svg ".toList ++ ((Line.styleReference name).toList ++ cs)) =
      Text.occurrences (Line.styleReference name).toList
        ((Line.styleReference name).toList ++ cs).tail + 1 := by
  obtain ⟨more, hmore⟩ := exists_styleReference_eq name
  rw [hmore]
  show Text.occurrences _ ('<' :: 's' :: 'v' :: 'g' :: ' ' :: ('s' :: 't' :: more ++ cs)) = _
  have hself : ('s' :: 't' :: more).isPrefixOf ('s' :: 't' :: more ++ cs) = true :=
    List.isPrefixOf_iff_prefix.mpr (List.prefix_append _ _)
  rw [Text.occurrences_cons, Text.occurrences_cons, Text.occurrences_cons, Text.occurrences_cons,
    Text.occurrences_cons, List.cons_append, Text.occurrences_cons, ← List.cons_append, hself]
  rfl

/-- The lines of artwork with room for one reference have it once, unless the reference holds a line
feed or stands in the artwork already. -/
theorem occurrencesIn_artworkLines (hsvg : svg.toList = "<svg".toList ++ rest)
    (hroom : Piece.startsTag svg.toList = true) (hone : startTags svg = 1)
    (hfeed : '\n' ∉ e.name.toList) :
    Text.occurrencesIn (Line.styleReference e.name).toList (artworkLines e.name svg) =
      Text.occurrences (Line.styleReference e.name).toList
        ((Line.styleReference e.name).toList ++ ' ' :: rest.dropWhile Text.isBlank).tail + 1 := by
  obtain ⟨more, hmore⟩ := exists_styleReference_eq e.name
  have hlast : (Line.styleReference e.name).toList.getLast? ≠ some '\r' := by
    rw [getLast?_styleReference]
    decide
  rw [artworkLines,
    Text.occurrencesIn_lines (mt (line_feed_mem_styleReference_iff e.name).mp hfeed) hlast
      (by rw [hmore]; rfl) (by decide : Text.isBlank 's' = false), String.toList_ofList,
    insertReference_of_startTags e hsvg hroom hone, occurrences_styled]

/-- The lines of the markup have the same space before them, so they are those of the artwork. -/
theorem StyledOnce.of_markup (he : e.content = .vector svg) {indent depth : Nat}
    {lines : List String}
    (hlines : e.markup indent depth = lines.map (Text.spaces (depth * indent) ++ ·))
    (h : StyledOnce (Line.styleReference e.name).toList rest lines) :
    StyledOnce (Line.styleReference e.name).toList rest (artworkLines e.name svg) := by
  have hinj : Function.Injective (Text.spaces (depth * indent) ++ ·) := by
    intro s t hst
    exact String.append_right_inj _ |>.mp hst
  rw [markup_of_vector he] at hlines
  exact List.map_injective_iff.mpr hinj hlines ▸ h

/-- Artwork that starts with a tag is written with its reference exactly once, in that tag, and is
otherwise kept, if and only if a blank follows the name of the tag, no other tag has one there, the
name of the element has no line feed, and the reference does not stand in the artwork already. -/
theorem styledOnce_markup_iff (he : e.content = .vector svg)
    (hsvg : svg.toList = "<svg".toList ++ rest) (hend : EndsName rest) (indent depth : Nat) :
    (∃ lines, e.markup indent depth = lines.map (Text.spaces (depth * indent) ++ ·) ∧
      StyledOnce (Line.styleReference e.name).toList rest lines) ↔
    Piece.startsTag svg.toList = true ∧ startTags svg = 1 ∧ '\n' ∉ e.name.toList ∧
      ¬ (Line.styleReference e.name).toList <:+:
        ((Line.styleReference e.name).toList ++ ' ' :: rest.dropWhile Text.isBlank).tail := by
  rw [← Text.occurrences_pos_iff]
  constructor
  · rintro ⟨lines, hlines, hstyled⟩
    have h := hstyled.of_markup he hlines
    have hroom := h.startsTag hsvg hend
    have hone := h.startTags_eq_one hsvg
    have hfeed := h.line_feed_not_mem
    have hcount := h.2
    -- one reference is the one inserted, so the rest of the text holds none
    rw [occurrencesIn_artworkLines hsvg hroom hone hfeed] at hcount
    exact ⟨hroom, hone, hfeed, by omega⟩
  · rintro ⟨hroom, hone, hfeed, hnot⟩
    have hblank : ∀ c ∈ [' '] ++ [' '], Text.isBlank c = true := by
      intro c hc
      rw [List.mem_append, or_self, List.mem_singleton] at hc
      rw [hc]
      decide
    refine ⟨_, markup_of_vector he indent depth,
      ⟨[' '], [' '], List.cons_ne_nil _ _, hblank, ?_⟩, ?_⟩
    · rw [artworkLines, insertReference_of_startTags e hsvg hroom hone]
      simp
    · rw [occurrencesIn_artworkLines hsvg hroom hone hfeed]
      omega

end

/-- An attribute on the next line and a blank line inside: there is one reference, in the first
line. -/
theorem styledOnce_markup_icon :
    EndsName "\n width=\"10\">\n\n<path/></svg>".toList ∧
    ∃ lines,
      (Element.mk "icon" (.vector "<svg\n width=\"10\">\n\n<path/></svg>") {} []).markup 2 1 =
        lines.map (Text.spaces (1 * 2) ++ ·) ∧
      StyledOnce (Line.styleReference "icon").toList "\n width=\"10\">\n\n<path/></svg>".toList
        lines := by
  have hend : EndsName "\n width=\"10\">\n\n<path/></svg>".toList :=
    ⟨'\n', _, rfl, .inl (by decide)⟩
  exact ⟨hend, (styledOnce_markup_iff rfl (by decide) hend 2 1).mpr
    ⟨by decide, by decide, by decide, by decide +kernel⟩⟩

/-- A first tag without attributes is left without the reference, and a tag inside of it gets one as
well. -/
theorem bare_and_nested_not_styledOnce :
    (Element.mk "icon" (.vector "<svg><path d=\"M0 0\"/></svg>") {} []).markup 2 0 =
      ["<svg><path d=\"M0 0\"/></svg>"] ∧
    ¬ StyledOnce (Line.styleReference "icon").toList "><path d=\"M0 0\"/></svg>".toList
      ["<svg><path d=\"M0 0\"/></svg>"] ∧
    (Element.mk "icon" (.vector "<svg width=\"10\"><svg x=\"1\"/></svg>") {} []).markup 2 0 =
      ["<svg style=\x7bstyles.icon\x7d width=\"10\"><svg style=\x7bstyles.icon\x7d x=\"1\"/></svg>"] ∧
    ¬ StyledOnce (Line.styleReference "icon").toList " width=\"10\"><svg x=\"1\"/></svg>".toList
      ["<svg style=\x7bstyles.icon\x7d width=\"10\"><svg style=\x7bstyles.icon\x7d x=\"1\"/></svg>"] := by
  have hbare : (Element.mk "icon" (.vector "<svg><path d=\"M0 0\"/></svg>") {} []).markup 2 0 =
      ["<svg><path d=\"M0 0\"/></svg>"] := by decide +kernel
  have hnested :
      (Element.mk "icon" (.vector "<svg width=\"10\"><svg x=\"1\"/></svg>") {} []).markup 2 0 =
      ["<svg style=\x7bstyles.icon\x7d width=\"10\"><svg style=\x7bstyles.icon\x7d x=\"1\"/></svg>"] := by
    decide +kernel
  -- at depth 0 there is no space before a line
  have hspace (lines : List String) : lines = lines.map (Text.spaces (0 * 2) ++ ·) := by
    have hid : (Text.spaces (0 * 2) ++ ·) = id := funext fun line => String.empty_append
    rw [hid, List.map_id]
  refine ⟨hbare, fun h => ?_, hnested, fun h => ?_⟩
  · have hroom := (StyledOnce.of_markup rfl (hbare.trans (hspace _)) h).startsTag (by decide)
      ⟨'>', _, rfl, .inr (.inl rfl)⟩
    exact absurd hroom (by decide)
  · have hone :=
      (StyledOnce.of_markup rfl (hnested.trans (hspace _)) h).startTags_eq_one (by decide)
    exact absurd hone (by decide)

end Element

end Viewsmith
