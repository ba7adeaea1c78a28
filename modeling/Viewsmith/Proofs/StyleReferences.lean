import Mathlib.Data.List.Infix
import Viewsmith.Module.Emit
import Viewsmith.Proofs.DistinctNames

/-!
# References to styles

The markup of a tree refers to the styles of its elements by name. Here its lines are cut into
pieces: characters, and the references that are written for the elements. The pieces spell the
lines, and the references, line by line, are the elements that are written, each before those below
it. These are also the elements whose styles the stylesheet lists, so no reference is open and no
style is unused.

Artwork is split into lines after its reference was written. A line feed in the name of artwork
would tear the reference apart, and then no cut of the lines has it as a piece
(`line_feed_not_mem_of_referred`).

## Main definitions

* `Piece`: a character, or a reference to the style of an element.
* `Element.cut`: the markup of a tree in pieces.
* `startTags`: the number of start tags in artwork that have room for a reference.

## Main statements

* `Element.lineText_cut`: the pieces spell the markup.
* `Element.referred_cut`: the references are the elements that are written, in order.
* `Element.references_closed`: references and entries of the stylesheet match one by one.
-/

namespace Viewsmith

namespace Line

/-- The text of a start. -/
theorem text_start (tag : Tag) (name : String) (image : Option String) :
    (start tag name image).text =
      "<" ++ tag.name ++ " " ++ styleReference name ++ sourceAttribute image ++ ">" := rfl

/-- The text of a container on one line. -/
theorem text_single (tag : Tag) (name : String) (image : Option String) :
    (single tag name image).text =
      "<" ++ tag.name ++ " " ++ styleReference name ++ sourceAttribute image ++ "/>" := rfl

/-- The text of the start of a text. -/
theorem text_textStart (name : String) (maxLines : Option Nat) :
    (textStart name maxLines).text =
      "<Text " ++ styleReference name ++ lineLimit maxLines ++ ">" := rfl

end Line

/-- A piece of a line of markup: a character, or the reference to the style of an element. -/
inductive Piece where
  | char (c : Char)
  | reference (e : Element)

namespace Piece

/-- The characters of a piece. -/
def chars : Piece → List Char
  | .char c => [c]
  | .reference e => (Line.styleReference e.name).toList

/-- The element that a piece refers to. -/
def element? : Piece → Option Element
  | .char _ => none
  | .reference e => some e

/-- The text of a line of pieces. -/
def lineText (line : List Piece) : String := String.ofList (line.flatMap chars)

/-- The elements that a line of pieces refers to. -/
def referred (line : List Piece) : List Element := line.filterMap element?

/-- A text without references. -/
def plain (text : String) : List Piece := text.toList.map char

/-- Characters as pieces spell themselves. -/
theorem flatMap_chars_map_char (cs : List Char) : (cs.map char).flatMap chars = cs := by
  induction cs with
  | nil => rfl
  | cons c cs ih => rw [List.map_cons, List.flatMap_cons, ih]; rfl

/-- The text of two lines of pieces in a row. -/
@[simp] theorem lineText_append (l m : List Piece) :
    lineText (l ++ m) = lineText l ++ lineText m := by
  simp [lineText]

/-- A plain text spells itself. -/
@[simp] theorem lineText_plain (text : String) : lineText (plain text) = text := by
  rw [lineText, plain, flatMap_chars_map_char, String.ofList_toList]

/-- A reference is spelled by the name of its element. -/
@[simp] theorem lineText_reference_cons (e : Element) (l : List Piece) :
    lineText (reference e :: l) = Line.styleReference e.name ++ lineText l := by
  simp [lineText, chars]

/-- The references of two lines of pieces in a row. -/
@[simp] theorem referred_append (l m : List Piece) : referred (l ++ m) = referred l ++ referred m :=
  List.filterMap_append

/-- A plain text refers to nothing. -/
@[simp] theorem referred_plain (text : String) : referred (plain text) = [] := by
  simp [referred, plain, List.filterMap_map, Function.comp_def, element?]

/-- A reference refers to its element. -/
@[simp] theorem referred_reference_cons (e : Element) (l : List Piece) :
    referred (reference e :: l) = e :: referred l := rfl

/-! ### Artwork in pieces -/

/-- Whether a text starts with a start tag that has room for an attribute. -/
def startsTag : List Char → Bool
  | '<' :: 's' :: 'v' :: 'g' :: c :: _ => Text.isBlank c
  | _ => false

/-- Write a reference to `e` into every start tag that has room for an attribute. While `skipping`,
blanks are dropped. -/
def markTags (e : Element) : (skipping : Bool) → List Char → List Piece
  | _, '<' :: 's' :: 'v' :: 'g' :: c :: cs =>
    if Text.isBlank c then plain "<svg " ++ [reference e] ++ char ' ' :: markTags e true cs
    else char '<' :: markTags e false ('s' :: 'v' :: 'g' :: c :: cs)
  | skipping, c :: cs =>
    if skipping && Text.isBlank c then markTags e true cs else char c :: markTags e false cs
  | _, [] => []

/-- Drop a carriage return; the line stands backwards. -/
def dropReturn : List Piece → List Piece
  | char '\r' :: line => line
  | line => line

/-- The lines of a text in pieces; `before` holds the line so far, backwards. -/
def splitLines (before : List Piece) : List Piece → List (List Piece)
  | [] => if before.isEmpty then [] else [before.reverse]
  | char c :: line =>
    if c = '\n' then (dropReturn before).reverse :: splitLines [] line
    else splitLines (char c :: before) line
  | reference e :: line => splitLines (reference e :: before) line

/-- Whether a line holds nothing but blanks. -/
def isBlankLine (line : List Piece) : Bool := line.all fun
  | char c => Text.isBlank c
  | reference _ => false

end Piece

/-- The number of start tags in artwork that have room for an attribute. -/
def startTags (svg : String) : Nat := svg.toList.tails.countP Piece.startsTag

/-- The lines of artwork in pieces, with a reference to `e`. -/
def artworkPieces (e : Element) (svg : String) : List (List Piece) :=
  (Piece.splitLines [] (Piece.markTags e false svg.toList)).filter (!Piece.isBlankLine ·)

namespace Piece

/-! ### References into artwork -/

/-- Tags that are marked with pieces spell tags that a reference is written into. -/
theorem flatMap_chars_markTags (e : Element) (skipping : Bool) (cs : List Char) :
    (markTags e skipping cs).flatMap chars =
      insertReference (Line.styleReference e.name).toList skipping cs := by
  fun_induction markTags e skipping cs with
  | case1 skipping c cs hblank ih =>
    rw [insertReference, if_pos hblank, ← ih]
    simp [plain, chars]
  | case2 skipping c cs hblank ih =>
    rw [insertReference, if_neg hblank, ← ih]
    rfl
  | case3 skipping c cs hno hskip ih =>
    rw [insertReference, if_pos hskip, ih]
    exact hno
  | case4 skipping c cs hno hskip ih =>
    rw [insertReference, if_neg hskip, ← ih]
    · rfl
    · exact hno
  | case5 => rfl

/-- A tag starts with a bracket. -/
theorem startsTag_of_ne {c : Char} (h : c ≠ '<') (cs : List Char) :
    startsTag (c :: cs) = false := by
  unfold startsTag
  split
  · rename_i heq
    exact absurd (List.cons.inj heq).1 h
  · rfl

/-- Every start tag with room for an attribute gets one reference. -/
theorem referred_markTags (e : Element) (skipping : Bool) (cs : List Char) :
    referred (markTags e skipping cs) = List.replicate (cs.tails.countP startsTag) e := by
  fun_induction markTags e skipping cs with
  | case1 skipping c cs hblank ih =>
    have hc : c ≠ '<' := by
      rintro rfl
      cases hblank
    -- of the five characters that are passed only the first starts a tag
    have hcount : ('<' :: 's' :: 'v' :: 'g' :: c :: cs).tails.countP startsTag
        = cs.tails.countP startsTag + 1 := by
      have hfirst : startsTag ('<' :: 's' :: 'v' :: 'g' :: c :: cs) = true := hblank
      simp only [List.tails_cons, List.countP_cons, hfirst, startsTag_of_ne hc,
        startsTag_of_ne (by decide : 's' ≠ '<'), startsTag_of_ne (by decide : 'v' ≠ '<'),
        startsTag_of_ne (by decide : 'g' ≠ '<'), if_true, Bool.false_eq_true, if_false,
        Nat.add_zero]
    rw [hcount, List.replicate_succ, ← ih]
    rfl
  | case2 skipping c cs hblank ih =>
    rw [List.tails_cons, List.countP_cons_of_neg (by simpa [startsTag] using hblank)]
    exact ih
  | case3 skipping c cs hno hskip ih =>
    have hc : c ≠ '<' := by
      rintro rfl
      exact absurd (Bool.and_eq_true_iff.mp hskip).2 (by decide)
    rw [List.tails_cons, List.countP_cons_of_neg (by simp [startsTag_of_ne hc])]
    exact ih
  | case4 skipping c cs hno hskip ih =>
    have hstart : startsTag (c :: cs) = false := by
      unfold startsTag
      split
      · rename_i heq
        obtain ⟨hc, hcs⟩ := List.cons.inj heq
        exact absurd hcs (hno _ _ hc)
      · rfl
    rw [List.tails_cons, List.countP_cons_of_neg (by simp [hstart])]
    exact ih
  | case5 => simp [referred, startsTag]

/-! ### Lines of pieces -/

/-- The characters of a line that stands backwards. -/
def backwards (before : List Piece) : List Char := (before.reverse.flatMap chars).reverse

/-- One more piece at the end of a line that stands backwards. -/
theorem backwards_cons (p : Piece) (before : List Piece) :
    backwards (p :: before) = p.chars.reverse ++ backwards before := by
  simp [backwards]

/-- The characters of a reference. -/
theorem styleReference_toList (name : String) :
    (Line.styleReference name).toList =
      's' :: "tyle=\x7bstyles.".toList ++ name.toList ++ ['}'] := by
  simp [Line.styleReference]

/-- Only a line without pieces has no characters, since no reference is empty. -/
theorem backwards_isEmpty (before : List Piece) : (backwards before).isEmpty = before.isEmpty := by
  cases before with
  | nil => rfl
  | cons p before =>
    rw [backwards_cons]
    cases p with
    | char c => rfl
    | reference e => simp [chars, styleReference_toList]

/-- A reference ends with a brace, so only a character of its own is taken for a carriage return. -/
theorem dropReturn_backwards (before : List Piece) :
    Text.dropReturn (backwards before) = backwards (dropReturn before) := by
  cases before with
  | nil => rfl
  | cons p before =>
    rw [backwards_cons]
    cases p with
    | char c =>
      by_cases hc : c = '\r'
      · subst hc
        rfl
      · have hpiece : dropReturn (char c :: before) = char c :: before := by
          unfold dropReturn
          split
          · rename_i heq
            cases heq
            exact absurd rfl hc
          · rfl
        rw [hpiece, backwards_cons]
        unfold Text.dropReturn
        split
        · rename_i heq
          exact absurd (List.cons.inj heq).1 hc
        · rfl
    | reference e =>
      rw [dropReturn, backwards_cons]
      · simp [chars, styleReference_toList, Text.dropReturn]
      · nofun

/-- Characters without a line feed go on with the line. -/
theorem splitLines_of_not_mem {cs : List Char} (h : '\n' ∉ cs) (before rest : List Char) :
    Text.splitLines before (cs ++ rest) = Text.splitLines (cs.reverse ++ before) rest := by
  induction cs generalizing before with
  | nil => rfl
  | cons c cs ih =>
    rw [List.mem_cons, not_or] at h
    rw [List.cons_append, Text.splitLines, if_neg (Ne.symm h.1), ih h.2]
    simp

/-- Lines of pieces spell the lines of the text, if no reference holds a line feed. -/
theorem map_chars_splitLines (before line : List Piece)
    (h : ∀ e, reference e ∈ line → '\n' ∉ e.name.toList) :
    (splitLines before line).map (·.flatMap chars) =
      Text.splitLines (backwards before) (line.flatMap chars) := by
  fun_induction splitLines before line with
  | case1 before hempty =>
    rw [List.flatMap_nil, Text.splitLines, backwards_isEmpty, if_pos hempty]
    rfl
  | case2 before hempty =>
    rw [List.flatMap_nil, Text.splitLines, backwards_isEmpty, if_neg hempty]
    simp [backwards]
  | case3 before line ih =>
    have hrest := ih fun e he => h e (List.mem_cons_of_mem _ he)
    rw [List.map_cons, hrest, List.flatMap_cons]
    show _ = Text.splitLines (backwards before) ('\n' :: line.flatMap chars)
    rw [Text.splitLines, if_pos rfl, dropReturn_backwards]
    simp [backwards]
  | case4 before c line hc ih =>
    rw [ih fun e he => h e (List.mem_cons_of_mem _ he), List.flatMap_cons, backwards_cons]
    show _ = Text.splitLines (backwards before) (c :: line.flatMap chars)
    rw [Text.splitLines, if_neg hc]
    rfl
  | case5 before e line ih =>
    -- a reference is passed as one piece, so its characters must not end a line
    have hname : '\n' ∉ (reference e).chars := by
      have hflat := h e List.mem_cons_self
      simp [chars, styleReference_toList, hflat]
    rw [ih fun d hd => h d (List.mem_cons_of_mem _ hd), List.flatMap_cons, backwards_cons,
      splitLines_of_not_mem hname]

/-- A return refers to nothing. -/
theorem referred_dropReturn (before : List Piece) :
    referred (dropReturn before).reverse = referred before.reverse := by
  unfold dropReturn
  split
  · simp [referred, element?]
  · rfl

/-- Splitting into lines loses no reference. -/
theorem flatMap_referred_splitLines (before line : List Piece) :
    (splitLines before line).flatMap referred = referred before.reverse ++ referred line := by
  fun_induction splitLines before line with
  | case1 before hempty =>
    rw [List.isEmpty_iff.mp hempty]
    rfl
  | case2 before hempty => simp [referred]
  | case3 before line ih =>
    rw [List.flatMap_cons, ih, referred_dropReturn]
    rfl
  | case4 before c line hc ih =>
    rw [ih, List.reverse_cons, referred_append, List.append_assoc]
    rfl
  | case5 before e line ih =>
    rw [ih, List.reverse_cons, referred_append, List.append_assoc]
    rfl

/-- A line is blank if its pieces are. -/
theorem isBlankText_lineText (line : List Piece) :
    Text.isBlankText (lineText line) = isBlankLine line := by
  unfold Text.isBlankText lineText
  rw [String.toList_ofList]
  induction line with
  | nil => rfl
  | cons p line ih =>
    rw [List.flatMap_cons, List.all_append, ih]
    cases p with
    | char c => simp [chars, isBlankLine]
    | reference e =>
      have hs : Text.isBlank 's' = false := by decide
      simp [chars, styleReference_toList, isBlankLine, hs]

/-- A blank line holds no reference. -/
theorem referred_of_isBlankLine {line : List Piece} (h : isBlankLine line = true) :
    referred line = [] := by
  unfold referred
  rw [List.filterMap_eq_nil_iff]
  intro p hp
  cases p with
  | char c => rfl
  | reference e => exact absurd (List.all_eq_true.mp h _ hp) nofun

/-- Blank lines refer to nothing. -/
theorem flatMap_referred_filter (lines : List (List Piece)) :
    (lines.filter (!isBlankLine ·)).flatMap referred = lines.flatMap referred := by
  induction lines with
  | nil => rfl
  | cons line lines ih =>
    rw [List.filter_cons]
    by_cases h : isBlankLine line = true
    · rw [if_neg (by simp [h]), ih, List.flatMap_cons, referred_of_isBlankLine h, List.nil_append]
    · rw [if_pos (by simp [h]), List.flatMap_cons, List.flatMap_cons, ih]

/-- Marking tags refers to the given element only. -/
theorem reference_mem_markTags {e d : Element} {skipping : Bool} {cs : List Char}
    (h : reference d ∈ markTags e skipping cs) : d = e := by
  have hmem : d ∈ referred (markTags e skipping cs) := List.mem_filterMap.mpr ⟨_, h, rfl⟩
  rw [referred_markTags] at hmem
  exact List.eq_of_mem_replicate hmem

end Piece

/-- The pieces of artwork spell its lines, if the name of the element holds no line feed. -/
theorem map_lineText_artworkPieces {e : Element} (h : '\n' ∉ e.name.toList) (svg : String) :
    (artworkPieces e svg).map Piece.lineText = artworkLines e.name svg := by
  have hlines := Piece.map_chars_splitLines [] (Piece.markTags e false svg.toList)
    fun d hd => Piece.reference_mem_markTags hd ▸ h
  unfold artworkLines artworkPieces Text.lines
  rw [String.toList_ofList, ← Piece.flatMap_chars_markTags]
  show _ = ((Text.splitLines (Piece.backwards []) _).map String.ofList).filter _
  rw [← hlines, List.map_map, List.filter_map]
  congr 1
  apply List.filter_congr
  intro line _
  exact congrArg (!·) (Piece.isBlankText_lineText line).symm

/-- Artwork refers to its element once for each start tag with room for an attribute. -/
theorem flatMap_referred_artworkPieces (e : Element) (svg : String) :
    (artworkPieces e svg).flatMap Piece.referred = List.replicate (startTags svg) e := by
  unfold artworkPieces
  rw [Piece.flatMap_referred_filter, Piece.flatMap_referred_splitLines, Piece.referred_markTags]
  rfl

/-- The contents that are written as boxes around their children. -/
def Content.isBox : Content → Bool
  | .text _ _ | .vector _ | .blank => false
  | _ => true

namespace Element

open Piece

/-- The start of a box in pieces, up to its bracket. -/
def opening (e : Element) : List Piece :=
  plain ("<" ++ (containerTag e.content).name ++ " ") ++
    reference e :: plain (Line.sourceAttribute e.content.image)

mutual

/-- The lines of a tree that stands at `depth` in pieces, each with its own depth. -/
def cut (depth : Nat) : Element → List (Nat × List Piece)
  | e@(.mk name content _ children) =>
    match content with
    | .blank => []
    | .vector svg => (artworkPieces e svg).map fun line => (depth, line)
    | .text markup maxLines =>
      [(depth, plain "<Text " ++ reference e :: plain (Line.lineLimit maxLines ++ ">")),
        (depth + 1, plain markup), (depth, plain "</Text>")]
    | content =>
      (remarks depth name content).map (fun line => (line.1, plain line.2.text)) ++
        if children.isEmpty then [(depth, opening e ++ plain "/>")]
        else
          (depth, opening e ++ plain ">") ::
            (cutAll (depth + 1) children ++
              [(depth, plain ("</" ++ (containerTag content).name ++ ">"))])

/-- The lines of several trees in pieces. -/
def cutAll (depth : Nat) : List Element → List (Nat × List Piece)
  | [] => []
  | e :: es => e.cut depth ++ cutAll depth es

end

/-- The markup of a tree in pieces, with `indent` spaces for each level. -/
def pieces (indent depth : Nat) (e : Element) : List (List Piece) :=
  (e.cut depth).map fun line => plain (Text.spaces (line.1 * indent)) ++ line.2

/-- The lines of a container. -/
theorem lines_of_isBox {content : Content} (h : content.isBox = true) (depth : Nat) (name : String)
    (style : Style) (children : List Element) :
    lines depth (.mk name content style children) =
      remarks depth name content ++
        if children.isEmpty then [(depth, .single (containerTag content) name content.image)]
        else
          (depth, .start (containerTag content) name content.image) ::
            (linesAll (depth + 1) children ++ [(depth, .finish (containerTag content))]) := by
  cases content
  case text | vector | blank => cases h
  all_goals rfl

/-- The lines of a container in pieces. -/
theorem cut_of_isBox {content : Content} (h : content.isBox = true) (depth : Nat) (name : String)
    (style : Style) (children : List Element) :
    cut depth (.mk name content style children) =
      (remarks depth name content).map (fun line => (line.1, plain line.2.text)) ++
        if children.isEmpty then [(depth, opening (.mk name content style children) ++ plain "/>")]
        else
          (depth, opening (.mk name content style children) ++ plain ">") ::
            (cutAll (depth + 1) children ++
              [(depth, plain ("</" ++ (containerTag content).name ++ ">"))]) := by
  cases content
  case text | vector | blank => cases h
  all_goals rfl

/-- The pieces of a container on one line spell it. -/
theorem lineText_single (e : Element) :
    lineText (opening e ++ plain "/>") =
      (Line.single (containerTag e.content) e.name e.content.image).text := by
  simp only [opening, Line.text_single, lineText_append, lineText_plain, lineText_reference_cons,
    String.append_assoc]

/-- The pieces of the start of a container spell it. -/
theorem lineText_start (e : Element) :
    lineText (opening e ++ plain ">") =
      (Line.start (containerTag e.content) e.name e.content.image).text := by
  simp only [opening, Line.text_start, lineText_append, lineText_plain, lineText_reference_cons,
    String.append_assoc]

/-- The pieces of remarks spell them. -/
theorem lineText_remarks (depth : Nat) (name : String) (content : Content) :
    ((remarks depth name content).map (fun line => (line.1, plain line.2.text))).map
        (fun line => (line.1, lineText line.2)) =
      (remarks depth name content).map fun line => (line.1, line.2.text) := by
  rw [List.map_map]
  apply List.map_congr_left
  intro line _
  exact congrArg (line.1, ·) (lineText_plain _)

/-- The start of a container refers to it. -/
theorem referred_opening (e : Element) : referred (opening e) = [e] := by
  simp [opening]

/-! ### The pieces spell the markup -/

mutual

/-- The pieces of a tree spell its lines, if no name of artwork holds a line feed. -/
theorem lineText_cut :
    (e : Element) → ∀ depth : Nat,
      (∀ d ∈ e.preorder, ∀ svg, d.content = .vector svg → '\n' ∉ d.name.toList) →
        (e.cut depth).map (fun line => (line.1, lineText line.2)) =
          (e.lines depth).map fun line => (line.1, line.2.text)
  | .mk name content style children, depth, h => by
      unfold preorder at h
      obtain ⟨hself, hbelow⟩ := List.forall_mem_cons.mp h
      by_cases hbox : content.isBox = true
      · rw [cut_of_isBox hbox, lines_of_isBox hbox]
        rw [List.map_append, List.map_append, lineText_remarks]
        congr 1
        by_cases hc : children.isEmpty = true
        · rw [if_pos hc, if_pos hc, List.map_singleton, List.map_singleton, lineText_single]
          rfl
        · rw [if_neg hc, if_neg hc, List.map_cons, List.map_cons, List.map_append, List.map_append,
            List.map_singleton, List.map_singleton, lineText_start, lineText_plain,
            lineText_cutAll children (depth + 1) hbelow]
          rfl
      · cases content with
        | blank => rfl
        | vector svg =>
          have hart := map_lineText_artworkPieces (hself svg rfl) svg
          rw [name_mk] at hart
          rw [cut, lines, ← hart, List.map_map, List.map_map, List.map_map]
          rfl
        | text markup maxLines =>
          have hstart : lineText (plain "<Text " ++
                reference (.mk name (.text markup maxLines) style children) ::
                  plain (Line.lineLimit maxLines ++ ">")) =
              (Line.textStart name maxLines).text := by
            simp only [Line.text_textStart, lineText_append, lineText_plain,
              lineText_reference_cons, name_mk, String.append_assoc]
          rw [cut, lines, List.map_cons, List.map_cons, List.map_singleton, List.map_cons,
            List.map_cons, List.map_singleton, hstart, lineText_plain, lineText_plain]
          rfl
        | _ => exact absurd rfl hbox

/-- The pieces of several trees spell their lines. -/
theorem lineText_cutAll :
    (es : List Element) → ∀ depth : Nat,
      (∀ d ∈ preorderAll es, ∀ svg, d.content = .vector svg → '\n' ∉ d.name.toList) →
        (cutAll depth es).map (fun line => (line.1, lineText line.2)) =
          (linesAll depth es).map fun line => (line.1, line.2.text)
  | [], depth, _ => rfl
  | e :: es, depth, h => by
      unfold preorderAll at h
      obtain ⟨hhead, htail⟩ := List.forall_mem_append.mp h
      rw [cutAll, linesAll, List.map_append, List.map_append, lineText_cut e depth hhead,
        lineText_cutAll es depth htail]

end

/-- The pieces of a tree spell its markup. -/
theorem lineText_pieces {e : Element}
    (h : ∀ d ∈ e.preorder, ∀ svg, d.content = .vector svg → '\n' ∉ d.name.toList)
    (indent depth : Nat) : (e.pieces indent depth).map lineText = e.markup indent depth := by
  have hcut :=
    congrArg (List.map fun line : Nat × String => Text.spaces (line.1 * indent) ++ line.2)
      (lineText_cut e depth h)
  rw [List.map_map, List.map_map] at hcut
  unfold pieces markup
  rw [List.map_map]
  refine Eq.trans ?_ hcut
  apply List.map_congr_left
  intro line _
  simp

/-! ### The references of the markup -/

/-- Remarks refer to nothing. -/
theorem referred_remarks (depth : Nat) (name : String) (content : Content) :
    ((remarks depth name content).map (fun line => (line.1, plain line.2.text))).flatMap
      (fun line => referred line.2) = [] := by
  simp [List.flatMap_map]

mutual

/-- The references of a tree are its elements that are written, each before those below it. -/
theorem referred_cut :
    (e : Element) → ∀ depth : Nat,
      (∀ d ∈ e.preorder, d.content.isBox = false → d.children = []) →
      (∀ d ∈ e.preorder, ∀ svg, d.content = .vector svg → startTags svg = 1) →
        (e.cut depth).flatMap (fun line => referred line.2) = e.preorder.filter (!·.isBlank)
  | .mk name content style children, depth, hleaf, htag => by
      unfold preorder at hleaf htag ⊢
      obtain ⟨hself, hbelow⟩ := List.forall_mem_cons.mp hleaf
      obtain ⟨hone, hones⟩ := List.forall_mem_cons.mp htag
      by_cases hbox : content.isBox = true
      · have hwritten : (mk name content style children).isBlank = false := by
          cases content
          case blank => cases hbox
          all_goals rfl
        have hrest := referred_cutAll children (depth + 1) hbelow hones
        rw [cut_of_isBox hbox, List.flatMap_append, referred_remarks, List.nil_append,
          List.filter_cons_of_pos (by simp [hwritten]), ← hrest]
        by_cases hc : children.isEmpty = true
        · rw [if_pos hc, List.isEmpty_iff.mp hc]
          simp [referred_opening, cutAll]
        · rw [if_neg hc]
          simp [referred_opening]
      · have hnil : children = [] := hself (Bool.eq_false_iff.mpr hbox)
        subst hnil
        cases content with
        | blank => rfl
        | vector svg =>
          rw [cut, List.flatMap_map, flatMap_referred_artworkPieces, hone svg rfl]
          rfl
        | text markup maxLines =>
          simp [cut, preorderAll, isBlank, Content.isBlank]
        | _ => exact absurd rfl hbox

/-- The references of several trees are their elements that are written. -/
theorem referred_cutAll :
    (es : List Element) → ∀ depth : Nat,
      (∀ d ∈ preorderAll es, d.content.isBox = false → d.children = []) →
      (∀ d ∈ preorderAll es, ∀ svg, d.content = .vector svg → startTags svg = 1) →
        (cutAll depth es).flatMap (fun line => referred line.2) =
          (preorderAll es).filter (!·.isBlank)
  | [], depth, _, _ => rfl
  | e :: es, depth, hleaf, htag => by
      unfold preorderAll at hleaf htag ⊢
      obtain ⟨hhead, htail⟩ := List.forall_mem_append.mp hleaf
      obtain ⟨hone, hones⟩ := List.forall_mem_append.mp htag
      rw [cutAll, List.flatMap_append, List.filter_append, referred_cut e depth hhead hone,
        referred_cutAll es depth htail hones]

end

/-- The pieces of a tree refer to each element that is written, once and in order. -/
theorem referred_pieces {e : Element}
    (hleaf : ∀ d ∈ e.preorder, d.content.isBox = false → d.children = [])
    (htag : ∀ d ∈ e.preorder, ∀ svg, d.content = .vector svg → startTags svg = 1)
    (indent depth : Nat) :
    (e.pieces indent depth).flatMap referred = e.preorder.filter (!·.isBlank) := by
  rw [← referred_cut e depth hleaf htag, pieces, List.flatMap_map]
  simp

/-! ### References and entries -/

/-- The entries are named as the elements that are written. -/
theorem map_fst_entries (e : Element) : e.entries.map Prod.fst = writtenNames e.preorder := by
  simp [entries, writtenNames]

/-- Among elements with distinct names, the style that stands under a name is that of its
element. -/
theorem lookup_of_nodup {l : List Element} (h : (l.map name).Nodup) {r : Element} (hr : r ∈ l) :
    (l.map fun e => (e.name, e.style)).lookup r.name = some r.style := by
  induction l with
  | nil => exact absurd hr List.not_mem_nil
  | cons e l ih =>
    rw [List.map_cons, List.nodup_cons] at h
    rw [List.map_cons, List.lookup_cons]
    rcases List.mem_cons.mp hr with rfl | hr
    · simp
    · have hne : (r.name == e.name) = false := by
        rw [beq_eq_false_iff_ne]
        exact fun heq => h.1 (heq ▸ List.mem_map_of_mem hr)
      rw [hne]
      exact ih h.2 hr

/-- A line that is spelled without a line feed refers to no element with one in its name. -/
theorem line_feed_not_mem_of_referred {line : List Piece} (h : '\n' ∉ (lineText line).toList)
    {e : Element} (he : e ∈ referred line) : '\n' ∉ e.name.toList := by
  obtain ⟨p, hp, hpe⟩ := List.mem_filterMap.mp he
  cases p with
  | char c => cases hpe
  | reference d =>
    cases hpe
    intro hfeed
    apply h
    rw [lineText, String.toList_ofList, List.mem_flatMap]
    refine ⟨_, hp, ?_⟩
    simp [chars, styleReference_toList, hfeed]

/-- **Closed references.** Let texts, artwork and blank elements have no children, and let all
artwork have one start tag with room for a reference and a name without a line feed. After the names
are made distinct, the markup refers exactly to the elements that are written, each before those
below it, and so do the entries of the stylesheet: every reference resolves to exactly one entry,
that of its own element, and every entry is referred to exactly once. -/
theorem references_closed (e : Element)
    (hleaf : ∀ d ∈ e.preorder, d.content.isBox = false → d.children = [])
    (htag : ∀ d ∈ e.preorder, ∀ svg, d.content = .vector svg → startTags svg = 1)
    (hname : ∀ d ∈ e.preorder, ∀ svg, d.content = .vector svg → '\n' ∉ d.name.toList)
    (indent depth : Nat) :
    (e.distinct.pieces indent depth).map lineText = e.distinct.markup indent depth ∧
      (e.distinct.pieces indent depth).flatMap referred =
        e.distinct.preorder.filter (!·.isBlank) ∧
      ((e.distinct.pieces indent depth).flatMap referred).map name =
        e.distinct.entries.map Prod.fst ∧
      (∀ r ∈ (e.distinct.pieces indent depth).flatMap referred,
        (e.distinct.entries.map Prod.fst).count r.name = 1 ∧
          e.distinct.entries.lookup r.name = some r.style) ∧
      ∀ entry ∈ e.distinct.entries,
        (((e.distinct.pieces indent depth).flatMap referred).map name).count entry.1 = 1 := by
  -- renaming changes names by underscores only, so the hypotheses carry over
  have hleaf' := forall_mem_distinct hleaf fun old new hr h hbox => by
    rw [hr.content] at hbox
    exact hr.children.mpr (h hbox)
  have htag' := forall_mem_distinct htag fun old new hr h svg hsvg => h svg (hr.content ▸ hsvg)
  have hname' := forall_mem_distinct hname fun old new hr h svg hsvg => by
    obtain ⟨k, hk⟩ := hr.name
    have hold := h svg (hr.content ▸ hsvg)
    simp [hk, underscored, hold]
  have hrefs := referred_pieces hleaf' htag' indent depth
  have hnames : ((e.distinct.pieces indent depth).flatMap referred).map name
      = e.distinct.entries.map Prod.fst := by
    rw [hrefs, map_fst_entries]
    rfl
  have hnodup : (e.distinct.entries.map Prod.fst).Nodup := by
    rw [map_fst_entries]
    exact nodup_writtenNames_distinct e
  refine ⟨lineText_pieces hname' indent depth, hrefs, hnames, fun r hr => ⟨?_, ?_⟩, ?_⟩
  · exact List.count_eq_one_of_mem hnodup (hnames ▸ List.mem_map_of_mem hr)
  · rw [hrefs] at hr
    exact lookup_of_nodup (nodup_writtenNames_distinct e) hr
  · intro entry hentry
    rw [hnames]
    exact List.count_eq_one_of_mem hnodup (List.mem_map_of_mem hentry)

/-- A group with a text, artwork of the same name whose start tag runs over a line end, and a blank
element: the artwork is renamed, and referred to by its new name. -/
theorem references_closed_icon :
    let e : Element := .mk "icon" .group {} [.mk "label" (.text "" none) {} [],
      .mk "icon" (.vector "<svg\nwidth=\"1\"/>") {} [], .mk "icon" .blank {} []]
    ((∀ d ∈ e.preorder, d.content.isBox = false → d.children = []) ∧
      (∀ d ∈ e.preorder, ∀ svg, d.content = .vector svg → startTags svg = 1) ∧
      (∀ d ∈ e.preorder, ∀ svg, d.content = .vector svg → '\n' ∉ d.name.toList)) ∧
      ((e.distinct.pieces 2 0).flatMap referred).map name = ["icon", "label", "_icon"] := by
  intro e
  have hleaf : ∀ d ∈ e.preorder, d.content.isBox = false → d.children = [] := by
    simp [e, preorder, preorderAll, Content.isBox]
  have htag : ∀ d ∈ e.preorder, ∀ svg, d.content = .vector svg → startTags svg = 1 := by
    have hone : startTags "<svg\nwidth=\"1\"/>" = 1 := by decide +kernel
    simp [e, preorder, preorderAll, hone]
  have hname : ∀ d ∈ e.preorder, ∀ svg, d.content = .vector svg → '\n' ∉ d.name.toList := by
    simp [e, preorder, preorderAll]
  refine ⟨⟨hleaf, htag, hname⟩, ?_⟩
  rw [(references_closed e hleaf htag hname 2 0).2.2.1]
  decide +kernel

/-- Artwork whose name holds two line feeds: the lines are split inside the reference, the blank one
between is dropped, and however the lines are cut, they do not refer to the element. -/
theorem references_torn :
    let e : Element := .mk "a\n\nb" (.vector "<svg />") {} []
    (∀ d ∈ e.preorder, d.content.isBox = false → d.children = []) ∧
      (∀ d ∈ e.preorder, ∀ svg, d.content = .vector svg → startTags svg = 1) ∧
      e.distinct.markup 2 0 = ["<svg style=\x7bstyles.a", "b\x7d />"] ∧
      e.distinct.entries.map Prod.fst = ["a\n\nb"] ∧
      ∀ pieces : List (List Piece), pieces.map lineText = e.distinct.markup 2 0 →
        (pieces.flatMap referred).map name ≠ e.distinct.entries.map Prod.fst := by
  intro e
  have hmarkup : e.distinct.markup 2 0 = ["<svg style=\x7bstyles.a", "b\x7d />"] := by
    decide +kernel
  have hentries : e.distinct.entries.map Prod.fst = ["a\n\nb"] := by decide +kernel
  refine ⟨by simp [e, preorder, preorderAll], ?_, hmarkup, hentries, ?_⟩
  · have hone : startTags "<svg />" = 1 := by decide +kernel
    simp [e, preorder, preorderAll, hone]
  · intro pieces hpieces heq
    rw [hentries] at heq
    obtain ⟨r, hr, hrname⟩ : ∃ r ∈ pieces.flatMap referred, r.name = "a\n\nb" := by
      rw [← List.mem_map, heq]
      exact List.mem_singleton_self _
    obtain ⟨line, hline, hr⟩ := List.mem_flatMap.mp hr
    have hflat : ∀ text ∈ e.distinct.markup 2 0, '\n' ∉ text.toList := by
      rw [hmarkup]
      decide +kernel
    have htext := hflat (lineText line) (hpieces ▸ List.mem_map_of_mem hline)
    have hfeed := line_feed_not_mem_of_referred htext hr
    rw [hrname] at hfeed
    exact hfeed (by decide +kernel)

end Element

end Viewsmith
