import Viewsmith.Module.Emit
import Viewsmith.Proofs.MarkupReader
import Viewsmith.Proofs.StyleReferences

/-!
# The text that a module shows

The characters of a text node reach the module through its runs: sliced, sorted, escaped and wrapped
in elements of their own. Nothing is lost on the way. If the runs cover the text, or if there are
none, then what the markup shows is the text.

The markup has no line feed, so it is a single line of the element. A module is laid out by lines:
the lines of the elements are shifted to their depths, and all of them once more when they are put
into the function. A line that is neither blank nor ends with a carriage return is only moved to the
right, and so the markup of a text stands whole on a line of the module.

## Main definitions

* `Text.StandsIn`: a line of a text.

## Main statements

* `Text.mem_lines_of_standsIn`: a text that stands between line feeds is one of the lines.
* `Element.mem_lines_emit`: a line of an element tree is a line of the module.
* `Node.shown_richText`: the markup of a text shows its characters, and stands on a line of the
  module.
-/

namespace Viewsmith

namespace Text

/-! ### Lines of texts -/

/-- Some characters stand between two line feeds of a text, or between a line feed and an end. -/
def StandsIn (line text : List Char) : Prop :=
  ∃ before after, text = before ++ line ++ after ∧ (before = [] ∨ before.getLast? = some '\n') ∧
    (after = [] ∨ after.head? = some '\n')

namespace StandsIn

variable {line text before after : List Char}

/-- A text stands in itself as a line. -/
theorem refl (line : List Char) : StandsIn line line :=
  ⟨[], [], by simp, Or.inl rfl, Or.inl rfl⟩

/-- A line still stands in a text with more lines before it. -/
theorem append_left (h : StandsIn line text) (hbefore : before.getLast? = some '\n') :
    StandsIn line (before ++ text) := by
  obtain ⟨b, a, rfl, hb, ha⟩ := h
  refine ⟨before ++ b, a, by simp, Or.inr ?_, ha⟩
  rcases hb with rfl | hb
  · rw [List.append_nil, hbefore]
  · rw [List.getLast?_append, hb]
    rfl

/-- A line still stands in a text with more lines after it. -/
theorem append_right (h : StandsIn line text) (hafter : after.head? = some '\n') :
    StandsIn line (text ++ after) := by
  obtain ⟨b, a, rfl, hb, ha⟩ := h
  refine ⟨b, a ++ after, by simp, hb, Or.inr ?_⟩
  rcases ha with rfl | ha
  · exact hafter
  · rw [List.head?_append, ha]
    rfl

end StandsIn

/-- After a line feed a new line begins. -/
theorem splitLines_append_of_getLast? {before : List Char} (h : before.getLast? = some '\n')
    (current rest : List Char) :
    ∃ ls, splitLines current (before ++ rest) = ls ++ splitLines [] rest := by
  induction before generalizing current with
  | nil => cases h
  | cons c cs ih =>
    rw [List.cons_append, splitLines]
    cases cs with
    | nil =>
      have hc : c = '\n' := Option.some.inj h
      rw [if_pos hc]
      exact ⟨[_], rfl⟩
    | cons d cs =>
      rw [List.getLast?_cons_cons] at h
      split
      · obtain ⟨ls, hls⟩ := ih h []
        exact ⟨_ :: ls, by rw [hls]; rfl⟩
      · exact ih h (c :: current)

/-- Characters that stand between line feeds are one of the lines, if they hold no line feed of
their own and do not end with a carriage return. -/
theorem mem_lines_of_standsIn {line text : String} (h : StandsIn line.toList text.toList)
    (hfeed : '\n' ∉ line.toList) (hne : line ≠ "") (hreturn : line.toList.getLast? ≠ some '\r') :
    line ∈ lines text := by
  obtain ⟨before, after, htext, hbefore, hafter⟩ := h
  -- from its own start on the line is the first one, up to the end or a line feed
  have hrest : line.toList ∈ splitLines [] (line.toList ++ after) := by
    rw [Piece.splitLines_of_not_mem hfeed, List.append_nil]
    rcases hafter with rfl | hafter
    · have hempty : line.toList.reverse.isEmpty = false := by simpa using hne
      rw [splitLines, hempty, if_neg Bool.false_ne_true, List.reverse_reverse]
      exact List.mem_singleton_self _
    · obtain ⟨rest, rfl⟩ := List.head?_eq_some_iff.mp hafter
      have hkeep : dropReturn line.toList.reverse = line.toList.reverse := by
        rw [← List.head?_reverse] at hreturn
        unfold dropReturn
        split
        · rename_i heq
          rw [heq] at hreturn
          exact absurd rfl hreturn
        · rfl
      rw [splitLines, if_pos rfl, hkeep, List.reverse_reverse]
      exact List.mem_cons_self
  have hmem : line.toList ∈ splitLines [] text.toList := by
    rw [htext, List.append_assoc]
    rcases hbefore with rfl | hbefore
    · exact hrest
    · obtain ⟨ls, hls⟩ := splitLines_append_of_getLast? hbefore [] (line.toList ++ after)
      rw [hls]
      exact List.mem_append_right ls hrest
  exact List.mem_map.mpr ⟨line.toList, hmem, String.ofList_toList⟩

/-- Lines that are put together stand in the result. -/
theorem standsIn_unlines {line : String} {ls : List String} (h : line ∈ ls) :
    StandsIn line.toList (unlines ls).toList := by
  unfold unlines
  induction ls with
  | nil => exact absurd h List.not_mem_nil
  | cons first rest ih =>
    cases rest with
    | nil =>
      rw [List.mem_singleton.mp h]
      exact .refl _
    | cons second rest =>
      rw [String.intercalate_cons_cons, String.toList_append, String.toList_append]
      rcases List.mem_cons.mp h with rfl | h
      · rw [List.append_assoc]
        exact (StandsIn.refl _).append_right rfl
      · refine (ih h).append_left ?_
        rw [List.getLast?_append]
        rfl

/-- The characters of some spaces. -/
theorem toList_spaces (n : Nat) : (spaces n).toList = List.replicate n ' ' := String.toList_ofList

/-- Spaces in a row are counted together. -/
theorem spaces_append (m n : Nat) : spaces m ++ spaces n = spaces (m + n) := by
  apply String.toList_inj.mp
  rw [String.toList_append, toList_spaces, toList_spaces, toList_spaces,
    List.replicate_append_replicate]

/-- A text that is written out when lines are laid out: a line of its own that is not blank. -/
structure IsLine (text : String) : Prop where
  feed : '\n' ∉ text.toList
  visible : isBlankText text = false
  noReturn : text.toList.getLast? ≠ some '\r'

namespace IsLine

variable {text : String}

/-- A line that is written out is not empty. -/
theorem ne_empty (h : IsLine text) : text ≠ "" := by
  rintro rfl
  cases h.visible

/-- A line with spaces before it is still one. -/
theorem spaces_append (h : IsLine text) (n : Nat) : IsLine (spaces n ++ text) where
  feed := by
    rw [String.toList_append, toList_spaces, List.mem_append, not_or]
    refine ⟨fun hm => ?_, h.feed⟩
    cases List.eq_of_mem_replicate hm
  visible := by
    have hvisible := h.visible
    unfold isBlankText at hvisible ⊢
    rw [String.toList_append, List.all_append, hvisible, Bool.and_false]
  noReturn := by
    have hne : text.toList ≠ [] := by simpa using h.ne_empty
    rw [String.toList_append, List.getLast?_append_of_ne_nil _ hne]
    exact h.noReturn

/-- A line that is shifted to the right stands in the result. -/
theorem standsIn_indentBy {line : String} (h : IsLine line) {text : String}
    (hmem : line ∈ lines text) (n : Nat) :
    StandsIn (spaces n ++ line).toList (indentBy n text).toList := by
  apply standsIn_unlines
  refine List.mem_map.mpr ⟨line, hmem, ?_⟩
  rw [h.visible, if_neg Bool.false_ne_true]

end IsLine

end Text

/-! ### Lines of modules -/

namespace Element

/-- An element that has lines is not blank. -/
theorem isBlank_eq_false_of_lines {e : Element} {depth : Nat} {line : Nat × Line}
    (h : line ∈ e.lines depth) : e.isBlank = false := by
  obtain ⟨name, content, style, children⟩ := e
  cases content
  case blank => exact absurd h List.not_mem_nil
  all_goals rfl

/-- The body of the function stands between line feeds. -/
theorem standsIn_emit {e : Element} (hblank : e.isBlank = false) {indent : Nat} {line : List Char}
    (h : Text.StandsIn line (Text.indentBy (2 * indent) (Text.unlines (e.markup indent 0))).toList)
    (function : String) : Text.StandsIn line (e.emit indent function).toList := by
  unfold emit
  rw [hblank, if_neg Bool.false_ne_true]
  generalize "import React from 'react';" ++ importLine e.imports ++ "\n\n" ++
    "export default function " ++ escapeMarkup function ++ "() \x7b\n" ++
    Text.spaces indent = header
  have hlast : (header.toList ++ "return (\n".toList).getLast? = some '\n' := by
    rw [List.getLast?_append]
    rfl
  simp only [String.toList_append, List.append_assoc]
  rw [← List.append_assoc, ← List.append_assoc]
  exact (h.append_left hlast).append_right rfl

/-- A line of an element tree is a line of the module, shifted to its depth inside the function. -/
theorem mem_lines_emit {e : Element} {depth : Nat} {line : Line} (h : (depth, line) ∈ e.lines 0)
    (hline : Text.IsLine line.text) (indent : Nat) (function : String) :
    Text.spaces ((depth + 2) * indent) ++ line.text ∈ Text.lines (e.emit indent function) := by
  have hmarkup : Text.spaces (depth * indent) ++ line.text ∈ e.markup indent 0 :=
    List.mem_map.mpr ⟨(depth, line), h, rfl⟩
  have hshifted := hline.spaces_append (depth * indent)
  have hbody : Text.spaces (depth * indent) ++ line.text ∈
      Text.lines (Text.unlines (e.markup indent 0)) :=
    Text.mem_lines_of_standsIn (Text.standsIn_unlines hmarkup) hshifted.feed hshifted.ne_empty
      hshifted.noReturn
  have hstands := standsIn_emit (isBlank_eq_false_of_lines h)
    (hshifted.standsIn_indentBy hbody (2 * indent)) function
  have hinner := hshifted.spaces_append (2 * indent)
  have hmem := Text.mem_lines_of_standsIn hstands hinner.feed hinner.ne_empty hinner.noReturn
  rw [← String.append_assoc, Text.spaces_append, ← Nat.add_mul, Nat.add_comm 2 depth] at hmem
  exact hmem

end Element

/-! ### The markup of a text -/

namespace Markup

/-- Markup that can be read is a line. -/
theorem isLine_of_read {markup : String} {text : List Char}
    (h : read .content markup.toList = some text) (hne : text ≠ []) : Text.IsLine markup := by
  have hmarkup : markup.toList ≠ [] := by
    intro hnil
    rw [hnil] at h
    exact hne (Option.some.inj h).symm
  refine ⟨line_feed_not_mem_of_read h, ?_, ?_⟩
  · have hhead := head?_of_read h hmarkup
    unfold Text.isBlankText
    cases hcs : markup.toList with
    | nil => exact absurd hcs hmarkup
    | cons c cs =>
      rw [hcs] at hhead
      rcases hhead with hc | hc
      · cases hc
        rfl
      · cases hc
        rfl
  · rcases getLast?_of_read h hmarkup with hlast | hlast
    · rw [hlast]
      decide
    · rw [hlast]
      decide

end Markup

namespace Node

variable {node : Node} {text : TextContent}

/-- The text of a node is read if it has any characters. -/
theorem text?_eq_some (htext : node.text = some text) (hne : text.characters ≠ "") :
    node.text? = some text := by
  rw [text?, htext, Option.filter_some, if_pos]
  simpa using hne

/-- A text without runs is written as one literal. -/
theorem richText_of_runs_eq_nil (htext : node.text? = some text) (hruns : text.runs = []) :
    node.richText = .done (Text.TemplateLiteral.render text.characters) := by
  unfold richText
  simp only [htext, TextContent.base?_of_runs_eq_nil hruns]

/-- The markup of a text shows its characters. -/
theorem richText_reads (htext : node.text? = some text) (hruns : text.runs = [] ∨ text.Tiled) :
    ∃ markup, node.richText.Ends (· = .ok markup) ∧
      Markup.Reads .content markup.toList text.characters.toList .content := by
  by_cases hnil : text.runs = []
  · refine ⟨_, ?_, (Markup.leads_render text.characters).reads⟩
    rw [richText_of_runs_eq_nil htext hnil]
    exact rfl
  · obtain ⟨i, base, hi, hbase⟩ := TextContent.exists_base hnil
    have htiled : text.Tiled := hruns.resolve_left hnil
    have hreads :=
      (Markup.leads_runPieces node text i (node.typography text base) (orderedRuns text)).reads
    rw [TextContent.flatMap_runText_orderedRuns htiled] at hreads
    exact ⟨_, richText_ends htext hi hbase, hreads⟩

/-- **Texts.** Let a node have a text that is not empty, and let its runs cover the text, apart from
runs that cover nothing, or let there be no runs. Then its markup shows exactly the characters of
the text, and has no line feed. In the module of any tree that holds it, it stands whole on a line
of its own. -/
theorem shown_richText (node : Node) (text : TextContent) (htext : node.text = some text)
    (hne : text.characters ≠ "") (hruns : text.runs = [] ∨ text.Tiled) :
    ∃ markup : String, (∀ log assets, (node.richText.run log assets).1 = .ok markup) ∧
      Markup.shown markup = some text.characters ∧ '\n' ∉ markup.toList ∧
      ∀ (e : Element) (depth indent : Nat) (function : String),
        (depth, Line.textBody markup) ∈ e.lines 0 →
          Text.spaces ((depth + 2) * indent) ++ markup ∈ Text.lines (e.emit indent function) := by
  obtain ⟨markup, hends, hreads⟩ := richText_reads (text?_eq_some htext hne) hruns
  have hread := hreads.read_eq
  have hline := Markup.isLine_of_read hread (by simpa using hne)
  refine ⟨markup, fun log assets => hends.run log assets, ?_, hline.feed, ?_⟩
  · rw [Markup.shown, hread, Option.map_some, String.ofList_toList]
  · intro e depth indent function hmem
    exact Element.mem_lines_emit hmem hline indent function

/-- A pair, a dollar before a brace, a backtick and a line feed, in two runs and an empty one, the
last run first. -/
def greeting : TextContent where
  characters := "😀$\x7bx`\n"
  runs :=
    [{ start := 3, stop := 7, font := ⟨"Inter", "Bold"⟩, size := 16 },
     { start := 5, stop := 5, font := ⟨"Inter", "Bold"⟩, size := 16 },
     { start := 0, stop := 3, font := ⟨"Inter", "Regular"⟩, size := 16 }]

/-- The greeting is shown, and stands on a line of the module of an element with it. -/
theorem shown_richText_greeting :
    ∃ markup : String,
      ((({ kind := .text, text := some greeting } : Node).richText.run [] {}).1 = .ok markup) ∧
      Markup.shown markup = some "😀$\x7bx`\n" ∧ '\n' ∉ markup.toList ∧
      Text.spaces 6 ++ markup ∈
        Text.lines ((Element.mk "greeting" (.text markup none) {} []).emit 2 "Greeting") := by
  have htiled : greeting.Tiled := by
    refine ⟨[greeting.runs[2], greeting.runs[0]], ?_, ?_, ?_⟩
    · exact List.Perm.swap _ _ []
    · decide +kernel
    · intro run hrun
      rcases List.mem_cons.mp hrun with rfl | hrun
      · exact ⟨['😀', '$'], ⟨_, rfl⟩, by decide +kernel⟩
      · cases List.mem_singleton.mp hrun
        exact ⟨_, List.prefix_rfl, by decide +kernel⟩
  obtain ⟨markup, hrun, hshown, hfeed, hmodule⟩ :=
    shown_richText { kind := .text, text := some greeting } greeting rfl (by decide) (Or.inr htiled)
  exact ⟨markup, hrun [] {}, hshown, hfeed, hmodule _ 1 2 "Greeting" (by simp [Element.lines])⟩

end Node

end Viewsmith
