import Mathlib.Data.List.Basic
import Viewsmith.Proofs.ExportedName
import Viewsmith.Proofs.MarkupNesting
import Viewsmith.Proofs.StoreHistory

/-!
# The imported tags

A module imports the tags of its elements, found by a walk over the tree. The tags that its markup
uses come from elsewhere: the lines of the tree are written by a recursion of their own, and the
markup of a text was put together before, with an element for every run that overrides something.

Here the tags are read off the lines, each where its element starts, and inside of texts too. The
first uses of tags, in this order, are the imports: the elements inside of a text are texts again,
so they come after a use of their tag. The markup of a text could be anything in a tree that is not
built from a scene, so we say which of the elements inside of it are counted.

## Main definitions

* `Nesting.tags`: the tags of what is read from lines.
* `Element.RichTexts`: the markup of every text was put together from a text node.
* `Node.nestedRuns`: the runs of a text that are elements of their own.

## Main statements

* `Element.imports_eq_firsts`: the imports are the tags of the elements, without repetitions.
* `Element.firsts_tags_nesting`: so are the tags that are read from the lines.
* `Node.starts_richText`: the elements in the markup of a text.
* `Element.imports_used`: the imports are the tags that the markup uses.
-/

namespace Viewsmith

/-! ### First uses -/

section Firsts

variable {α κ : Type} [DecidableEq κ] {key : α → κ}

/-- Entries of one key count once. -/
theorem firsts_cons_of_forall_eq {a : α} {l : List α} (h : ∀ b ∈ l, key b = key a) :
    firsts key (a :: l) = [a] := by
  rw [firsts, List.filter_eq_nil_iff.mpr]
  intro b hb
  simpa using h b ((firsts_sublist l).subset hb)

/-- By a key that tells elements apart, the first uses are those of the elements themselves. -/
theorem firsts_of_injective [DecidableEq α] (h : Function.Injective key) (l : List α) :
    firsts key l = firsts id l := by
  induction l with
  | nil => rfl
  | cons a l ih =>
    rw [firsts, firsts, ih]
    congr 1
    apply List.filter_congr
    intro b _
    simp [h.eq_iff]

end Firsts

namespace Nesting

mutual

/-- The tags of what is read from lines, in the order in which elements start. Inside of a text,
some tags are counted. -/
def tags (counted : String → Bool) : Nesting → List String
  | .element tag _ inside => tag :: tagsAll counted inside
  | .text _ markup => "Text" :: (Markup.starts .content markup.toList).filter counted
  | .artwork _ => []

/-- The tags of all that is read. -/
def tagsAll (counted : String → Bool) : List Nesting → List String
  | [] => []
  | n :: ns => n.tags counted ++ tagsAll counted ns

end

variable (counted : String → Bool)

/-- The tags of two readings in a row. -/
theorem tagsAll_append (l m : List Nesting) :
    tagsAll counted (l ++ m) = tagsAll counted l ++ tagsAll counted m := by
  induction l with
  | nil => rfl
  | cons n l ih => rw [List.cons_append, tagsAll, ih, tagsAll, List.append_assoc]

/-- Lines of artwork have no tags that are counted. -/
theorem tagsAll_artwork (ls : List String) : tagsAll counted (ls.map .artwork) = [] := by
  induction ls with
  | nil => rfl
  | cons l ls ih => rw [List.map_cons, tagsAll, ih]; rfl

end Nesting

namespace Element

/-- The tags inside of the markup of a text. -/
def textStarts (e : Element) : List String :=
  match e.content with
  | .text markup _ => Markup.starts .content markup.toList
  | _ => []

/-- The tags that are used for an element alone: its own, and those counted inside of its markup. -/
def ownTags (counted : String → Bool) (e : Element) : List String :=
  e.tag?.toList.map Tag.name ++ e.textStarts.filter counted

/-- A box uses the tag of its container only. -/
theorem ownTags_of_isBox {content : Content} (h : content.isBox = true) (counted : String → Bool)
    (name : String) (style : Style) (children : List Element) :
    ownTags counted (.mk name content style children) = [(containerTag content).name] := by
  cases content
  case text | vector | blank => cases h
  all_goals rfl

mutual

/-- The tags of a tree, as they are read, are those of its elements, each before those below it. -/
theorem tagsAll_nesting (counted : String → Bool) :
    (e : Element) → (∀ d ∈ e.preorder, d.content.isBox = false → d.children = []) →
      Nesting.tagsAll counted e.nesting = e.preorder.flatMap (ownTags counted)
  | .mk name content style children, hleaf => by
      unfold preorder at hleaf ⊢
      obtain ⟨hself, hbelow⟩ := List.forall_mem_cons.mp hleaf
      rw [List.flatMap_cons]
      by_cases hbox : content.isBox = true
      · rw [nesting_of_isBox hbox, ownTags_of_isBox hbox, Nesting.tagsAll, Nesting.tags,
          Nesting.tagsAll, List.append_nil, tagsAll_nestingAll counted children hbelow]
        rfl
      · have hnil : children = [] := hself (Bool.eq_false_iff.mpr hbox)
        subst hnil
        cases content with
        | blank => rfl
        | vector svg => exact Nesting.tagsAll_artwork counted (artworkLines name svg)
        | text markup maxLines => rfl
        | _ => exact absurd rfl hbox

/-- The tags of several trees. -/
theorem tagsAll_nestingAll (counted : String → Bool) :
    (es : List Element) → (∀ d ∈ preorderAll es, d.content.isBox = false → d.children = []) →
      Nesting.tagsAll counted (nestingAll es) = (preorderAll es).flatMap (ownTags counted)
  | [], _ => rfl
  | e :: es, hleaf => by
      unfold preorderAll at hleaf ⊢
      obtain ⟨hhead, htail⟩ := List.forall_mem_append.mp hleaf
      rw [nestingAll, Nesting.tagsAll_append, List.flatMap_append, tagsAll_nesting counted e hhead,
        tagsAll_nestingAll counted es htail]

end

/-- Tags that are collected one by one are kept at their first use. -/
theorem foldl_eq_firsts (l m : List Tag) :
    m.foldl (fun tags t => if t ∈ tags then tags else tags ++ [t]) (firsts id l) =
      firsts id (l ++ m) := by
  induction m generalizing l with
  | nil => rw [List.append_nil]; rfl
  | cons t m ih =>
    have hmem : t ∈ firsts id l ↔ t ∈ l := by
      have hmap : t ∈ (firsts id l).map id ↔ t ∈ l.map id := mem_map_firsts
      rwa [List.map_id, List.map_id] at hmap
    have hstep :
        (if t ∈ firsts id l then firsts id l else firsts id l ++ [t]) = firsts id (l ++ [t]) := by
      rw [firsts_concat, List.map_id]
      simp only [hmem, id_eq]
    rw [List.foldl_cons, hstep, ih, List.append_assoc]
    rfl

/-- The imports are the tags of the elements of a tree, each at its first use. -/
theorem imports_eq_firsts (e : Element) : e.imports = firsts id (e.preorder.filterMap tag?) :=
  foldl_eq_firsts [] (e.preorder.filterMap tag?)

section Counted

variable {counted : String → Bool}

/-- What is counted inside of a text brings no tag that is not used before, if it is a text
again. -/
theorem firsts_ownTags {e : Element} (h : ∀ t ∈ e.textStarts, counted t = true → t = "Text") :
    firsts id (e.ownTags counted) = firsts id (e.tag?.toList.map Tag.name) := by
  obtain ⟨name, content, style, children⟩ := e
  cases content with
  | text markup maxLines =>
    have hone :
        firsts id ("Text" :: (Markup.starts .content markup.toList).filter counted) = ["Text"] := by
      apply firsts_cons_of_forall_eq
      intro t ht
      obtain ⟨hmem, hcounted⟩ := List.mem_filter.mp ht
      exact h t hmem hcounted
    exact hone
  | _ => rfl

/-- The tags that are read from a tree, each at its first use, are the imported ones. -/
theorem firsts_tags_nesting {e : Element}
    (hleaf : ∀ d ∈ e.preorder, d.content.isBox = false → d.children = [])
    (hcounted : ∀ d ∈ e.preorder, ∀ t ∈ d.textStarts, counted t = true → t = "Text") :
    firsts id (Nesting.tagsAll counted e.nesting) = e.imports.map Tag.name := by
  have htags : (e.preorder.filterMap tag?).map Tag.name =
      e.preorder.flatMap fun d => d.tag?.toList.map Tag.name := by
    rw [List.filterMap_eq_flatMap_toList, List.map_flatMap]
  rw [tagsAll_nesting counted e hleaf,
    firsts_flatMap_congr e.preorder fun d hd => firsts_ownTags (hcounted d hd),
    ← htags, firsts_map, imports_eq_firsts]
  exact congrArg (List.map Tag.name) (firsts_of_injective Tag.name_injective _)

end Counted

end Element

namespace Node

/-- The runs of a text node that are elements of their own. -/
def nestedRuns (node : Node) : List TextRun :=
  match node.text? with
  | none => []
  | some text =>
    match text.base? with
    | none => []
    | some i =>
      match text.runs[i]? with
      | none => []
      | some base =>
        ((orderedRuns text).filter (node.isNested text i (node.typography text base))).map Prod.fst

/-- The elements in the markup of a text are texts, one for each run with something to override. -/
theorem starts_richText (node : Node) :
    ∃ markup, node.richText.Ends (· = .ok markup) ∧
      Markup.starts .content markup.toList = node.nestedRuns.map fun _ => "Text" := by
  cases htext : node.text? with
  | none =>
    refine ⟨"", ?_, ?_⟩
    · simp only [richText, htext]
      exact rfl
    · simp only [nestedRuns, htext]
      rfl
  | some text =>
    have hliteral := (Markup.leads_render text.characters).starts_eq
    by_cases hruns : text.runs = []
    · refine ⟨_, ?_, hliteral.trans ?_⟩
      · rw [richText_of_runs_eq_nil htext hruns]
        exact rfl
      · simp [nestedRuns, htext, TextContent.base?_of_runs_eq_nil hruns]
    · obtain ⟨i, base, hi, hbase⟩ := TextContent.exists_base hruns
      refine ⟨_, richText_ends htext hi hbase, ?_⟩
      simp only [nestedRuns, htext, hi, hbase, List.map_map]
      exact (Markup.leads_runPieces node text i _ (orderedRuns text)).starts_eq

end Node

namespace Element

/-- The markup of every text in the tree was put together from a text node. -/
def RichTexts (e : Element) : Prop :=
  ∀ d ∈ e.preorder, ∀ markup maxLines, d.content = .text markup maxLines →
    ∃ (node : Node) (log : List Warning) (assets : Assets),
      (node.richText.run log assets).1 = .ok markup

/-- The elements inside of such markup are texts. -/
theorem RichTexts.eq_of_mem_textStarts {e d : Element} (h : e.RichTexts) (hd : d ∈ e.preorder)
    {t : String} (ht : t ∈ d.textStarts) : t = "Text" := by
  cases hcontent : d.content with
  | text markup maxLines =>
    obtain ⟨node, log, assets, hmarkup⟩ := h d hd markup maxLines hcontent
    obtain ⟨markup', hends, hstarts⟩ := node.starts_richText
    obtain rfl : markup' = markup := Except.ok.inj ((hends.run log assets).symm.trans hmarkup)
    rw [textStarts, hcontent] at ht
    replace ht : t ∈ Markup.starts .content markup'.toList := ht
    rw [hstarts] at ht
    obtain ⟨run, -, hrun⟩ := List.mem_map.mp ht
    exact hrun.symm
  | _ =>
    rw [textStarts, hcontent] at ht
    exact absurd ht List.not_mem_nil

/-- **Imports.** Let texts, artwork and blank elements have no children. Then the imports have no
repetitions, and they are the tags of the elements that can be read from the markup, at any depth
and indentation, each tag at the place of its first use. Texts inside of the markup of texts are
counted too. If that markup was put together from text nodes then all elements inside of it can be
counted: they are texts, one for each run with something to override. -/
theorem imports_used (e : Element)
    (hleaf : ∀ d ∈ e.preorder, d.content.isBox = false → d.children = []) (indent depth : Nat) :
    e.imports.Nodup ∧
      (∃ nestings, Nesting.read indent depth (e.written indent depth) = some nestings ∧
        e.imports.map Tag.name = firsts id (Nesting.tagsAll (· = "Text") nestings) ∧
        (e.RichTexts → e.imports.map Tag.name =
          firsts id (Nesting.tagsAll (fun _ => true) nestings))) ∧
      ∀ node : Node, ∃ markup, (∀ log assets, (node.richText.run log assets).1 = .ok markup) ∧
        Markup.starts .content markup.toList = node.nestedRuns.map fun _ => "Text" := by
  refine ⟨e.nodup_imports, ⟨e.nesting, Nesting.read_written e indent depth, ?_, fun hrich => ?_⟩,
    fun node => ?_⟩
  · exact (firsts_tags_nesting hleaf fun d _ t _ ht => of_decide_eq_true ht).symm
  · exact (firsts_tags_nesting hleaf fun d hd t ht _ => hrich.eq_of_mem_textStarts hd ht).symm
  · obtain ⟨markup, hends, hstarts⟩ := node.starts_richText
    exact ⟨markup, fun log assets => hends.run log assets, hstarts⟩

/-- A frame with an image, and in it a text with a run of its own, a rectangle, artwork and a blank
element. Of the tags in the text that of the run counts, and not the one that is shown. -/
theorem imports_used_card :
    let e : Element := .mk "card" (.frame (some "a.png")) {} [
      .mk "label"
        (.text "\x7b`a`\x7d<Text style=\x7b\x7b\"color\":\"red\"\x7d\x7d>\x7b`<View>`\x7d</Text>"
          none) {} [],
      .mk "bg" (.rectangle none) {} [], .mk "icon" (.vector "<svg />") {} [],
      .mk "gone" .blank {} []]
    (∀ d ∈ e.preorder, d.content.isBox = false → d.children = []) ∧
      ∃ nestings, Nesting.read 2 0 (e.written 2 0) = some nestings ∧
        Nesting.tagsAll (fun _ => true) nestings = ["ImageBackground", "Text", "Text", "View"] ∧
        firsts id (Nesting.tagsAll (· = "Text") nestings) = e.imports.map Tag.name := by
  intro e
  have hleaf : ∀ d ∈ e.preorder, d.content.isBox = false → d.children = [] := by
    simp [e, preorder, preorderAll, Content.isBox]
  obtain ⟨-, ⟨nestings, hread, himports, -⟩, -⟩ := imports_used e hleaf 2 0
  have hnestings : nestings = e.nesting :=
    Option.some.inj (hread.symm.trans (Nesting.read_written e 2 0))
  refine ⟨hleaf, nestings, hread, ?_, himports.symm⟩
  rw [hnestings, tagsAll_nesting _ e hleaf]
  decide +kernel

end Element

end Viewsmith
