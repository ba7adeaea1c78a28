import Viewsmith.Proofs.StyleReferences

/-!
# Blank elements

A blank element stands in the place of artwork that could not be exported. It takes no name, has no
tag and no entry in the stylesheet, and no line is written for it. So if a blank element without
children is put among the children of some element, at any depth, then all other elements get the
names that they had without it, and the module is the same.

The element must have other children. One without any is written as a single line, and with a blank
child it would be written as a start and an end.

## Main definitions

* `Element.Inserts`: one more element among the children of an element of a tree.

## Main statements

* `Element.Inserts.rename`: a blank element changes no other name.
* `Element.Inserts.lines_eq`, `Element.Inserts.filterMap_preorder`: it adds no line and no entry.
* `Element.Inserts.emit_distinct`: the module stays the same.
-/

namespace Viewsmith.Element

/-! ### Several trees -/

/-- The order of two lists of trees in a row. -/
theorem preorderAll_append (l m : List Element) :
    preorderAll (l ++ m) = preorderAll l ++ preorderAll m := by
  induction l with
  | nil => rfl
  | cons e l ih => rw [List.cons_append, preorderAll, ih, preorderAll, List.append_assoc]

/-- The lines of two lists of trees in a row. -/
theorem linesAll_append (depth : Nat) (l m : List Element) :
    linesAll depth (l ++ m) = linesAll depth l ++ linesAll depth m := by
  induction l with
  | nil => rfl
  | cons e l ih => rw [List.cons_append, linesAll, ih, linesAll, List.append_assoc]

/-- A second list of trees is renamed after the first, with the names that are taken then. -/
theorem renameAll_append (l m : List Element) (taken : List String) :
    renameAll (l ++ m) taken =
      ((renameAll l taken).1 ++ (renameAll m (renameAll l taken).2).1,
        (renameAll m (renameAll l taken).2).2) := by
  induction l generalizing taken with
  | nil => rfl
  | cons e l ih => rw [List.cons_append, renameAll_cons, ih, renameAll_cons, List.cons_append]

/-- Renaming keeps the number of trees. -/
theorem length_renameAll (l : List Element) (taken : List String) :
    (renameAll l taken).1.length = l.length := by
  induction l generalizing taken with
  | nil => rfl
  | cons e l ih => rw [renameAll_cons, List.length_cons, List.length_cons, ih]

/-- An element gets its name before its children, whatever they are. -/
theorem exists_rename_eq (name : String) (content : Content) (style : Style) (taken : List String) :
    ∃ name' taken', ∀ children,
      (mk name content style children).rename taken =
        (mk name' content style (renameAll children taken').1, (renameAll children taken').2) := by
  by_cases hb : content.isBlank = true
  · exact ⟨name, taken, fun children => rename_of_blank hb name style children taken⟩
  · have hw : content.isBlank = false := Bool.eq_false_iff.mpr hb
    exact ⟨_, _, fun children => rename_of_written hw name style children taken⟩

/-- A blank element without children takes no name. -/
theorem rename_of_blank_leaf {b : Element} (hblank : b.isBlank = true) (hleaf : b.children = [])
    (taken : List String) : b.rename taken = (b, taken) := by
  obtain ⟨name, content, style, children⟩ := b
  cases hleaf
  exact rename_of_blank hblank name style [] taken

/-- A blank element has no lines. -/
theorem lines_of_isBlank {b : Element} (hblank : b.isBlank = true) (depth : Nat) :
    b.lines depth = [] := by
  obtain ⟨name, content, style, children⟩ := b
  cases content
  case blank => rfl
  all_goals cases hblank

/-- Of its children, the lines of an element depend on whether there are any and on their lines. -/
theorem lines_congr {l m : List Element} {depth : Nat} (hnil : l = [] ↔ m = [])
    (hlines : linesAll (depth + 1) l = linesAll (depth + 1) m) (name : String) (content : Content)
    (style : Style) :
    lines depth (.mk name content style l) = lines depth (.mk name content style m) := by
  have hempty : l.isEmpty = m.isEmpty := by
    rw [Bool.eq_iff_iff, List.isEmpty_iff, List.isEmpty_iff, hnil]
  by_cases hbox : content.isBox = true
  · rw [lines_of_isBox hbox, lines_of_isBox hbox, hempty, hlines]
  · cases content
    case text | vector | blank => rfl
    all_goals exact absurd rfl hbox

/-! ### One more child -/

/-- The second tree is the first with `b` among the children of one of its elements, which has other
children. The path leads to it: at every element but the last one, the position of the child to go
on with, and at the last one the position of `b`. -/
inductive Inserts (b : Element) : List Nat → Element → Element → Prop
  | here {name : String} {content : Content} {style : Style} (before after : List Element)
      (h : before ++ after ≠ []) :
      Inserts b [before.length] (.mk name content style (before ++ after))
        (.mk name content style (before ++ b :: after))
  | inside {name : String} {content : Content} {style : Style} (before after : List Element)
      {path : List Nat} {e e' : Element} (h : Inserts b path e e') :
      Inserts b (before.length :: path) (.mk name content style (before ++ e :: after))
        (.mk name content style (before ++ e' :: after))

namespace Inserts

variable {b e e' : Element} {path : List Nat}

/-- The element at the top keeps its content. -/
theorem content_eq (h : Inserts b path e e') : e'.content = e.content := by
  cases h <;> rfl

/-- A blank element changes no other name, and takes none. -/
theorem rename (h : Inserts b path e e') (hblank : b.isBlank = true) (hleaf : b.children = [])
    (taken : List String) :
    Inserts b path (e.rename taken).1 (e'.rename taken).1 ∧
      (e'.rename taken).2 = (e.rename taken).2 := by
  induction h generalizing taken with
  | @here name content style before after h =>
    obtain ⟨name', taken', hrename⟩ := exists_rename_eq name content style taken
    rw [hrename, hrename, renameAll_append, renameAll_append, renameAll_cons,
      rename_of_blank_leaf hblank hleaf]
    refine ⟨?_, rfl⟩
    rw [← length_renameAll before taken']
    apply Inserts.here
    intro hnil
    obtain ⟨hbefore, hafter⟩ := List.append_eq_nil_iff.mp hnil
    exact h
      (by rw [(renameAll_eq_nil_iff _ _).mp hbefore, (renameAll_eq_nil_iff _ _).mp hafter]; rfl)
  | @inside name content style before after path e e' _ ih =>
    obtain ⟨name', taken', hrename⟩ := exists_rename_eq name content style taken
    obtain ⟨hinserts, htaken⟩ := ih (renameAll before taken').2
    rw [hrename, hrename, renameAll_append, renameAll_append, renameAll_cons,
      renameAll_cons, htaken, ← length_renameAll before taken']
    exact ⟨.inside _ _ hinserts, rfl⟩

/-- A blank element adds no line. -/
theorem lines_eq (h : Inserts b path e e') (hblank : b.isBlank = true) (depth : Nat) :
    e'.lines depth = e.lines depth := by
  induction h generalizing depth with
  | @here name content style before after h =>
    -- there are other children, so the element has a start and an end in either tree
    refine lines_congr ⟨by simp, fun hnil => absurd hnil h⟩ ?_ name content style
    rw [linesAll_append, linesAll_append, linesAll, lines_of_isBlank hblank, List.nil_append]
  | @inside name content style before after path e e' _ ih =>
    refine lines_congr (by simp) ?_ name content style
    rw [linesAll_append, linesAll_append, linesAll, linesAll, ih]

/-- What is read off the elements one by one, and nothing of a blank one, is the same. -/
theorem filterMap_preorder {α : Type} {f : Element → Option α} (h : Inserts b path e e')
    (hleaf : b.children = []) (hb : f b = none)
    (hf : ∀ name content style l m, f (.mk name content style l) = f (.mk name content style m)) :
    e'.preorder.filterMap f = e.preorder.filterMap f := by
  induction h with
  | @here name content style before after h =>
    have hpreorder : b.preorder = [b] := by
      obtain ⟨name, content, style, children⟩ := b
      cases hleaf
      rfl
    rw [preorder, preorder, List.filterMap_cons, List.filterMap_cons,
      hf name content style (before ++ b :: after) (before ++ after), preorderAll_append,
      preorderAll_append, preorderAll, hpreorder, List.filterMap_append, List.filterMap_append,
      List.filterMap_append, List.filterMap_cons, hb]
    rfl
  | @inside name content style before after path e e' _ ih =>
    rw [preorder, preorder, List.filterMap_cons, List.filterMap_cons,
      hf name content style (before ++ e' :: after) (before ++ e :: after), preorderAll_append,
      preorderAll_append, preorderAll, preorderAll, List.filterMap_append, List.filterMap_append,
      List.filterMap_append, List.filterMap_append, ih]

/-- One more blank child leaves the markup as it is. -/
theorem markup_eq (h : Inserts b path e e') (hblank : b.isBlank = true) (indent depth : Nat) :
    e'.markup indent depth = e.markup indent depth := by
  unfold markup
  rw [h.lines_eq hblank]

/-- One more blank child without children of its own needs no other component. -/
theorem imports_eq (h : Inserts b path e e') (hblank : b.isBlank = true) (hleaf : b.children = []) :
    e'.imports = e.imports := by
  have htag : b.tag? = none := by
    obtain ⟨name, content, style, children⟩ := b
    cases content
    case blank => rfl
    all_goals cases hblank
  unfold imports
  rw [h.filterMap_preorder hleaf htag fun _ _ _ _ _ => rfl]

/-- One more blank child without children of its own adds no entry to the sheet of styles. -/
theorem entries_eq (h : Inserts b path e e') (hblank : b.isBlank = true) (hleaf : b.children = []) :
    e'.entries = e.entries := by
  have hentries (d : Element) : d.entries =
      d.preorder.filterMap fun d => if d.isBlank then none else some (d.name, d.style) := by
    rw [entries, ← List.filterMap_eq_map, List.filterMap_filter]
    apply List.filterMap_congr
    intro d _
    cases d.isBlank <;> rfl
  rw [hentries, hentries, h.filterMap_preorder hleaf (by rw [if_pos hblank]) fun _ _ _ _ _ => rfl]

/-- A blank element changes nothing in the module of the tree. -/
theorem emit_eq (h : Inserts b path e e') (hblank : b.isBlank = true) (hleaf : b.children = [])
    (indent : Nat) (function : String) : e'.emit indent function = e.emit indent function := by
  unfold emit stylesheet isBlank
  rw [h.content_eq, h.imports_eq hblank hleaf, h.markup_eq hblank, h.entries_eq hblank hleaf]

/-- **Blank elements.** Put a blank element without children, of any name and style, among the
children of an element of a tree that has children. After names are made distinct, it stands in the
same place of the same tree, in which every other element has the name that it has without the blank
one. The text of the module is the same. -/
theorem emit_distinct (h : Inserts b path e e') (hblank : b.isBlank = true)
    (hleaf : b.children = []) (indent : Nat) (function : String) :
    Inserts b path e.distinct e'.distinct ∧
      e'.distinct.emit indent function = e.distinct.emit indent function := by
  have hdistinct : Inserts b path e.distinct e'.distinct := (h.rename hblank hleaf []).1
  exact ⟨hdistinct, hdistinct.emit_eq hblank hleaf indent function⟩

/-- A blank icon before the text inside of another icon: the text and the artwork after it are
renamed as if it were not there. -/
theorem emit_distinct_icon :
    let b : Element := .mk "icon" .blank {} []
    let card (l : List Element) : Element := .mk "card" .group {} [
      .mk "icon" (.frame none) {} (l ++ [.mk "icon" (.text "" none) {} []]),
      .mk "icon" (.vector "<svg />") {} []]
    Inserts b [0, 0] (card []) (card [b]) ∧
      Inserts b [0, 0] (card []).distinct (card [b]).distinct ∧
      (card [b]).distinct.preorder.map name = ["card", "icon", "icon", "_icon", "__icon"] ∧
      (card [b]).distinct.emit 2 "Card" = (card []).distinct.emit 2 "Card" := by
  intro b card
  have hinserts : Inserts b [0, 0] (card []) (card [b]) :=
    .inside [] _ (.here [] _ (List.cons_ne_nil _ []))
  obtain ⟨hdistinct, hemit⟩ := emit_distinct hinserts rfl rfl 2 "Card"
  exact ⟨hinserts, hdistinct, by decide +kernel, hemit⟩

end Inserts

end Viewsmith.Element
