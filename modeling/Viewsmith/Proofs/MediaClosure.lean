import Mathlib.Data.List.Forall2
import Viewsmith.Compiler
import Viewsmith.Proofs.DistinctNames
import Viewsmith.Proofs.LoweringWork
import Viewsmith.Proofs.StoreHistory

/-!
# References to files

The background of an element lists the layers of its fill, and those with a file refer to it by
name. An element may carry the name of one file besides. The files themselves are collected in the
store. Here the two are tied together: every name that is referred to is that of one collected file,
and every collected file is referred to.

Both follow from what comes of one place (`Site.work_element`): a box shows the layers of its fill,
the style keeps them, and nothing is recorded for it but the files of these layers. A layer is a
member of the list that the background is written from; a name may hold any characters, so the list
could not be read back from the text.

## Main definitions

* `urlText`: a layer that refers to a file.
* `Site.layers`, `Site.attached`: the layers of a place, and the file that is attached to it.
* `Site.Shows`: the background and the image of an element are those of a place.
* `Outline.sites`: the reached places in order.

## Main statements

* `Site.work_element`: what comes of one place.
* `Outline.work_build`: what comes of all places.
* `Site.urlText_mem_layers_iff`: the layers of a place refer to its files, and to nothing else.
* `Compiler.references_collected`: references and collected files agree.
-/

namespace Viewsmith

variable {source : Source} {mode : ImageFills}

/-- The text of a layer that refers to a file. -/
def urlText (filename : String) : String := "url('" ++ filename ++ "')"

/-- Layers that refer to different files have different texts. -/
theorem urlText_injective {f g : String} (h : urlText f = urlText g) : f = g := by
  unfold urlText at h
  simpa using h

/-- A text that goes on starts as before. -/
theorem head?_toList_append {a : String} {c : Char} (h : a.toList.head? = some c) (b : String) :
    (a ++ b).toList.head? = some c := by
  rw [String.toList_append, List.head?_append, h]
  rfl

/-- No layer refers to a file unless it has one. -/
theorem Paint.layer_ne_urlText (paint : Paint) (f : String) : paint.layer ≠ urlText f := by
  -- the text of a layer begins with another letter
  have hstart (c : Char) (hc : c ≠ 'u') {text : String} (h : text.toList.head? = some c) :
      text ≠ urlText f := by
    rintro rfl
    have hu : (urlText f).toList.head? = some 'u' :=
      head?_toList_append (head?_toList_append rfl f) _
    exact hc (Option.some.inj (h.symm.trans hu))
  have hnothing : transparent.toList.head? = some 't' := by decide
  cases paint with
  | solid color opacity visible =>
    refine hstart 'l' (by decide) ?_
    iterate 4 apply head?_toList_append
    rfl
  | gradient shape stops visible =>
    cases shape with
    | linear => exact hstart 'l' (by decide) (head?_toList_append (head?_toList_append rfl _) _)
    | radial => exact hstart 'r' (by decide) (head?_toList_append (head?_toList_append rfl _) _)
    | angular => exact hstart 'c' (by decide) (head?_toList_append (head?_toList_append rfl _) _)
    | diamond => exact hstart 'r' (by decide) (head?_toList_append (head?_toList_append rfl _) _)
  | image hash visible => exact hstart 't' (by decide) hnothing
  | unsupported => exact hstart 't' (by decide) hnothing

/-- A layer refers to a file if and only if that is its own. -/
theorem Paint.text_eq_urlText_iff {paint : Paint} {f : String} :
    paint.text source = urlText f ↔
      ∃ media, paint.file? source = some media ∧ media.filename = f := by
  cases hfile : paint.file? source with
  | none =>
    rw [Paint.text_of_none hfile]
    simp [paint.layer_ne_urlText f]
  | some media =>
    rw [Paint.text_of_some hfile]
    constructor
    · exact fun h => ⟨media, rfl, urlText_injective h⟩
    · rintro ⟨other, heq, rfl⟩
      cases heq
      rfl

/-! ### Scripts that ask for no file -/

namespace Script

variable {α β : Type}

/-- What holds of every outcome of a script holds of its work. -/
theorem Ends.work {P : Except CompileError α → Prop} {x : Script α} (h : x.Ends P) :
    P (x.work source).result := by
  induction x with
  | done a => exact h
  | fail e => exact h
  | font name next ih => exact ih h
  | «recall» hash next ih => exact ih _ (h _)
  | keep hash bytes next ih => exact ih _ (h _)
  | warn w next ih => exact ih h

/-- Two scripts that come across no file come across none one after the other. -/
theorem files_bind_eq_nil {x : Script α} {f : α → Script β} (hx : (x.work source).files = [])
    (hf : ∀ a, ((f a).work source).files = []) : ((x.bind f).work source).files = [] := by
  rw [work_bind]
  cases hr : (x.work source).result with
  | error e =>
    rw [Work.andThen_of_error hr]
    exact hx
  | ok a =>
    rw [Work.andThen_of_ok hr, hx, hf]
    rfl

end Script

namespace Node

/-- The style of a base run comes across no file. -/
theorem files_baseStyle (node : Node) : (node.baseStyle.work source).files = [] := by
  unfold baseStyle
  cases node.baseRun? <;> rfl

/-- The markup of runs comes across no file. -/
theorem files_runsMarkup (node : Node) (text : TextContent) (index : Nat) (base : Style)
    (runs : List (TextRun × Nat)) :
    ((node.runsMarkup text index base runs).work source).files = [] := by
  fun_induction runsMarkup node text index base runs with
  | case1 => rfl
  | case2 run rest _ ih => exact Script.files_bind_eq_nil ih fun _ => rfl
  | case3 run i rest _ _ ih => exact Script.files_bind_eq_nil ih fun _ => rfl

/-- The markup of a text comes across no file. -/
theorem files_richText (node : Node) : (node.richText.work source).files = [] := by
  unfold richText
  split
  · rfl
  · split
    · rfl
    · split
      · rfl
      · exact node.files_runsMarkup _ _ _ _

end Node

/-! ### One place -/

namespace Site

/-- The layers of a place, the top one first. Only boxes have any. -/
def layers (source : Source) (site : Site) : List String :=
  if site.node.kind ∈ boxes then site.node.visibleFills.map (Paint.text source) else []

/-- The background of a place: its layers, unless they show nothing. -/
def background? (source : Source) (site : Site) : Option Value :=
  let text := String.intercalate ", " (site.layers source)
  if site.layers source = [] ∨ text = transparent then none else some (.text text)

/-- The file that is attached to a place: that of the topmost layer that has one. -/
def attached (source : Source) (mode : ImageFills) (site : Site) : Option String :=
  match mode with
  | .css => none
  | .imageBackground =>
    if site.node.kind ∈ boxes then
      (site.node.visibleFills.findSome? (Paint.file? source)).map Media.filename
    else none

/-- The files of a place. -/
def files (source : Source) (site : Site) : List (String × Media) :=
  if site.node.kind ∈ boxes then site.node.fillFiles source else []

/-- An element of this content and style shows the fill of a place. -/
structure Shows (source : Source) (mode : ImageFills) (site : Site) (content : Content)
    (style : Style) : Prop where
  background : style.get? "background" = site.background? source
  image : content.image = site.attached source mode
  written : site.node.kind ∈ boxes → content.isBlank = false

/-- Only boxes have a background. -/
theorem resolve_without_background (site : Site) (source : Source) (h : site.node.kind ∉ boxes) :
    (site.resolve source).Ends fun r => ∀ style, r = .ok style →
      style.get? "background" = none := by
  have hwarn := Script.succeeds_warnAll site.edgeWarnings
  have hflow := site.background_not_mem_flow
  have htransform := site.node.background_not_mem_transform
  have hdone {l : List (String × Value)} (hl : "background" ∉ l.map Prod.fst) :
      (Script.done (Style.ofList l)).Ends fun r =>
        ∀ style, r = .ok style → style.get? "background" = none := by
    intro style hstyle
    cases hstyle
    exact Style.get?_ofList_of_not_mem hl
  -- every kind that is no box lists its entries, and none of them has the key
  unfold resolve
  cases hk : site.node.kind
  case frame | component | instanceOf | rectangle => simp [boxes, hk] at h
  case componentSet | other => exact fun style hstyle => by cases hstyle
  case group =>
    refine hwarn.bind fun _ => hdone ?_
    simp only [List.map_append, List.mem_append, not_or]
    exact ⟨⟨hflow, site.edges.background_not_mem_byAxis⟩, htransform⟩
  case text =>
    refine hwarn.bind fun _ => ?_
    have hbase : site.node.baseStyle.Ends fun r =>
        ∃ typography, r = .ok typography ∧ "background" ∉ typography.entries.map Prod.fst := by
      unfold Node.baseStyle
      cases site.node.baseRun? with
      | none => exact ⟨_, rfl, List.not_mem_nil⟩
      | some base => exact ⟨_, rfl, site.node.background_not_mem_typography base.1 base.2⟩
    refine hbase.bind ?_ ?_
    · rintro typography ⟨_, heq, hnot⟩
      cases heq
      refine hdone ?_
      simp only [List.map_append, List.mem_append, not_or]
      exact ⟨⟨⟨⟨hflow, site.edges.background_not_mem_clockwise⟩, htransform⟩, hnot⟩,
        site.node.background_not_mem_textShadow⟩
    · rintro e ⟨typography, he, -⟩
      cases he
  all_goals
    refine hwarn.bind fun _ => hdone ?_
    simp only [List.map_append, List.mem_append, not_or]
    exact ⟨hflow, background_not_mem_artwork site.edges⟩

/-- What is no box has no background and no image. -/
theorem element_without_background (site : Site) (source : Source) (mode : ImageFills)
    (artwork : Bool) (h : site.node.kind ∉ boxes) :
    (site.element source mode artwork).Ends fun r =>
      ∀ d, r = .ok d → d.style.get? "background" = none ∧ d.content.image = none := by
  refine (site.resolve_without_background source h).bind (fun style hstyle => ?_)
    fun e _ d hd => by cases hd
  have hnone : style.simplify.get? "background" = none := by
    rw [Style.get?_simplify_background, hstyle style rfl]
    rfl
  generalize style.simplify = style at hnone ⊢
  have hdone (name : String) (content : Content) {style : Style}
      (hs : style.get? "background" = none) (hc : content.image = none) :
      (Script.done (Element.mk name content style [])).Ends fun r =>
        ∀ d, r = .ok d → d.style.get? "background" = none ∧ d.content.image = none := by
    intro d hd
    cases hd
    exact ⟨hs, hc⟩
  unfold elementOf
  by_cases hart : artwork = true
  · rw [if_pos hart]
    unfold exported
    cases source.artwork site.id with
    | ok svg =>
      refine hdone _ (.vector svg) ?_ rfl
      rw [Style.get?_erase, if_neg (by decide), hnone]
    | error e => exact hdone _ .blank rfl rfl
  · rw [if_neg hart]
    cases hk : site.node.kind
    case frame | component | instanceOf | rectangle => simp [boxes, hk] at h
    case group => exact hdone _ .group hnone rfl
    case text =>
      exact site.node.succeeds_richText.bind fun markup => hdone _ (.text markup _) hnone rfl
    all_goals exact fun d hd => by cases hd

/-- What is no box records no file. -/
theorem files_element_of_not_box (site : Site) (mode : ImageFills) (artwork : Bool)
    (h : site.node.kind ∉ boxes) : ((site.element source mode artwork).work source).files = [] := by
  apply Script.files_bind_eq_nil
  · unfold resolve
    cases hk : site.node.kind
    case frame | component | instanceOf | rectangle => simp [boxes, hk] at h
    case componentSet | other => rfl
    case text =>
      refine (congrArg Work.files (Script.work_warnAll_bind _ _)).trans ?_
      exact Script.files_bind_eq_nil site.node.files_baseStyle fun _ => rfl
    all_goals exact congrArg Work.files (Script.work_warnAll_bind _ _)
  · intro style
    unfold elementOf
    by_cases hart : artwork = true
    · rw [if_pos hart]
      unfold exported
      cases source.artwork site.id <;> rfl
    · rw [if_neg hart]
      cases hk : site.node.kind
      case frame | component | instanceOf | rectangle => simp [boxes, hk] at h
      case text => exact Script.files_bind_eq_nil site.node.files_richText fun _ => rfl
      all_goals rfl

/-- The element of a box carries the image that is looked for, and is written. -/
theorem elementOf_of_box (site : Site) (source : Source) (mode : ImageFills) (style : Style)
    (h : site.node.kind ∈ boxes) :
    ∃ (name : String) (content : Option String → Content),
      (∀ image, (content image).image = image ∧ (content image).isBlank = false) ∧
      site.elementOf source mode false style =
        (site.image mode).bind fun image => .done (.mk name (content image) style []) := by
  simp only [boxes, List.mem_cons, List.not_mem_nil, or_false] at h
  rcases h with h | h | h | h
  all_goals
    unfold elementOf
    dsimp only
    rw [h]
  · exact ⟨_, .frame, fun _ => ⟨rfl, rfl⟩, rfl⟩
  · exact ⟨_, .component _, fun _ => ⟨rfl, rfl⟩, rfl⟩
  · exact ⟨_, .instanceOf _ _, fun _ => ⟨rfl, rfl⟩, rfl⟩
  · exact ⟨_, .rectangle, fun _ => ⟨rfl, rfl⟩, rfl⟩

/-- The image of a box is the file of its topmost layer that has one, and it is among those of its
fill. -/
theorem work_image_of_box (site : Site) (source : Source) (mode : ImageFills)
    (h : site.node.kind ∈ boxes) :
    ((site.image mode).work source).result = .ok (site.attached source mode) ∧
      ((site.image mode).work source).files ⊆ site.node.fillFiles source := by
  cases mode with
  | css => exact ⟨rfl, List.nil_subset _⟩
  | imageBackground =>
    obtain ⟨hresult, hfiles⟩ := Node.work_firstKept source site.node.visibleFills
    unfold image attached
    rw [if_pos h, Node.backgroundImage_eq]
    exact ⟨hresult, hfiles⟩

/-- The text of a fill is the background of its place, once it is simplified. -/
theorem background?_of_box (site : Site) (h : site.node.kind ∈ boxes) :
    site.background? source = (some (Value.text (site.node.backgroundText source))).filter fun v =>
      !v.same (.text transparent) := by
  unfold background? layers Node.backgroundText
  rw [if_pos h, Option.filter_some]
  simp only [List.map_eq_nil_iff, List.isEmpty_iff, Value.same, Bool.not_eq_true',
    beq_eq_false_iff_ne]
  by_cases hempty : site.node.visibleFills = []
  · simp [hempty]
  · simp only [hempty, false_or, if_false, ne_eq, ite_not]

/-- Step: what comes of one place. It shows its fill, and the files of the fill are recorded. -/
theorem work_element (site : Site) (mode : ImageFills) (artwork : Bool)
    (hcut : artwork = true → site.node.kind ∉ boxes) {d : Element}
    (h : ((site.element source mode artwork).work source).result = .ok d) :
    site.Shows source mode d.content d.style ∧
      ∀ entry, entry ∈ ((site.element source mode artwork).work source).files ↔
        entry ∈ site.files source := by
  by_cases hbox : site.node.kind ∈ boxes
  · have hart : artwork = false := Bool.eq_false_iff.mpr fun hart => hcut hart hbox
    subst hart
    obtain ⟨style, hstyle, hd, hfiles⟩ := Script.parts_of_work_bind h
    obtain ⟨hbackground, hresolve⟩ := site.work_resolve_of_box hbox hstyle
    obtain ⟨name, content, hcontent, heq⟩ := site.elementOf_of_box source mode style.simplify hbox
    obtain ⟨himage, hsubset⟩ := site.work_image_of_box source mode hbox
    rw [heq] at hd hfiles
    obtain ⟨image, hi, hd, hfiles'⟩ := Script.parts_of_work_bind hd
    cases hi.symm.trans himage
    cases hd
    refine ⟨⟨?_, (hcontent _).1, fun _ => (hcontent _).2⟩, fun entry => ?_⟩
    · rw [Element.style_mk, Style.get?_simplify_background, hbackground,
        site.background?_of_box hbox]
    · -- looking for the topmost image adds nothing to what the layers have recorded
      unfold files
      show entry ∈ ((site.element source mode false).work source).files ↔ _
      unfold element
      rw [if_pos hbox, hfiles, hfiles', hresolve]
      simp only [List.mem_append, Script.work, List.not_mem_nil, or_false]
      exact or_iff_left_of_imp fun hm => hsubset hm
  · obtain ⟨hstyle, hcontent⟩ := (site.element_without_background source mode artwork hbox).work d h
    rw [site.files_element_of_not_box mode artwork hbox]
    refine ⟨⟨?_, ?_, fun hb => absurd hb hbox⟩, fun entry => ?_⟩
    · simp [hstyle, background?, layers, hbox]
    · rw [hcontent]
      cases mode <;> simp [attached, hbox]
    · simp [files, hbox]

end Site

/-! ### All places -/

namespace Outline

mutual

/-- The reached places, each before those below it. -/
def sites : Outline → List Site
  | .mk site _ children => site :: sitesAll children

/-- The reached places of several parts. -/
def sitesAll : List Outline → List Site
  | [] => []
  | o :: os => o.sites ++ sitesAll os

end

mutual

/-- No box is drawn as a piece of artwork. -/
def BoxesOpen : Outline → Prop
  | .mk site artwork children =>
    (artwork = true → site.node.kind ∉ Site.boxes) ∧ BoxesOpenAll children

/-- No box of several parts is drawn as a piece of artwork. -/
def BoxesOpenAll : List Outline → Prop
  | [] => True
  | o :: os => o.BoxesOpen ∧ BoxesOpenAll os

end

end Outline

namespace Layer

/-- No box is drawn as one piece. -/
theorem not_mem_boxes_of_isArtwork {id : Nat} {node : Node} {children : List Layer}
    (h : isArtwork (.mk id node children) = true) : node.kind ∉ Site.boxes := by
  unfold isArtwork at h
  cases hk : node.kind <;> simp_all [Site.boxes, Kind.isVectorLike]

mutual

/-- In the reached part of a layer no box is drawn as one piece. -/
theorem outline_boxesOpen (selected : Bool) (owner outer : Option Node) :
    (layer : Layer) → (layer.outline selected owner outer).BoxesOpen
  | .mk id node children => by
      unfold outline
      refine ⟨not_mem_boxes_of_isArtwork, ?_⟩
      split
      · exact outlines_boxesOpen (some node) owner children
      · trivial

/-- In the reached parts of several layers no box is drawn as one piece. -/
theorem outlines_boxesOpen (owner outer : Option Node) :
    (layers : List Layer) → Outline.BoxesOpenAll (outlines owner outer layers)
  | [] => trivial
  | layer :: layers => by
      unfold outlines
      split
      · exact ⟨outline_boxesOpen false owner outer layer, outlines_boxesOpen owner outer layers⟩
      · exact outlines_boxesOpen owner outer layers

end

end Layer

namespace Outline

mutual

/-- Run: what comes of all places of a part. -/
theorem work_build (source : Source) (mode : ImageFills) :
    (o : Outline) → o.BoxesOpen → ∀ {e : Element},
      ((o.build source mode).work source).result = .ok e →
        List.Forall₂ (fun site d => site.Shows source mode d.content d.style) o.sites e.preorder ∧
          ∀ entry, entry ∈ ((o.build source mode).work source).files ↔
            ∃ site ∈ o.sites, entry ∈ site.files source
  | .mk site artwork children, ⟨hsite, hchildren⟩, e, h => by
      unfold build at h ⊢
      obtain ⟨d, hd, h, hfiles⟩ := Script.parts_of_work_bind h
      obtain ⟨es, hes, h, hfiles'⟩ := Script.parts_of_work_bind h
      cases h
      obtain ⟨hshows, hown⟩ := site.work_element mode artwork hsite hd
      obtain ⟨hall, hrest⟩ := work_buildAll source mode children hchildren hes
      constructor
      · obtain ⟨name, content, style, below⟩ := d
        exact .cons hshows hall
      · intro entry
        rw [hfiles, hfiles']
        simp only [List.mem_append, Script.work, List.not_mem_nil, or_false, hown, hrest]
        simp [sites]

/-- Run: what comes of all places of several parts. -/
theorem work_buildAll (source : Source) (mode : ImageFills) :
    (os : List Outline) → BoxesOpenAll os → ∀ {es : List Element},
      ((buildAll source mode os).work source).result = .ok es →
        List.Forall₂ (fun site d => site.Shows source mode d.content d.style) (sitesAll os)
            (Element.preorderAll es) ∧
          ∀ entry, entry ∈ ((buildAll source mode os).work source).files ↔
            ∃ site ∈ sitesAll os, entry ∈ site.files source
  | [], _, es, h => by
      cases h
      exact ⟨.nil, fun entry => by simp [buildAll, Script.work, sitesAll]⟩
  | o :: os, ⟨ho, hos⟩, es, h => by
      unfold buildAll at h ⊢
      obtain ⟨e, he, h, hfiles⟩ := Script.parts_of_work_bind h
      obtain ⟨es', hes, h, hfiles'⟩ := Script.parts_of_work_bind h
      cases h
      obtain ⟨hfirst, hown⟩ := work_build source mode o ho he
      obtain ⟨hothers, hrest⟩ := work_buildAll source mode os hos hes
      constructor
      · exact List.rel_append hfirst hothers
      · intro entry
        rw [hfiles, hfiles']
        simp only [List.mem_append, Script.work, List.not_mem_nil, or_false, hown, hrest]
        simp [sitesAll, or_and_right, exists_or]

end

end Outline

/-! ### References and files -/

namespace Site

/-- The layers of a place refer to its files, and each of its files is referred to. -/
theorem urlText_mem_layers_iff (site : Site) {f : String} :
    urlText f ∈ site.layers source ↔
      ∃ hash media, (hash, media) ∈ site.files source ∧ media.filename = f := by
  unfold layers files Node.fillFiles
  by_cases hbox : site.node.kind ∈ boxes
  · simp only [if_pos hbox, List.mem_map, List.mem_flatMap, Paint.text_eq_urlText_iff]
    constructor
    · rintro ⟨paint, hm, media, hfile, rfl⟩
      obtain ⟨hash, hrecord⟩ := Paint.exists_mem_recorded_iff.mpr hfile
      exact ⟨hash, media, ⟨paint, hm, hrecord⟩, rfl⟩
    · rintro ⟨hash, media, ⟨paint, hm, hrecord⟩, rfl⟩
      exact ⟨paint, hm, media, Paint.exists_mem_recorded_iff.mp ⟨hash, hrecord⟩, rfl⟩
  · simp [if_neg hbox]

/-- What is attached to a place is one of its files. -/
theorem exists_file_of_attached {site : Site} {f : String}
    (h : site.attached source mode = some f) :
    ∃ hash media, (hash, media) ∈ site.files source ∧ media.filename = f := by
  unfold attached at h
  cases mode with
  | css => cases h
  | imageBackground =>
    by_cases hbox : site.node.kind ∈ boxes
    · simp only [if_pos hbox] at h
      obtain ⟨media, hfind, rfl⟩ := Option.map_eq_some_iff.mp h
      obtain ⟨paint, hm, hfile⟩ := List.exists_of_findSome?_eq_some hfind
      obtain ⟨hash, hrecord⟩ := Paint.exists_mem_recorded_iff.mpr hfile
      refine ⟨hash, media, ?_, rfl⟩
      unfold files Node.fillFiles
      rw [if_pos hbox]
      exact List.mem_flatMap.mpr ⟨paint, hm, hrecord⟩
    · simp [if_neg hbox] at h

/-- What is in a text is in the texts joined. -/
theorem mem_toList_intercalate {c : Char} {text : String} {texts : List String} (h : text ∈ texts)
    (hc : c ∈ text.toList) (separator : String) :
    c ∈ (separator.intercalate texts).toList := by
  rw [String.toList_intercalate]
  induction texts with
  | nil => exact absurd h List.not_mem_nil
  | cons t ts ih =>
    cases ts with
    | nil =>
      rw [List.mem_singleton.mp h] at hc
      simpa using hc
    | cons u us =>
      rw [List.map_cons, List.map_cons, List.intercalate_cons_cons, List.mem_append,
        List.mem_append]
      rcases List.mem_cons.mp h with rfl | h
      · exact Or.inl (Or.inl hc)
      · exact Or.inr (ih h)

/-- A fill that refers to a file is never dropped. -/
theorem background?_of_urlText {site : Site} {f : String} (h : urlText f ∈ site.layers source) :
    site.background? source = some (.text (String.intercalate ", " (site.layers source))) := by
  have hquote : '\'' ∈ (String.intercalate ", " (site.layers source)).toList :=
    mem_toList_intercalate h (by simp [urlText]) ", "
  have hne : String.intercalate ", " (site.layers source) ≠ transparent := by
    intro heq
    rw [heq] at hquote
    exact absurd hquote (by decide)
  unfold background?
  exact if_neg (not_or.mpr ⟨List.ne_nil_of_mem h, hne⟩)

end Site

namespace Assets

/-- The collected files of a sound store have distinct names. -/
theorem Sound.nodup_filenames {assets : Assets} (hs : assets.Sound source) :
    (assets.collected.media.map Media.filename).Nodup := by
  show ((assets.media.map Prod.snd).map Media.filename).Nodup
  rw [List.map_map]
  refine List.Nodup.map_on ?_ (hs.nodup_media.of_map _)
  intro a ha b hb hname
  obtain ⟨-, -, haname⟩ := Source.image_of_file? (hs.file a ha)
  obtain ⟨-, -, hbname⟩ := Source.image_of_file? (hs.file b hb)
  have hhash : a.1 = b.1 := Media.hash_eq_of_filename_eq (haname.symm.trans (hname.trans hbname))
  exact List.inj_on_of_nodup_map hs.nodup_media ha hb hhash

/-- One collected file has the name of a recorded one. -/
theorem Sound.existsUnique_collected {assets : Assets} (hs : assets.Sound source) {hash : String}
    {media : Media} (h : (hash, media) ∈ assets.media) :
    ∃! record, record ∈ assets.collected.media ∧ record.filename = media.filename := by
  have hmem : media ∈ assets.collected.media := List.mem_map_of_mem h
  refine ⟨media, ⟨hmem, rfl⟩, ?_⟩
  rintro other ⟨hother, hname⟩
  exact List.inj_on_of_nodup_map hs.nodup_filenames hother hmem hname

end Assets

namespace Element

/-- What an element shows: its content and its style. -/
def face (e : Element) : Content × Style := (e.content, e.style)

mutual

/-- Names make no difference to what is shown. -/
theorem map_face_rename : (e : Element) → ∀ taken : List String,
    (e.rename taken).1.preorder.map face = e.preorder.map face
  | .mk name content style children, taken => by
      by_cases hb : content.isBlank = true
      · rw [rename_of_blank hb]
        unfold preorder
        rw [List.map_cons, List.map_cons, map_face_renameAll children]
        rfl
      · rw [rename_of_written (Bool.eq_false_iff.mpr hb)]
        unfold preorder
        rw [List.map_cons, List.map_cons, map_face_renameAll children]
        rfl

/-- Renaming several trees keeps what their elements show. -/
theorem map_face_renameAll : (es : List Element) → ∀ taken : List String,
    (preorderAll (renameAll es taken).1).map face = (preorderAll es).map face
  | [], _ => rfl
  | e :: es, taken => by
      rw [renameAll_cons]
      unfold preorderAll
      rw [List.map_append, List.map_append, map_face_rename e, map_face_renameAll es]

end

/-- What the elements of a tree show, they show with distinct names. -/
theorem forall₂_distinct {α : Type} {R : α → Content → Style → Prop} {as : List α} {e : Element}
    (h : List.Forall₂ (fun a d => R a d.content d.style) as e.preorder) :
    List.Forall₂ (fun a d => R a d.content d.style) as e.distinct.preorder := by
  have hface : ∀ ds : List Element, List.Forall₂ (fun a f => R a f.1 f.2) as (ds.map face) ↔
      List.Forall₂ (fun a d => R a d.content d.style) as ds :=
    fun _ => List.forall₂_map_right_iff
  rw [← hface, distinct, map_face_rename, hface]
  exact h

end Element

/-- What comes of a lowering that succeeds: its places are shown, and their files are all that is
recorded. -/
theorem Scene.shows_of_lower_ok {s : Scene} {root : Nat} {catalog : Catalog} {e : Element}
    {log : List Warning} {assets : Assets}
    (h : (s.lower root source mode).run [] { catalog } = (.ok e, log, assets)) :
    ∃ o, s.outline? root = some o ∧ assets.Sound source ∧
      List.Forall₂ (fun site d => site.Shows source mode d.content d.style) o.sites e.preorder ∧
      ∀ entry, entry ∈ assets.media ↔ ∃ site ∈ o.sites, entry ∈ site.files source := by
  obtain ⟨node, o, -, houtline, -, hlower⟩ := outline_of_lower_ok (congrArg Prod.fst h)
  have hopen : o.BoxesOpen := by
    obtain ⟨layer, -, rfl⟩ := Option.map_eq_some_iff.mp houtline
    exact Layer.outline_boxesOpen _ _ _ layer
  have hstart : ({ catalog } : Assets).Sound source := Assets.sound_clear source { catalog }
  have hrun := Script.Steady.run ((Outline.build_steady mode o).of_nothing _) hstart []
  rw [← hlower, h] at hrun
  obtain ⟨hresult, hsound, -, hmedia⟩ := hrun
  rw [hlower] at hresult hmedia
  obtain ⟨hshows, hfiles⟩ := Outline.work_build source mode o hopen hresult.symm
  refine ⟨o, houtline, hsound, hshows, fun entry => ?_⟩
  rw [hmedia, hfiles]
  exact or_iff_right List.not_mem_nil

/-- Every element of the first list is paired with one of the second. -/
theorem exists_mem_zip_of_forall₂ {α β : Type} {R : α → β → Prop} {as : List α} {bs : List β}
    (h : List.Forall₂ R as bs) {a : α} (ha : a ∈ as) : ∃ b, (a, b) ∈ as.zip bs := by
  induction h with
  | nil => exact absurd ha List.not_mem_nil
  | cons _ _ ih =>
    rcases List.mem_cons.mp ha with rfl | ha
    · exact ⟨_, List.mem_cons_self⟩
    · obtain ⟨b, hm⟩ := ih ha
      exact ⟨b, List.mem_cons_of_mem _ hm⟩

namespace Compiler

/-- A compilation that succeeds makes a module of the tree that the lowering gives. -/
theorem moduleOf_of_compile_ok {c : Compiler} {s : Scene} {root : Nat} {m : Compiled}
    (h : (c.compile s root source).1.result = .ok m) :
    ∃ e log assets,
      (s.lower root source c.options.imageFills).run [] { catalog := c.assets.catalog } =
        (.ok e, log, assets) ∧
      (c.lower s root source).1.result = .ok e.distinct ∧
      m = moduleOf c.options assets.collected e.distinct := by
  unfold compile lower at h
  unfold lower
  rcases hrun : (s.lower root source c.options.imageFills).run [] c.assets.clear with
    ⟨error | e, log, assets⟩
  · rw [hrun] at h
    cases h
  · rw [hrun] at h
    cases h
    exact ⟨e, log, assets, hrun, rfl, rfl⟩

/-- A compilation that succeeds has lowered its selection, and returns what was collected on the
way. -/
theorem lower_of_compile_ok {c : Compiler} {s : Scene} {root : Nat} {m : Compiled}
    (h : (c.compile s root source).1.result = .ok m) :
    ∃ e log assets,
      (s.lower root source c.options.imageFills).run [] { catalog := c.assets.catalog } =
        (.ok e, log, assets) ∧
      (c.lower s root source).1.result = .ok e.distinct ∧ m.assets = assets.collected := by
  obtain ⟨e, log, assets, hrun, hlower, rfl⟩ := moduleOf_of_compile_ok h
  exact ⟨e, log, assets, hrun, hlower, rfl⟩

/-- **References.** Let a compilation succeed, and let the elements of its tree be paired with the
places that they come from. Then each element shows the layers of its place, with the topmost image
attached if that is asked for. Every layer that refers to a file, and every image that is attached,
has the name of exactly one collected file. Every collected file is referred to by a layer of an
element that is written, and stands in its background. It holds the bytes that the source has for a
hash, and is named for the hash and for the kind of the bytes; and no two collected files have the
same name. -/
theorem references_collected (c : Compiler) (s : Scene) (root : Nat) (source : Source)
    (m : Compiled) (h : (c.compile s root source).1.result = .ok m) :
    ∃ e o, (c.lower s root source).1.result = .ok e ∧ s.outline? root = some o ∧
      List.Forall₂ (fun site d => site.Shows source c.options.imageFills d.content d.style)
        o.sites e.preorder ∧
      (∀ site d f, (site, d) ∈ o.sites.zip e.preorder →
        urlText f ∈ site.layers source ∨ d.content.image = some f →
          ∃! record, record ∈ m.assets.media ∧ record.filename = f) ∧
      (∀ record ∈ m.assets.media, ∃ site d, (site, d) ∈ o.sites.zip e.preorder ∧
        d.isBlank = false ∧ urlText record.filename ∈ site.layers source ∧
        d.style.get? "background" = some (.text (String.intercalate ", " (site.layers source)))) ∧
      (∀ record ∈ m.assets.media, ∃ hash, source.image hash = .ok (some record.bytes) ∧
        MediaKind.sniff record.bytes = some record.kind ∧
        record.filename = hash ++ "." ++ record.kind.extension) ∧
      (m.assets.media.map Media.filename).Nodup := by
  obtain ⟨e, log, assets, hrun, hlower, hassets⟩ := lower_of_compile_ok h
  obtain ⟨o, houtline, hsound, hshows, hmedia⟩ := Scene.shows_of_lower_ok hrun
  have hdistinct := Element.forall₂_distinct hshows
  have hpairs : ∀ {site : Site} {d : Element}, (site, d) ∈ o.sites.zip e.distinct.preorder →
      site.Shows source c.options.imageFills d.content d.style :=
    (List.forall₂_iff_zip.mp hdistinct).2
  rw [hassets]
  refine ⟨e.distinct, o, hlower, houtline, hdistinct, ?_, ?_, ?_, hsound.nodup_filenames⟩
  · intro site d f hpair href
    have hsite : site ∈ o.sites := (List.of_mem_zip hpair).1
    -- a name that is referred to comes from a layer, directly or as the topmost image
    have hfile : ∃ hash media, (hash, media) ∈ site.files source ∧ media.filename = f := by
      rcases href with hlayer | himage
      · exact site.urlText_mem_layers_iff.mp hlayer
      · exact Site.exists_file_of_attached ((hpairs hpair).image.symm.trans himage)
    obtain ⟨hash, media, hm, rfl⟩ := hfile
    exact hsound.existsUnique_collected ((hmedia _).mpr ⟨site, hsite, hm⟩)
  · intro record hrecord
    obtain ⟨⟨hash, media⟩, hm, rfl⟩ := List.mem_map.mp hrecord
    obtain ⟨site, hsite, hfile⟩ := (hmedia _).mp hm
    obtain ⟨d, hpair⟩ := exists_mem_zip_of_forall₂ hdistinct hsite
    have hlayer := site.urlText_mem_layers_iff.mpr ⟨hash, media, hfile, rfl⟩
    -- only boxes have files, so the element is written and has the background
    have hbox : site.node.kind ∈ Site.boxes := by
      by_contra hbox
      simp [Site.files, hbox] at hfile
    refine ⟨site, d, hpair, (hpairs hpair).written hbox, hlayer, ?_⟩
    rw [(hpairs hpair).background, Site.background?_of_urlText hlayer]
  · intro record hrecord
    obtain ⟨⟨hash, media⟩, hm, rfl⟩ := List.mem_map.mp hrecord
    exact ⟨hash, Source.image_of_file? (hsound.file _ hm)⟩

/-- A frame with three layers, the top one hidden and the next one with bytes of no known kind,
and in it a rectangle with the image of the lowest layer: one file is collected, and both refer
to it. -/
theorem references_collected_shared_image :
    let s := (({} : Scene).addRoot
      { kind := .frame
        fills := .paints
          [.image (some "a") true, .image (some "junk") true, .image (some "b") false] }).addChild 0
      { kind := .rectangle, fills := .paints [.image (some "a") true] }
    let source : Source := { Source.none with
      image := fun hash => .ok (some (if hash = "junk" then [1] else [0x89, 0x50, 0x4E, 0x47])) }
    let c : Compiler := { options := { imageFills := .imageBackground } }
    ∃ m, (c.compile s 0 source).1.result = .ok m ∧
      m.assets.media = [⟨.png, "a.png", [0x89, 0x50, 0x4E, 0x47]⟩] ∧
      ∃ e o, (c.lower s 0 source).1.result = .ok e ∧ s.outline? 0 = some o ∧
        List.Forall₂ (fun site d => site.Shows source .imageBackground d.content d.style)
          o.sites e.preorder ∧
        ∃ site d, (site, d) ∈ o.sites.zip e.preorder ∧ urlText "a.png" ∈ site.layers source := by
  intro s source c
  have hmedia : (c.compile s 0 source).1.result.toOption.map (·.assets.media) =
      some [⟨.png, "a.png", [0x89, 0x50, 0x4E, 0x47]⟩] := by decide +kernel
  cases h : (c.compile s 0 source).1.result with
  | error error =>
    rw [h] at hmedia
    cases hmedia
  | ok m =>
    rw [h] at hmedia
    have hone : m.assets.media = [⟨.png, "a.png", [0x89, 0x50, 0x4E, 0x47]⟩] :=
      Option.some.inj hmedia
    obtain ⟨e, o, he, ho, hshows, -, hused, -⟩ := references_collected c s 0 source m h
    obtain ⟨site, d, hpair, -, hlayer, -⟩ := hused _ (hone ▸ List.mem_singleton_self _)
    exact ⟨m, rfl, hone, e, o, he, ho, hshows, site, d, hpair, hlayer⟩

end Compiler

end Viewsmith
