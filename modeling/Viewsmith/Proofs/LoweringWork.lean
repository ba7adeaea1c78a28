import Viewsmith.Proofs.BackgroundProperty
import Viewsmith.Proofs.ScriptWork

/-!
# The work of a lowering

The layers of a fill show the files of the source, the topmost image is the first of them that has a
file, and nothing else that is lowered asks for files. A box looks for the topmost image only after
the layers of its fill are done, so whatever it finds then was recorded by the layers.

## Main definitions

* `Node.visibleFills`: the layers of a box, the top one first.
* `Paint.file?`, `Paint.text`, `Paint.recorded`: the file of a layer, its text, and what is recorded
  for it.
* `Node.backgroundText`: the text of all layers.

## Main statements

* `Node.work_background`: the text of a fill, and the files that are recorded for it.
* `Node.work_firstKept`, `Node.backgroundImage_eq`: the topmost image.
* `Site.work_resolve_of_box`: the style of a box.
* `Site.element_steady`: lowering one place does the same work whether files are found or fetched.
-/

namespace Viewsmith

variable {source : Source}

namespace Paint

/-- The file of a layer. -/
def file? (source : Source) : Paint → Option Media
  | .image (some hash) _ => source.file? hash
  | _ => none

/-- What is recorded for a layer. -/
def recorded (source : Source) : Paint → List (String × Media)
  | .image (some hash) _ => source.record hash
  | _ => []

/-- The text of a layer: its file, if there is one. -/
def text (source : Source) (paint : Paint) : String :=
  match paint.file? source with
  | some media => Node.urlLayer media
  | none => paint.layer

/-- A layer that has a file refers to it. -/
theorem text_of_some {paint : Paint} {media : Media} (h : paint.file? source = some media) :
    paint.text source = Node.urlLayer media := by
  unfold text
  rw [h]

/-- A layer without a file is written as it is. -/
theorem text_of_none {paint : Paint} (h : paint.file? source = none) :
    paint.text source = paint.layer := by
  unfold text
  rw [h]

/-- What is recorded for a layer is its file, under the hash. -/
theorem mem_recorded {paint : Paint} {entry : String × Media} :
    entry ∈ paint.recorded source ↔
      (∃ visible, paint = .image (some entry.1) visible) ∧ paint.file? source = some entry.2 := by
  cases paint with
  | image hash visible =>
    cases hash with
    | none => simp [recorded, file?]
    | some hash =>
      show entry ∈ source.record hash ↔ _
      rw [Source.mem_record]
      constructor
      · rintro ⟨rfl, hfile⟩
        exact ⟨⟨visible, rfl⟩, hfile⟩
      · rintro ⟨⟨_, heq⟩, hfile⟩
        cases heq
        exact ⟨rfl, hfile⟩
  | solid color opacity visible => simp [recorded]
  | gradient shape stops visible => simp [recorded]
  | unsupported => simp [recorded]

/-- What is recorded for a layer is its file. -/
theorem exists_mem_recorded_iff {paint : Paint} {media : Media} :
    (∃ hash, (hash, media) ∈ paint.recorded source) ↔ paint.file? source = some media := by
  constructor
  · rintro ⟨hash, hm⟩
    exact (mem_recorded.mp hm).2
  · intro h
    cases paint with
    | image hash visible =>
      cases hash with
      | none => cases h
      | some hash => exact ⟨hash, mem_recorded.mpr ⟨⟨visible, rfl⟩, h⟩⟩
    | solid color opacity visible => cases h
    | gradient shape stops visible => cases h
    | unsupported => cases h

end Paint

/-! ### Scripts that only warn and record fonts -/

namespace Script

variable {α ι : Type}

/-- Warning is no work. -/
theorem work_warnAll (warnings : List Warning) :
    (warnAll warnings).work source = { result := .ok () } := by
  induction warnings with
  | nil => rfl
  | cons w warnings ih => exact ih

/-- Warning does not depend on what is recorded. -/
theorem warnAll_steady (warnings : List Warning) (known : String → Prop) :
    (warnAll warnings).Steady source known := by
  induction warnings with
  | nil => trivial
  | cons w warnings ih => exact ih

/-- Warnings that come first make no difference. -/
theorem work_warnAll_bind (warnings : List Warning) (x : Script α) :
    ((warnAll warnings).bind fun _ => x).work source = x.work source := by
  rw [work_bind, work_warnAll]
  rfl

/-- A script stays steady with warnings before it. -/
theorem warnAll_bind_steady (warnings : List Warning) {x : Script α}
    (h : x.Steady source fun _ => False) :
    ((warnAll warnings).bind fun _ => x).Steady source fun _ => False :=
  (warnAll_steady warnings _).bind_of_nothing fun _ => h

/-- Scripts in order, one for each member of a list. -/
theorem work_inOrder_map {f : ι → Script α} {g : ι → α} {files : ι → List (String × Media)}
    (h : ∀ i, (f i).work source = { result := .ok (g i), files := files i }) (is : List ι) :
    (inOrder (is.map f)).work source = { result := .ok (is.map g), files := is.flatMap files } := by
  induction is with
  | nil => rfl
  | cons i is ih =>
    show ((f i).bind fun a => (inOrder (is.map f)).bind fun as => .done (a :: as)).work source = _
    simp only [work_bind, h, ih, Work.andThen, Script.work]
    simp

/-- Steady scripts are steady in a row. -/
theorem inOrder_steady {scripts : List (Script α)}
    (h : ∀ x ∈ scripts, x.Steady source fun _ => False) :
    (inOrder scripts).Steady source fun _ => False := by
  induction scripts with
  | nil => trivial
  | cons x scripts ih =>
    have htail := ih fun y hy => h y (List.mem_cons_of_mem x hy)
    exact (h x List.mem_cons_self).bind_of_nothing fun _ => htail.bind_of_nothing fun _ => trivial

end Script

/-! ### Fills -/

namespace Node

/-- The layers of a box that are shown, the top one first. -/
def visibleFills (node : Node) : List Paint :=
  match node.fills with
  | .paints layers => visibleFromTop layers
  | .mixed => []

/-- The text of the layers of a box. -/
def backgroundText (source : Source) (node : Node) : String :=
  if node.visibleFills.isEmpty then transparent
  else String.intercalate ", " (node.visibleFills.map (Paint.text source))

/-- What is recorded for the layers of a box. -/
def fillFiles (source : Source) (node : Node) : List (String × Media) :=
  node.visibleFills.flatMap (Paint.recorded source)

/-- The script of an image layer without a file ends with a layer that shows nothing; what it offers
are the bytes of the source. -/
theorem imageLayer_steady (node : Node) (hash : Option String) (known : String → Prop) :
    (node.imageLayer source hash).Steady source known := by
  cases hash with
  | none => trivial
  | some hash =>
    constructor
    · cases hfile : source.file? hash with
      | some media => trivial
      | none =>
        dsimp only
        cases himage : source.image hash with
        | error e => trivial
        | ok answer =>
          cases answer with
          | none => trivial
          | some bytes =>
            refine ⟨himage, ?_⟩
            rw [hfile]
            trivial
    · intro _ hfile
      obtain ⟨media, hmedia⟩ := Option.ne_none_iff_exists'.mp hfile
      obtain ⟨himage, -, -⟩ := Source.image_of_file? hmedia
      simp only [himage, Script.Steady, Script.work, hmedia, true_and]

/-- The work of an image layer: its text, and its file if there is one. -/
theorem work_imageLayer (node : Node) (hash : Option String) (visible : Bool) :
    (node.imageLayer source hash).work source =
      { result := .ok ((Paint.image hash visible).text source)
        files := (Paint.image hash visible).recorded source } := by
  cases hash with
  | none => rfl
  | some hash =>
    show Work.mk _ _ _ = Work.mk _ _ (source.record hash)
    cases hfile : source.file? hash with
    | some media =>
      have htext : (Paint.image (some hash) visible).text source = urlLayer media :=
        Paint.text_of_some hfile
      rw [htext]
      simp only [Script.work, List.append_nil]
    | none =>
      have htext : (Paint.image (some hash) visible).text source = transparent :=
        Paint.text_of_none hfile
      rw [htext, Source.record_of_none hfile, List.nil_append]
      cases himage : source.image hash with
      | error e => rfl
      | ok answer =>
        cases answer with
        | none => rfl
        | some bytes =>
          simp only [Script.work, hfile, Work.addFiles, Source.record_of_none hfile,
            List.append_nil]

/-- The work of a layer: its text, and its file if there is one. -/
theorem work_paintLayer (node : Node) (paint : Paint) :
    (node.paintLayer source paint).work source =
      { result := .ok (paint.text source), files := paint.recorded source } := by
  cases paint with
  | image hash visible => exact node.work_imageLayer hash visible
  | solid color opacity visible => rfl
  | gradient shape stops visible => rfl
  | unsupported => rfl

/-- A layer does the same work whether its file is found or fetched. -/
theorem paintLayer_steady (node : Node) (paint : Paint) (known : String → Prop) :
    (node.paintLayer source paint).Steady source known := by
  cases paint with
  | image hash visible => exact node.imageLayer_steady hash known
  | solid color opacity visible => trivial
  | gradient shape stops visible => trivial
  | unsupported => trivial

/-- The fill of a box: its text, and the files that it shows. -/
theorem work_background (node : Node) (h : node.fills ≠ .mixed) :
    (node.background source).work source =
      { result := .ok (node.backgroundText source), files := node.fillFiles source } := by
  unfold background backgroundText fillFiles visibleFills
  cases hfills : node.fills with
  | mixed => exact absurd hfills h
  | paints layers =>
    dsimp only
    by_cases hempty : (visibleFromTop layers).isEmpty = true
    · rw [if_pos hempty, if_pos hempty, List.isEmpty_iff.mp hempty]
      rfl
    · rw [if_neg hempty, if_neg hempty, Script.work_bind,
        Script.work_inOrder_map node.work_paintLayer]
      simp [Work.andThen, Script.work]

/-- Fills that differ along a text are an error. -/
theorem work_background_of_mixed (node : Node) (h : node.fills = .mixed) :
    (node.background source).work source =
      { result := .error (.mixedFills node.kind node.name) } := by
  unfold background
  rw [h]
  rfl

/-- A fill does the same work whether its files are found or fetched. -/
theorem background_steady (node : Node) :
    (node.background source).Steady source fun _ => False := by
  unfold background
  cases node.fills with
  | mixed => trivial
  | paints layers =>
    dsimp only
    split
    · trivial
    · refine (Script.inOrder_steady fun x hx => ?_).bind_of_nothing fun _ => trivial
      obtain ⟨paint, -, rfl⟩ := List.mem_map.mp hx
      exact node.paintLayer_steady paint _

/-! ### The topmost image -/

/-- The search for the topmost image gives the first file of a layer, and comes across no file that
is not one of a layer. -/
theorem work_firstKept (source : Source) (layers : List Paint) :
    ((firstKept layers).work source).result =
        .ok ((layers.findSome? (Paint.file? source)).map Media.filename) ∧
      ((firstKept layers).work source).files ⊆ layers.flatMap (Paint.recorded source) := by
  fun_induction firstKept layers with
  | case1 => exact ⟨rfl, List.nil_subset _⟩
  | case2 hash visible rest ih =>
    have hhead : source.record hash ⊆
        (Paint.image (some hash) visible :: rest).flatMap (Paint.recorded source) :=
      List.subset_append_left _ _
    obtain ⟨hresult, hfiles⟩ := ih
    cases hfile : source.file? hash with
    | some media =>
      simp only [Script.work, hfile, Work.addFiles, List.append_nil]
      -- the search ends here, and what it came across is the file of this layer
      refine ⟨?_, hhead⟩
      rw [List.findSome?_cons]
      simp [Paint.file?, hfile]
    | none =>
      simp only [Script.work, hfile, Work.addFiles, Source.record_of_none hfile, List.nil_append]
      refine ⟨?_, fun entry hm => List.mem_append_right _ (hfiles hm)⟩
      rw [hresult, List.findSome?_cons]
      simp [Paint.file?, hfile]
  | case3 paint rest himage ih =>
    have hnone : paint.file? source = none := by
      unfold Paint.file?
      split
      · exact absurd rfl (himage _ _)
      · rfl
    obtain ⟨hresult, hfiles⟩ := ih
    refine ⟨?_, fun entry hm => List.mem_append_right _ (hfiles hm)⟩
    rw [hresult, List.findSome?_cons, hnone]

/-- The search is steady once the files of the layers are known. -/
theorem firstKept_steady {layers : List Paint} {known : String → Prop}
    (h : ∀ hash, (∃ media, (hash, media) ∈ layers.flatMap (Paint.recorded source)) → known hash) :
    (firstKept layers).Steady source known := by
  fun_induction firstKept layers generalizing known with
  | case1 => trivial
  | case2 hash visible rest ih =>
    have hrest : ∀ other, (∃ media, (other, media) ∈ rest.flatMap (Paint.recorded source)) →
        known other := by
      rintro other ⟨media, hm⟩
      exact h other ⟨media, List.mem_append_right _ hm⟩
    constructor
    · cases source.file? hash with
      | some media => trivial
      | none => exact ih fun other hm => Or.inr (hrest other hm)
    · intro hn hfile
      obtain ⟨media, hmedia⟩ := Option.ne_none_iff_exists'.mp hfile
      have hm : (hash, media) ∈ source.record hash := Source.mem_record.mpr ⟨rfl, hmedia⟩
      exact absurd (h hash ⟨media, List.mem_append_left _ hm⟩) hn
  | case3 paint rest _ ih =>
    apply ih
    rintro other ⟨media, hm⟩
    exact h other ⟨media, List.mem_append_right _ hm⟩

/-- The topmost image is searched for among the layers that are shown. -/
theorem backgroundImage_eq (node : Node) : node.backgroundImage = firstKept node.visibleFills := by
  unfold backgroundImage visibleFills
  cases node.fills with
  | mixed => rfl
  | paints layers => rfl

/-! ### Texts -/

/-- The style of a base run asks for no file. -/
theorem baseStyle_steady (node : Node) : node.baseStyle.Steady source fun _ => False := by
  unfold baseStyle
  cases node.baseRun? with
  | none => trivial
  | some base => trivial

/-- The markup of runs asks for no file. -/
theorem runsMarkup_steady (node : Node) (text : TextContent) (index : Nat) (base : Style)
    (runs : List (TextRun × Nat)) :
    (node.runsMarkup text index base runs).Steady source fun _ => False := by
  fun_induction runsMarkup node text index base runs with
  | case1 => trivial
  | case2 run rest _ ih => exact ih.bind_of_nothing fun _ => trivial
  | case3 run i rest _ _ ih => exact ih.bind_of_nothing fun _ => trivial

/-- The markup of a text asks for no file. -/
theorem richText_steady (node : Node) : node.richText.Steady source fun _ => False := by
  unfold richText
  split
  · trivial
  · split
    · trivial
    · split
      · trivial
      · exact node.runsMarkup_steady _ _ _ _

end Node

/-! ### Places -/

namespace Site

/-- The kinds of nodes that are boxes. -/
def boxes : List Kind := [.frame, .component, .instanceOf, .rectangle]

/-- The style of a box is finished with the text of its fill, which is then its background. -/
theorem resolve_of_box (site : Site) (source : Source) (h : site.node.kind ∈ boxes) :
    ∃ finish : String → Style, (∀ text, (finish text).get? "background" = some (.text text)) ∧
      site.resolve source =
        (Script.warnAll site.edgeWarnings).bind fun _ =>
          (site.node.background source).bind fun background => .done (finish background) := by
  have hshadow := site.node.background_not_mem_boxShadow
  simp only [boxes, List.mem_cons, List.not_mem_nil, or_false] at h
  rcases h with h | h | h | h
  all_goals
    unfold resolve
    rw [h]
    refine ⟨_, fun text => ?_, rfl⟩
  case inr.inr.inr => exact Style.get?_ofList_of_last (.text text) hshadow
  all_goals
    rw [List.append_assoc _ site.node.boxShadowEntries]
    apply Style.get?_ofList_of_last
    rw [List.map_append, List.mem_append, not_or]
    exact ⟨hshadow, site.node.background_not_mem_container⟩

/-- The style of a place takes the same work whether files are found or fetched. -/
theorem resolve_steady (site : Site) : (site.resolve source).Steady source fun _ => False := by
  by_cases hbox : site.node.kind ∈ boxes
  · obtain ⟨finish, -, heq⟩ := site.resolve_of_box source hbox
    rw [heq]
    exact Script.warnAll_bind_steady _
      (site.node.background_steady.bind_of_nothing fun _ => trivial)
  · unfold resolve
    cases hk : site.node.kind
    case frame | component | instanceOf | rectangle => simp [boxes, hk] at hbox
    case componentSet | other => trivial
    case text =>
      exact Script.warnAll_bind_steady _
        (site.node.baseStyle_steady.bind_of_nothing fun _ => trivial)
    -- groups and artwork ask for nothing
    all_goals exact Script.warnAll_bind_steady _ trivial

/-- A box whose style is resolved has the text of its fill, and has recorded the files. -/
theorem work_resolve_of_box (site : Site) (h : site.node.kind ∈ boxes) {style : Style}
    (hok : ((site.resolve source).work source).result = .ok style) :
    style.get? "background" = some (.text (site.node.backgroundText source)) ∧
      (site.resolve source).work source =
        { result := .ok style, files := site.node.fillFiles source } := by
  obtain ⟨finish, hfinish, heq⟩ := site.resolve_of_box source h
  rw [heq, Script.work_warnAll_bind, Script.work_bind] at hok ⊢
  by_cases hfills : site.node.fills = .mixed
  · rw [site.node.work_background_of_mixed hfills] at hok
    cases hok
  · rw [site.node.work_background hfills] at hok ⊢
    cases hok
    exact ⟨hfinish _, by simp [Work.andThen, Script.work]⟩

/-- Once the files of the fill are known, looking for the topmost image is steady. -/
theorem image_steady (site : Site) (mode : ImageFills) {known : String → Prop}
    (h : ∀ hash, (∃ media, (hash, media) ∈ site.node.fillFiles source) → known hash) :
    (site.image mode).Steady source known := by
  cases mode with
  | css => trivial
  | imageBackground =>
    show site.node.backgroundImage.Steady source known
    rw [Node.backgroundImage_eq]
    exact Node.firstKept_steady h

/-- With its style given, an element takes the same work as soon as the files of its fill are
known. -/
theorem elementOf_steady (site : Site) (mode : ImageFills) (artwork : Bool) (style : Style)
    {known : String → Prop}
    (h : site.node.kind ∈ boxes →
      ∀ hash, (∃ media, (hash, media) ∈ site.node.fillFiles source) → known hash) :
    (site.elementOf source mode artwork style).Steady source known := by
  unfold elementOf
  by_cases hart : artwork = true
  · rw [if_pos hart]
    unfold exported
    cases source.artwork site.id with
    | ok svg => trivial
    | error e => trivial
  · rw [if_neg hart]
    cases hk : site.node.kind
    case frame | component | instanceOf | rectangle =>
      have himage := site.image_steady mode (h (by simp [boxes, hk]))
      exact himage.bind_of_nothing fun _ => trivial
    case text =>
      exact (site.node.richText_steady.of_nothing known).bind_of_nothing fun _ => trivial
    all_goals trivial

/-- Lowering one place does the same work whether files are found or fetched. -/
theorem element_steady (site : Site) (mode : ImageFills) (artwork : Bool) (known : String → Prop) :
    (site.element source mode artwork).Steady source known := by
  refine (site.resolve_steady.of_nothing known).bind fun style hstyle => ?_
  refine site.elementOf_steady mode artwork style.simplify fun hbox hash hm => Or.inr ?_
  rw [(site.work_resolve_of_box hbox hstyle).2]
  exact hm

end Site

namespace Outline

mutual

/-- Lowering a whole part is steady, since lowering each place is. -/
theorem build_steady (mode : ImageFills) :
    (o : Outline) → (o.build source mode).Steady source fun _ => False
  | .mk site artwork children => by
      unfold build
      exact (site.element_steady mode artwork _).bind_of_nothing fun _ =>
        (buildAll_steady mode children).bind_of_nothing fun _ => trivial

/-- Several reached parts take the same work whether files are found or fetched. -/
theorem buildAll_steady (mode : ImageFills) :
    (os : List Outline) → (buildAll source mode os).Steady source fun _ => False
  | [] => trivial
  | o :: os => by
      unfold buildAll
      exact (build_steady mode o).bind_of_nothing fun _ =>
        (buildAll_steady mode os).bind_of_nothing fun _ => trivial

end

end Outline

/-- A root whose lowering succeeds is known and can be selected, and it is lowered from its
outline. -/
theorem Scene.outline_of_lower_ok {s : Scene} {root : Nat} {mode : ImageFills} {log : List Warning}
    {assets : Assets} {e : Element} (h : ((s.lower root source mode).run log assets).1 = .ok e) :
    ∃ node o, s.get? root = some node ∧ s.outline? root = some o ∧
      node.kind.checkRoot node.name = .ok () ∧ s.lower root source mode = o.build source mode := by
  unfold lower at h ⊢
  cases hget : s.get? root with
  | none =>
    rw [hget] at h
    cases h
  | some node =>
    cases ho : s.outline? root with
    | none =>
      rw [hget, ho] at h
      cases h
    | some o =>
      rw [hget, ho] at h
      cases hc : node.kind.checkRoot node.name with
      | error error =>
        dsimp only at h
        rw [hc] at h
        cases h
      | ok _ => exact ⟨node, o, rfl, rfl, hc, by simp only [hc]⟩

end Viewsmith
