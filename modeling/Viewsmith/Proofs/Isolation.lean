import Mathlib.Data.List.Forall2
import Viewsmith.Compiler
import Viewsmith.Proofs.Reach

/-!
# A selection is compiled in isolation

What is compiled depends on the selected root and on what lies below it, and on nothing else of the
scene: the parent and its parent, the siblings and the numbers of the nodes have no influence, nor
does what places the root among its siblings. One thing is read from outside: a component is named
after the set of variants that it belongs to.

The proof compares two compilations. What the place of a node says beyond the selection is masked at
every site (`Site.element_isolated`); the rest is the same on both sides up to the numbers of the
nodes, from the scene to its layers (`Scene.Corresponds.layer_alike`), to the outline
(`Layer.outline_alike`), to the requests of the lowering (`Outline.build_quiet`). Warnings are left
out of the comparison, since they quote the errors of the source.

## Main definitions

* `Scene.Corresponds`: the parts of two scenes at and below two nodes are the same up to numbers.
* `Script.quiet`: a script without its warnings.
* `Site.isolated`: a place without what lies outside of the selection.

## Main statements

* `Site.edges_isolated`: the offsets and the size of a node do not depend on what lies outside.
* `Site.element_isolated`: neither does its element.
* `Compiler.compile_eq_of_corresponds`: equal selections are compiled to equal results.
-/

namespace Viewsmith

/-- A node without what places it among its siblings. -/
def Node.unplaced (node : Node) : Node :=
  { node with
    visible := true
    constraints := none
    alignment := .inherit
    grow := 0
    positioning := .auto }

/-- Nodes that differ in their placement only have the same kind. -/
theorem Node.kind_eq_of_unplaced_eq {a b : Node} (h : a.unplaced = b.unplaced) :
    a.kind = b.kind := by
  have hkind : a.unplaced.kind = b.unplaced.kind := by rw [h]
  exact hkind

/-- Nodes that differ in their placement only have the same name. -/
theorem Node.name_eq_of_unplaced_eq {a b : Node} (h : a.unplaced = b.unplaced) :
    a.name = b.name := by
  have hname : a.unplaced.name = b.unplaced.name := by rw [h]
  exact hname

/-- Two sources answer alike for images: with the same answer, or both with an error. -/
def Source.ImagesAlike (source source' : Source) : Prop :=
  ∀ hash : String, (source.image hash).toOption = (source'.image hash).toOption

namespace Scene

/-- The name of the set of variants that a node belongs to. -/
def variantSet? (s : Scene) (id : Nat) : Option String :=
  ((s.parent? id).filter (·.kind = .componentSet)).map (·.name)

/-- The parts of two scenes at and below two nodes are the same up to the numbers of nodes, which
`R` relates, and two sources answer alike for them. The two roots may be placed differently among
their siblings. Two answers of a source are alike if they are the same or both are errors. -/
structure Corresponds (s : Scene) (root : Nat) (source : Source) (t : Scene) (root' : Nat)
    (source' : Source) (R : Nat → Nat → Prop) : Prop where
  related : R root root'
  rootNodes : ∃ node node', s.get? root = some node ∧ t.get? root' = some node' ∧
    node.unplaced = node'.unplaced ∧
    (node.kind = .component → s.variantSet? root = t.variantSet? root')
  nodes : ∀ {a b : Nat}, R a b → a ≠ root → s.get? a = t.get? b
  children : ∀ {a b : Nat}, R a b → List.Forall₂ R (s.childIds a) (t.childIds b)
  artwork : ∀ {a b : Nat}, R a b → (source.artwork a).toOption = (source'.artwork b).toOption
  image : source.ImagesAlike source'

end Scene

/-! ### Scripts without warnings -/

namespace Script

variable {α β : Type}

/-- A script without its warnings. -/
def quiet : Script α → Script α
  | .done a => .done a
  | .fail e => .fail e
  | .font name next => .font name next.quiet
  | .recall hash next => .recall hash fun media => (next media).quiet
  | .keep hash bytes next => .keep hash bytes fun media => (next media).quiet
  | .warn _ next => next.quiet

/-- Without warnings, two scripts are performed one after the other without warnings. -/
theorem quiet_bind (x : Script α) (f : α → Script β) :
    (x.bind f).quiet = x.quiet.bind fun a => (f a).quiet := by
  induction x with
  | done a => rfl
  | fail e => rfl
  | font name next ih => exact congrArg (font name) ih
  | «recall» hash next ih => exact congrArg (Script.recall hash) (funext ih)
  | keep hash bytes next ih => exact congrArg (keep hash bytes) (funext ih)
  | warn w next ih => exact ih

/-- Scripts that are the same up to warnings stay so when more is done after them. -/
theorem bind_quiet_congr {x y : Script α} {f g : α → Script β} (hx : x.quiet = y.quiet)
    (hf : ∀ a, (f a).quiet = (g a).quiet) : (x.bind f).quiet = (y.bind g).quiet := by
  rw [quiet_bind, quiet_bind, hx, funext hf]

/-- Warnings change neither the result nor the assets. -/
theorem run_quiet (x : Script α) (log log' : List Warning) (assets : Assets) :
    (x.quiet.run log assets).1 = (x.run log' assets).1 ∧
      (x.quiet.run log assets).2.2 = (x.run log' assets).2.2 := by
  induction x generalizing log' assets with
  | done a => exact ⟨rfl, rfl⟩
  | fail e => exact ⟨rfl, rfl⟩
  | font name next ih => exact ih log' (assets.registerFont name)
  | «recall» hash next ih => exact ih (assets.media? hash) log' assets
  | keep hash bytes next ih => exact ih (assets.keepMedia hash bytes).1 log' _
  | warn w next ih => exact ih (w :: log') assets

/-- Scripts that are the same up to warnings have the same result and leave the same assets. -/
theorem run_congr_of_quiet {x y : Script α} (h : x.quiet = y.quiet) (log : List Warning)
    (assets : Assets) :
    (x.run log assets).1 = (y.run log assets).1 ∧
      (x.run log assets).2.2 = (y.run log assets).2.2 := by
  obtain ⟨hx, hx'⟩ := run_quiet x log log assets
  obtain ⟨hy, hy'⟩ := run_quiet y log log assets
  rw [h] at hx hx'
  exact ⟨hx.symm.trans hy, hx'.symm.trans hy'⟩

/-- Lists of scripts that are the same up to warnings stay so in a row. -/
theorem inOrder_quiet_congr {ι : Type} {f g : ι → Script α} (h : ∀ i, (f i).quiet = (g i).quiet)
    (l : List ι) : (inOrder (l.map f)).quiet = (inOrder (l.map g)).quiet := by
  induction l with
  | nil => rfl
  | cons i l ih => exact bind_quiet_congr (h i) fun a => bind_quiet_congr ih fun as => rfl

end Script

/-! ### Sources that answer alike -/

section Sources

variable {source source' : Source}

/-- The layer of an image depends on the source only up to warnings. -/
theorem Node.imageLayer_quiet (node : Node) (himage : source.ImagesAlike source')
    (hash : Option String) :
    (node.imageLayer source hash).quiet = (node.imageLayer source' hash).quiet := by
  cases hash with
  | none => rfl
  | some hash =>
    refine congrArg (Script.recall hash) (funext fun media => ?_)
    cases media with
    | some media => rfl
    | none =>
      dsimp only
      rcases Except.cases_of_toOption_eq (himage hash) with ⟨answer, h, h'⟩ | ⟨e, e', h, h'⟩
      · rw [h, h']
      · rw [h, h']
        rfl

/-- A layer depends on the source only up to warnings. -/
theorem Node.paintLayer_quiet (node : Node) (himage : source.ImagesAlike source') (paint : Paint) :
    (node.paintLayer source paint).quiet = (node.paintLayer source' paint).quiet := by
  cases paint with
  | image hash visible => exact node.imageLayer_quiet himage hash
  | solid color opacity visible => rfl
  | gradient shape stops visible => rfl
  | unsupported => rfl

/-- A fill depends on the source only up to warnings. -/
theorem Node.background_quiet (node : Node) (himage : source.ImagesAlike source') :
    (node.background source).quiet = (node.background source').quiet := by
  unfold background
  cases node.fills with
  | mixed => rfl
  | paints layers =>
    dsimp only
    split
    · rfl
    · exact Script.bind_quiet_congr
        (Script.inOrder_quiet_congr (node.paintLayer_quiet himage) _) fun texts => rfl

namespace Site

/-- Whether a node is resolved to a style, and to which one, depends on the images only. -/
theorem resolve_quiet (site : Site) (himage : source.ImagesAlike source') :
    (site.resolve source).quiet = (site.resolve source').quiet := by
  have hbackground (finish : String → Script Style) :
      ((Script.warnAll site.edgeWarnings).bind fun _ =>
        (site.node.background source).bind finish).quiet =
      ((Script.warnAll site.edgeWarnings).bind fun _ =>
        (site.node.background source').bind finish).quiet :=
    Script.bind_quiet_congr rfl fun _ =>
      Script.bind_quiet_congr (site.node.background_quiet himage) fun _ => rfl
  unfold resolve
  cases site.node.kind
  case frame | component | instanceOf | rectangle => exact hbackground _
  all_goals rfl

/-- The number of a node is only used to ask for its artwork. -/
theorem elementOf_quiet (site : Site) {id : Nat} (mode : ImageFills) (artwork : Bool)
    (style : Style) (hartwork : (source.artwork site.id).toOption = (source'.artwork id).toOption) :
    (site.elementOf source mode artwork style).quiet =
      (Site.elementOf { site with id } source' mode artwork style).quiet := by
  unfold elementOf
  cases artwork with
  | true =>
    unfold exported
    rcases Except.cases_of_toOption_eq hartwork with ⟨svg, h, h'⟩ | ⟨e, e', h, h'⟩
    · simp [h, h']
    · simp [h, h', Script.quiet]
  | false => rfl

/-- The element of a place is the same up to warnings where the sources answer alike for it. -/
theorem element_quiet (site : Site) {id : Nat} (mode : ImageFills) (artwork : Bool)
    (himage : source.ImagesAlike source')
    (hartwork : (source.artwork site.id).toOption = (source'.artwork id).toOption) :
    (site.element source mode artwork).quiet =
      (Site.element { site with id } source' mode artwork).quiet :=
  Script.bind_quiet_congr (site.resolve_quiet himage) fun style =>
    site.elementOf_quiet mode artwork style.simplify hartwork

end Site

end Sources

/-! ### Places without what lies outside -/

/-- The markup of runs does not depend on the placement of the node. -/
theorem Node.runsMarkup_unplaced (node : Node) (text : TextContent) (index : Nat) (base : Style)
    (runs : List (TextRun × Nat)) :
    node.unplaced.runsMarkup text index base runs = node.runsMarkup text index base runs := by
  induction runs with
  | nil => rfl
  | cons run runs ih =>
    unfold runsMarkup
    rw [ih]
    rfl

/-- The markup of a text does not depend on the placement of the node. -/
theorem Node.richText_unplaced (node : Node) : node.unplaced.richText = node.richText := by
  unfold richText
  simp only [runsMarkup_unplaced]
  rfl

namespace Site

/-- The name of the set of variants that the node belongs to. -/
def variantSet? (site : Site) : Option String :=
  (site.owner.filter (·.kind = .componentSet)).map (·.name)

/-- A place without what lies outside of the selection. Of the parent of the root only the name of a
set of variants stays, and only for a component; of any other parent all stays but what places it
among its own siblings. -/
def isolated (site : Site) : Site :=
  if site.selected then
    { site with
      node := site.node.unplaced
      owner :=
        if site.node.kind = .component then
          site.variantSet?.map fun name => { kind := .componentSet, name }
        else none
      outer := none }
  else { site with owner := site.owner.map Node.unplaced, outer := none }

/-- Two roots that differ at most in how they are placed, and that belong to the same set of
variants if they are components. -/
theorem isolated_eq_of_selected {id : Nat} (id' : Nat) {node node' : Node}
    {owner owner' outer outer' : Option Node} (hnode : node.unplaced = node'.unplaced)
    (hset : node.kind = .component → variantSet? ⟨id, node, true, owner, outer⟩ =
      variantSet? ⟨id', node', true, owner', outer'⟩) :
    { isolated ⟨id, node, true, owner, outer⟩ with id := id' } =
      isolated ⟨id', node', true, owner', outer'⟩ := by
  have hkind := Node.kind_eq_of_unplaced_eq hnode
  simp only [isolated, if_true]
  by_cases hk : node.kind = .component
  · rw [if_pos hk, if_pos (hkind ▸ hk), hset hk, hnode]
  · rw [if_neg hk, if_neg (hkind ▸ hk), hnode]

variable (site : Site)

/-- Isolating a place keeps its number. -/
theorem id_isolated : site.isolated.id = site.id := by
  unfold isolated
  split <;> rfl

/-- Isolating a place keeps its node, up to placement. -/
theorem node_isolated :
    site.isolated.node = site.node ∨ site.isolated.node = site.node.unplaced := by
  unfold isolated
  split
  · exact Or.inr rfl
  · exact Or.inl rfl

/-- The node of a place that is not selected stays as it is. -/
theorem node_isolated_of_not_selected (h : site.selected = false) :
    site.isolated.node = site.node := by
  simp [isolated, h]

/-- What is written for the flow does not depend on what lies outside. -/
theorem flowEntries_isolated : site.isolated.flowEntries = site.flowEntries := by
  obtain ⟨id, node, selected, owner, outer⟩ := site
  cases selected with
  | true => rfl
  | false => cases owner <;> rfl

/-- The group around a place stays, up to its own placement. -/
theorem group?_isolated : site.isolated.group? = site.group?.map Node.unplaced := by
  obtain ⟨id, node, selected, owner, outer⟩ := site
  cases selected with
  | true => rfl
  | false =>
    cases owner with
    | none => rfl
    | some parent =>
      show Option.filter _ (some parent.unplaced) = (Option.filter _ (some parent)).map _
      rw [Option.filter_some, Option.filter_some]
      by_cases h : parent.kind = .group
      · simp [h, Node.unplaced]
      · simp [h, Node.unplaced]

/-- The constraints of the root are masked, those of all other nodes stay. -/
theorem anchors_isolated (h : site.selected = false) : site.isolated.anchors = site.anchors := by
  unfold anchors
  rw [group?_isolated, Option.isSome_map, site.node_isolated_of_not_selected h]

/-- Members of a group are anchored to the near edges, so they have no far offsets. -/
theorem far_eq_none_of_group (h : site.group?.isSome) :
    site.absoluteEdges.bottom = none ∧ site.absoluteEdges.right = none := by
  have hanchors : site.anchors = {} := by simp [anchors, h]
  unfold absoluteEdges
  rw [hanchors]
  exact ⟨rfl, rfl⟩

/-- The edges of a place below the root do not depend on what lies outside. -/
theorem absoluteEdges_isolated (h : site.selected = false) :
    site.isolated.absoluteEdges = site.absoluteEdges := by
  have hanchors := site.anchors_isolated h
  obtain ⟨id, node, selected, owner, outer⟩ := site
  subst h
  have hextent : extent (isolated ⟨id, node, false, owner, outer⟩).parent? = extent owner := by
    cases owner <;> rfl
  unfold absoluteEdges
  rw [hanchors, hextent]
  rfl

/-- The size of what a group stands in would only move far offsets, and its members have none. -/
theorem insideGroup_isolated (h : site.selected = false) :
    site.isolated.insideGroup site.isolated.absoluteEdges =
      site.insideGroup site.absoluteEdges := by
  rw [absoluteEdges_isolated site h]
  unfold insideGroup
  rw [group?_isolated]
  cases hg : site.group? with
  | none => rfl
  | some group =>
    obtain ⟨hbottom, hright⟩ := site.far_eq_none_of_group (by rw [hg]; rfl)
    simp [hbottom, hright, Node.unplaced]

/-- The position of a place does not depend on what lies outside. -/
theorem position_isolated : site.isolated.position = site.position := by
  obtain ⟨id, node, selected, owner, outer⟩ := site
  cases selected with
  | true => rfl
  | false => cases owner <;> rfl

/-- The edges that are written do not depend on what lies outside. -/
theorem edges_isolated : site.isolated.edges = site.edges := by
  have hposition := site.position_isolated
  unfold edges
  rw [hposition]
  cases hp : site.position with
  | relative =>
    unfold fixedWidth fixedHeight
    rcases site.node_isolated with hnode | hnode
    · rw [hnode]
    · rw [hnode]
      rfl
  | absolute => exact site.insideGroup_isolated (site.selected_eq_false_of_absolute hp)

/-- The warnings about edges do not depend on what lies outside. -/
theorem edgeWarnings_isolated : site.isolated.edgeWarnings = site.edgeWarnings := by
  have hposition := site.position_isolated
  unfold edgeWarnings
  rw [hposition]
  cases hp : site.position with
  | relative => rfl
  | absolute =>
    have hselected := site.selected_eq_false_of_absolute hp
    rw [site.anchors_isolated hselected]
    unfold anchorWarning
    rw [site.node_isolated_of_not_selected hselected]

/-- The style of a place does not depend on what lies outside. -/
theorem resolve_isolated (source : Source) :
    site.isolated.resolve source = site.resolve source := by
  unfold resolve resolveContainer resolveGroup resolveRectangle resolveText resolveArtwork
  rw [flowEntries_isolated, edges_isolated, edgeWarnings_isolated]
  rcases site.node_isolated with hnode | hnode
  · rw [hnode]
  · rw [hnode]
    rfl

/-- The name of a component depends on its set of variants, which stays. -/
theorem componentName_isolated (h : site.node.kind = .component) :
    site.isolated.componentName = site.componentName := by
  obtain ⟨id, node, selected, owner, outer⟩ := site
  have hkind : node.kind = .component := h
  cases owner with
  | none => cases selected <;> simp [isolated, variantSet?, componentName, Node.unplaced]
  | some parent =>
    unfold componentName
    by_cases hp : parent.kind = .componentSet
    · cases selected <;>
        simp [isolated, variantSet?, hkind, hp, Node.unplaced, Option.filter_some]
    · cases selected <;>
        simp [isolated, variantSet?, hkind, hp, Node.unplaced, Option.filter_some]

/-- With its style given, the element of a place does not depend on the placement of the node. -/
theorem elementOf_unplaced (source : Source) (mode : ImageFills) (artwork : Bool) (style : Style) :
    Site.elementOf { site with node := site.node.unplaced } source mode artwork style =
      site.elementOf source mode artwork style := by
  unfold elementOf
  simp only [Node.richText_unplaced]
  rfl

/-- The element of a place is made from its number, its node and, for a component, its name. -/
theorem elementOf_congr {a b : Site} (hid : a.id = b.id) (hnode : a.node = b.node)
    (hname : a.node.kind = .component → a.componentName = b.componentName) (source : Source)
    (mode : ImageFills) (artwork : Bool) (style : Style) :
    a.elementOf source mode artwork style = b.elementOf source mode artwork style := by
  unfold elementOf exported image mainComponent
  rw [← hid, ← hnode]
  dsimp only
  cases hk : a.node.kind
  case component => rw [hname hk]
  all_goals rfl

/-- With its style given, the element of a place does not depend on what lies outside. -/
theorem elementOf_isolated (source : Source) (mode : ImageFills) (artwork : Bool) (style : Style) :
    site.isolated.elementOf source mode artwork style =
      site.elementOf source mode artwork style := by
  rcases site.node_isolated with hnode | hnode
  · apply elementOf_congr site.id_isolated hnode
    rw [hnode]
    exact site.componentName_isolated
  · rw [← site.elementOf_unplaced source mode artwork style]
    apply elementOf_congr (b := { site with node := site.node.unplaced }) site.id_isolated hnode
    rw [hnode]
    exact site.componentName_isolated

/-- What becomes of a place does not depend on what lies outside of the selection. -/
theorem element_isolated (source : Source) (mode : ImageFills) (artwork : Bool) :
    site.isolated.element source mode artwork = site.element source mode artwork := by
  unfold element
  rw [resolve_isolated]
  exact congrArg _ (funext fun style => site.elementOf_isolated source mode artwork style.simplify)

end Site

/-! ### From scenes to requests -/

/-- Two places say the same once what lies outside of the selection is left out, up to their
numbers, and the sources answer alike for them. -/
structure Site.Alike (source source' : Source) (a b : Site) : Prop where
  isolated : { a.isolated with id := b.id } = b.isolated
  artwork : (source.artwork a.id).toOption = (source'.artwork b.id).toOption

namespace Layer

mutual

/-- The same layers, up to their numbers. -/
def Alike (R : Nat → Nat → Prop) : Layer → Layer → Prop
  | .mk a node children, .mk b node' children' =>
    R a b ∧ node = node' ∧ AlikeAll R children children'

/-- The same layers, one by one. -/
def AlikeAll (R : Nat → Nat → Prop) : List Layer → List Layer → Prop
  | [], [] => True
  | l :: ls, m :: ms => l.Alike R m ∧ AlikeAll R ls ms
  | _, _ => False

end

end Layer

namespace Outline

mutual

/-- The same reached parts, up to what lies outside of the selection. -/
def Alike (source source' : Source) : Outline → Outline → Prop
  | .mk a artwork children, .mk b artwork' children' =>
    a.Alike source source' b ∧ artwork = artwork' ∧ AlikeAll source source' children children'

/-- The same reached parts, one by one. -/
def AlikeAll (source source' : Source) : List Outline → List Outline → Prop
  | [], [] => True
  | o :: os, p :: ps => o.Alike source source' p ∧ AlikeAll source source' os ps
  | _, _ => False

end

variable {source source' : Source}

mutual

/-- The same reached parts make the same requests. -/
theorem build_quiet (himage : source.ImagesAlike source') (mode : ImageFills) :
    (o p : Outline) → o.Alike source source' p →
      (o.build source mode).quiet = (p.build source' mode).quiet
  | .mk a artwork children, .mk b artwork' children', ⟨hsite, hartwork, hchildren⟩ => by
      subst hartwork
      have hid : a.isolated.id = a.id := a.id_isolated
      have helement :
          (a.element source mode artwork).quiet = (b.element source' mode artwork).quiet := by
        rw [← a.element_isolated, ← b.element_isolated, ← hsite.isolated]
        exact a.isolated.element_quiet mode artwork himage (hid ▸ hsite.artwork)
      unfold build
      exact Script.bind_quiet_congr helement fun e =>
        Script.bind_quiet_congr (buildAll_quiet himage mode children children' hchildren)
          fun es => rfl

/-- The same reached parts make the same requests, one by one. -/
theorem buildAll_quiet (himage : source.ImagesAlike source') (mode : ImageFills) :
    (os ps : List Outline) → AlikeAll source source' os ps →
      (buildAll source mode os).quiet = (buildAll source' mode ps).quiet
  | [], [], _ => by unfold buildAll; rfl
  | [], _ :: _, h => False.elim h
  | _ :: _, [], h => False.elim h
  | o :: os, p :: ps, ⟨ho, hos⟩ => by
      unfold buildAll
      exact Script.bind_quiet_congr (build_quiet himage mode o p ho) fun e =>
        Script.bind_quiet_congr (buildAll_quiet himage mode os ps hos) fun es => rfl

end

end Outline

namespace Layer

variable {R : Nat → Nat → Prop} {source source' : Source}

mutual

/-- Whether a layer is drawable does not depend on numbers. -/
theorem isDrawable_congr : (l m : Layer) → l.Alike R m → l.isDrawable = m.isDrawable
  | .mk a node children, .mk b node' children', ⟨_, hnode, hchildren⟩ => by
      unfold isDrawable
      rw [hnode, allDrawable_congr children children' hchildren]

/-- Whether all layers are drawable does not depend on numbers. -/
theorem allDrawable_congr :
    (ls ms : List Layer) → AlikeAll R ls ms → allDrawable ls = allDrawable ms
  | [], [], _ => rfl
  | [], _ :: _, h => False.elim h
  | _ :: _, [], h => False.elim h
  | l :: ls, m :: ms, ⟨hl, hls⟩ => by
      unfold allDrawable
      rw [isDrawable_congr l m hl, allDrawable_congr ls ms hls]

end

/-- Whether a layer is drawn as one piece depends on its kind and the layers below, up to
numbers. -/
theorem isArtwork_congr {a b : Nat} {node node' : Node} {ls ms : List Layer}
    (hkind : node.kind = node'.kind) (h : AlikeAll R ls ms) :
    isArtwork (.mk a node ls) = isArtwork (.mk b node' ms) := by
  simp only [isArtwork]
  rw [hkind, allDrawable_congr ls ms h]

mutual

/-- The same layers below parents that differ at most in how they are placed have the same reached
parts. What the parents stand in does not matter. -/
theorem outline_alike
    (hartwork : ∀ {a b : Nat}, R a b → (source.artwork a).toOption = (source'.artwork b).toOption) :
    (l m : Layer) → l.Alike R m → ∀ {owner owner' : Option Node} (outer outer' : Option Node),
      owner.map Node.unplaced = owner'.map Node.unplaced →
      (l.outline false owner outer).Alike source source' (m.outline false owner' outer')
  | .mk a node children, .mk b node' children', ⟨hab, hnode, hchildren⟩,
    owner, owner', outer, outer', howner => by
      subst hnode
      have hart := isArtwork_congr (a := a) (b := b) (rfl : node.kind = node.kind) hchildren
      unfold outline
      refine ⟨⟨?_, hartwork hab⟩, hart, ?_⟩
      · simp [Site.isolated, howner]
      · rw [hart]
        split
        · exact outlines_alike hartwork children children' hchildren owner owner' rfl
        · trivial

/-- The reached parts of the same layers, one by one. -/
theorem outlines_alike
    (hartwork : ∀ {a b : Nat}, R a b → (source.artwork a).toOption = (source'.artwork b).toOption) :
    (ls ms : List Layer) → AlikeAll R ls ms →
      ∀ {owner owner' : Option Node} (outer outer' : Option Node),
      owner.map Node.unplaced = owner'.map Node.unplaced →
      Outline.AlikeAll source source' (outlines owner outer ls) (outlines owner' outer' ms)
  | [], [], _, _, _, _, _, _ => trivial
  | [], _ :: _, h, _, _, _, _, _ => False.elim h
  | _ :: _, [], h, _, _, _, _, _ => False.elim h
  | .mk a node children :: ls, .mk b node' children' :: ms, ⟨hl, hls⟩, owner, owner', outer, outer',
    howner => by
      have hvisible :
          (Layer.mk a node children).node.visible = (Layer.mk b node' children').node.visible :=
        congrArg Node.visible hl.2.1
      have hrest := outlines_alike hartwork ls ms hls outer outer' howner
      unfold outlines
      rw [hvisible]
      split
      · exact ⟨outline_alike hartwork _ _ hl outer outer' howner, hrest⟩
      · exact hrest

end

/-- The same layers below two selected roots that differ at most in how they are placed have the
same reached parts. -/
theorem outline_alike_of_selected
    (hartwork : ∀ {a b : Nat}, R a b → (source.artwork a).toOption = (source'.artwork b).toOption)
    {a b : Nat} (hab : R a b) {node node' : Node} (hnode : node.unplaced = node'.unplaced)
    {ls ms : List Layer} (hbelow : AlikeAll R ls ms) {owner owner' outer outer' : Option Node}
    (hset : node.kind = .component → Site.variantSet? ⟨a, node, true, owner, outer⟩ =
      Site.variantSet? ⟨b, node', true, owner', outer'⟩) :
    ((Layer.mk a node ls).outline true owner outer).Alike source source'
      ((Layer.mk b node' ms).outline true owner' outer') := by
  have hkind : node.kind = node'.kind := Node.kind_eq_of_unplaced_eq hnode
  have hart := isArtwork_congr (a := a) (b := b) hkind hbelow
  unfold outline
  refine ⟨⟨?_, hartwork hab⟩, hart, ?_⟩
  · exact Site.isolated_eq_of_selected b hnode hset
  · rw [hart, hkind]
    split
    · exact outlines_alike hartwork ls ms hbelow _ _ (congrArg some hnode)
    · trivial

end Layer

/-- Selected roots with the same kind, the same name and the same reached parts make the same
requests. -/
theorem Scene.lower_quiet_of_alike {s t : Scene} {root root' : Nat} {source source' : Source}
    {node node' : Node} {o p : Outline} (hget : s.get? root = some node)
    (hget' : t.get? root' = some node') (hkind : node.kind = node'.kind)
    (hname : node.name = node'.name) (ho : s.outline? root = some o)
    (hp : t.outline? root' = some p) (halike : o.Alike source source' p)
    (himage : source.ImagesAlike source') (mode : ImageFills) :
    (s.lower root source mode).quiet = (t.lower root' source' mode).quiet := by
  unfold Scene.lower
  simp only [hget, hget', ho, hp]
  rw [hkind, hname]
  cases node'.kind.checkRoot node'.name with
  | ok _ => exact Outline.build_quiet himage mode o p halike
  | error e => rfl

namespace Scene.Corresponds

variable {s t : Scene} {root root' : Nat} {source source' : Source} {R : Nat → Nat → Prop}

/-- Lists of related nodes have layers that are alike, one by one. -/
theorem layers_alike {ids ids' : List Nat} (hids : List.Forall₂ R ids ids') {ls ms : List Layer}
    (hls : ids.map s.layer? = ls.map some) (hms : ids'.map t.layer? = ms.map some)
    (hstep : ∀ a ∈ ids, ∀ {b : Nat} {l m : Layer}, R a b → s.layer? a = some l →
      t.layer? b = some m → l.Alike R m) : Layer.AlikeAll R ls ms := by
  induction hids generalizing ls ms with
  | nil =>
    cases List.map_eq_nil_iff.mp hls.symm
    cases List.map_eq_nil_iff.mp hms.symm
    trivial
  | cons hab _ ih =>
    obtain ⟨l, ls, rfl, hl, hls⟩ := List.map_eq_cons_iff.mp hls.symm
    obtain ⟨m, ms, rfl, hm, hms⟩ := List.map_eq_cons_iff.mp hms.symm
    exact ⟨hstep _ List.mem_cons_self hab hl.symm hm.symm,
      ih hls.symm hms.symm fun a ha => hstep a (List.mem_cons_of_mem _ ha)⟩

/-- Below the roots the layers are the same. -/
theorem layer_alike (h : Corresponds s root source t root' source' R) (hs : s.IsForest)
    (ht : t.IsForest) (a : Nat) (hroot : root < a) :
    ∀ {b : Nat} {l m : Layer}, R a b → s.layer? a = some l → t.layer? b = some m → l.Alike R m := by
  induction a using hs.induction with
  | step a ih =>
    rintro b ⟨i, node, ls⟩ ⟨j, node', ms⟩ hab hl hm
    obtain ⟨rfl, hget, hls⟩ := get?_of_layer? hs hl
    obtain ⟨rfl, hget', hms⟩ := get?_of_layer? ht hm
    have hnode : node = node' := by
      have heq := h.nodes hab (Nat.ne_of_gt hroot)
      rw [hget, hget'] at heq
      exact Option.some.inj heq
    -- children have higher numbers still, so the root is none of them
    refine ⟨hab, hnode, layers_alike (h.children hab) hls hms fun child hc => ?_⟩
    exact ih child hc (Nat.lt_trans hroot (hs.child_lt hc).1)

/-- The same selections have the same reached parts. -/
theorem outline_alike (h : Corresponds s root source t root' source' R) (hs : s.IsForest)
    (ht : t.IsForest) : ∃ o p, s.outline? root = some o ∧ t.outline? root' = some p ∧
      o.Alike source source' p := by
  obtain ⟨node, node', hget, hget', hnode, hset⟩ := h.rootNodes
  obtain ⟨ls, hl, hls⟩ := layer?_of_get? hs hget
  obtain ⟨ms, hm, hms⟩ := layer?_of_get? ht hget'
  have hbelow : Layer.AlikeAll R ls ms :=
    layers_alike (h.children h.related) hls hms fun child hc =>
      h.layer_alike hs ht child (hs.child_lt hc).1
  refine ⟨_, _, by rw [outline?, hl, Option.map_some], by rw [outline?, hm, Option.map_some], ?_⟩
  exact Layer.outline_alike_of_selected h.artwork h.related hnode hbelow fun hk => hset hk

/-- The same selections make the same requests. -/
theorem lower_quiet (h : Corresponds s root source t root' source' R) (hs : s.IsForest)
    (ht : t.IsForest) (mode : ImageFills) :
    (s.lower root source mode).quiet = (t.lower root' source' mode).quiet := by
  obtain ⟨node, node', hget, hget', hnode, -⟩ := h.rootNodes
  obtain ⟨o, p, ho, hp, halike⟩ := h.outline_alike hs ht
  exact Scene.lower_quiet_of_alike hget hget' (Node.kind_eq_of_unplaced_eq hnode)
    (Node.name_eq_of_unplaced_eq hnode) ho hp halike h.image mode

end Scene.Corresponds

namespace Compiler

/-- Equal selections are compiled to equal results, by compilers with the same options and the same
catalog, whatever lies around the selections in their scenes. -/
theorem compile_eq_of_corresponds {s t : Scene} {root root' : Nat} {source source' : Source}
    {R : Nat → Nat → Prop} (hs : s.IsForest) (ht : t.IsForest)
    (h : s.Corresponds root source t root' source' R) {c c' : Compiler}
    (hoptions : c.options = c'.options) (hcatalog : c.assets.catalog = c'.assets.catalog) :
    (c.compile s root source).1.result = (c'.compile t root' source').1.result := by
  obtain ⟨hresult, hstore⟩ := Script.run_congr_of_quiet
    (h.lower_quiet hs ht c.options.imageFills) [] c.assets.clear
  show (Except.map _ ((s.lower root source c.options.imageFills).run [] c.assets.clear).1).map _ =
    (Except.map _ ((t.lower root' source' c'.options.imageFills).run [] c'.assets.clear).1).map _
  rw [hresult, hstore, hoptions, Assets.clear_congr hcatalog]

/-- A group with a text, as a hidden member of the flow of a frame. -/
def badgeInFlow : Scene :=
  ((({} : Scene).addRoot
    { kind := .frame, width := 100, height := 50, flow := .horizontal }).addChild 0
    { kind := .group, name := "badge", x := 10, y := 20, visible := false, grow := 1 }).addChild 1
    { kind := .text, name := "label", x := 15, y := 26 }

/-- The same group at the top of a scene, behind two frames. -/
def badgeOnTop : Scene :=
  (((({} : Scene).addRoot { kind := .frame }).addRoot { kind := .frame }).addRoot
    { kind := .group, name := "badge", x := 10, y := 20 }).addChild 2
    { kind := .text, name := "label", x := 15, y := 26 }

/-- A group is compiled to the same module inside the flow of a frame and at the top of a scene. -/
theorem compile_eq_of_corresponds_badge :
    badgeInFlow.IsForest ∧ badgeOnTop.IsForest ∧
      ∃ m, (({} : Compiler).compile badgeInFlow 1 Source.none).1.result = .ok m ∧
        (({} : Compiler).compile badgeOnTop 2 Source.none).1.result = .ok m := by
  have hs : badgeInFlow.IsForest :=
    (((Scene.Built.empty.addRoot _).addChild (by decide) _).addChild (by decide) _).isForest
  have ht : badgeOnTop.IsForest :=
    ((((Scene.Built.empty.addRoot _).addRoot _).addRoot _).addChild (by decide) _).isForest
  have hcorresponds : badgeInFlow.Corresponds 1 Source.none badgeOnTop 2 Source.none
      fun a b => a = 1 ∧ b = 2 ∨ a = 2 ∧ b = 3 :=
    { related := Or.inl ⟨rfl, rfl⟩
      rootNodes := ⟨_, _, rfl, rfl, rfl, nofun⟩
      nodes := by
        rintro a b (⟨rfl, rfl⟩ | ⟨rfl, rfl⟩) hne
        · exact absurd rfl hne
        · rfl
      children := by
        rintro a b (⟨rfl, rfl⟩ | ⟨rfl, rfl⟩)
        · exact .cons (Or.inr ⟨rfl, rfl⟩) .nil
        · exact .nil
      artwork := fun _ => rfl
      image := fun _ => rfl }
  have heq : (({} : Compiler).compile badgeInFlow 1 Source.none).1.result =
      (({} : Compiler).compile badgeOnTop 2 Source.none).1.result :=
    compile_eq_of_corresponds hs ht hcorresponds rfl rfl
  refine ⟨hs, ht, ?_⟩
  have hok : (({} : Compiler).compile badgeInFlow 1 Source.none).1.result.isOk = true := by
    decide +kernel
  obtain ⟨m, hr⟩ := Except.exists_of_isOk hok
  exact ⟨m, hr, heq.symm.trans hr⟩

end Compiler

end Viewsmith
