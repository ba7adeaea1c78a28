import Mathlib.Data.List.Forall2
import Viewsmith.Lowering.Resolve
import Viewsmith.Proofs.Forest

/-!
# Hidden paints and effects

A paint that is not shown has no influence on what a node becomes, wherever it lies in its stack:
not on the layers of the fill, nor on the borders, nor on the color of a text, and no image is
fetched for it. The same holds for a hidden shadow and for an effect that is no shadow.

Such paints and effects may be discarded in any number. The proof removes all of them from both
nodes: what is left is the same (`Node.Discards.cleared_eq`), and every function that reads paints
or effects gives the same for a node as for what is left of it. The parent and what it stands in are
cleared along with the node, since a scene may say that a node is its own parent.

## Main definitions

* `Discards`: a list without some of its elements that are not shown.
* `Node.Discards`: a node without some of its hidden paints and effects.
* `Node.cleared`: a node without all of them.

## Main statements

* `Node.richText_cleared`, `Node.backgroundImage_cleared`, `Site.resolve_cleared`: hidden paints and
  effects are not read.
* `Scene.run_eq_of_discards`: styles, texts and images of a scene stay when some of them are
  discarded.
-/

namespace Viewsmith

/-- Whether an effect is a shadow that is shown. -/
def Effect.isShown : Effect → Bool
  | .dropShadow shadow => shadow.visible
  | .innerShadow shadow => shadow.visible
  | .other => false

/-! ### Discarding what is not shown -/

/-- The second list is the first one without some of the elements that are not shown. -/
inductive Discards {α : Type} (shown : α → Bool) : List α → List α → Prop
  | nil : Discards shown [] []
  | keep (a : α) {l l' : List α} (h : Discards shown l l') : Discards shown (a :: l) (a :: l')
  | discard {a : α} {l l' : List α} (ha : shown a = false) (h : Discards shown l l') :
      Discards shown (a :: l) l'

/-- Discarding what is not shown leaves what is shown, in order. -/
theorem Discards.filter_eq {α : Type} {shown : α → Bool} {l l' : List α} (h : Discards shown l l') :
    l'.filter shown = l.filter shown := by
  induction h with
  | nil => rfl
  | keep a _ ih => rw [List.filter_cons, List.filter_cons, ih]
  | discard ha _ ih => rw [List.filter_cons_of_neg (by rw [ha]; exact Bool.false_ne_true), ih]

/-- The second fills are the first ones without some of the hidden layers. -/
inductive Fills.Discards : Fills → Fills → Prop
  | paints {layers layers' : List Paint} (h : Viewsmith.Discards Paint.isVisible layers layers') :
      Discards (.paints layers) (.paints layers')
  | mixed : Discards .mixed .mixed

/-- The second run is the first one without some of the hidden layers of its fill. -/
structure TextRun.Discards (run run' : TextRun) : Prop where
  fills : Viewsmith.Discards Paint.isVisible run.fills run'.fills
  rest : run' = { run with fills := run'.fills }

/-- The second text is the first one without some of the hidden layers that fill its runs. -/
structure TextContent.Discards (text text' : TextContent) : Prop where
  runs : List.Forall₂ TextRun.Discards text.runs text'.runs
  rest : text' = { text with runs := text'.runs }

/-- The second node is the first one without some of its hidden paints, in the fill, the strokes and
the runs of its text, and without some of its effects that are hidden or no shadows. -/
structure Node.Discards (node node' : Node) : Prop where
  fills : node.fills.Discards node'.fills
  strokes : Viewsmith.Discards Paint.isVisible node.strokes node'.strokes
  effects : Viewsmith.Discards Effect.isShown node.effects node'.effects
  text : Option.Rel TextContent.Discards node.text node'.text
  rest : node' = { node with
    fills := node'.fills, strokes := node'.strokes, effects := node'.effects, text := node'.text }

/-! ### What is left without anything hidden -/

/-- The layers of a fill that are shown. -/
def Fills.cleared : Fills → Fills
  | .paints layers => .paints (layers.filter Paint.isVisible)
  | .mixed => .mixed

/-- A run with the layers that are shown. -/
def TextRun.cleared (run : TextRun) : TextRun :=
  { run with fills := run.fills.filter Paint.isVisible }

/-- A text whose runs have the layers that are shown. -/
def TextContent.cleared (text : TextContent) : TextContent :=
  { text with runs := text.runs.map TextRun.cleared }

/-- A node with the paints and the shadows that are shown. -/
def Node.cleared (node : Node) : Node :=
  { node with
    fills := node.fills.cleared
    strokes := node.strokes.filter Paint.isVisible
    effects := node.effects.filter Effect.isShown
    text := node.text.map TextContent.cleared }

/-- Fills of which hidden layers are discarded have the same cleared form. -/
theorem Fills.Discards.cleared_eq {fills fills' : Fills} (h : fills.Discards fills') :
    fills'.cleared = fills.cleared := by
  cases h with
  | paints h => exact congrArg Fills.paints h.filter_eq
  | mixed => rfl

/-- A run of which hidden layers are discarded has the same cleared form. -/
theorem TextRun.Discards.cleared_eq {run run' : TextRun} (h : run.Discards run') :
    run'.cleared = run.cleared := by
  rw [h.rest]
  unfold cleared
  rw [h.fills.filter_eq]

/-- Runs of which hidden layers are discarded have the same cleared forms, one by one. -/
theorem TextRun.map_cleared_eq {runs runs' : List TextRun} (h : List.Forall₂ Discards runs runs') :
    runs'.map cleared = runs.map cleared := by
  induction h with
  | nil => rfl
  | cons hrun _ ih => rw [List.map_cons, List.map_cons, hrun.cleared_eq, ih]

/-- A text of whose runs hidden layers are discarded has the same cleared form. -/
theorem TextContent.Discards.cleared_eq {text text' : TextContent} (h : text.Discards text') :
    text'.cleared = text.cleared := by
  rw [h.rest]
  unfold cleared
  rw [TextRun.map_cleared_eq h.runs]

/-- A text that may be absent has the same cleared form after hidden layers are discarded. -/
theorem TextContent.map_cleared_eq {text text' : Option TextContent}
    (h : Option.Rel Discards text text') : text'.map cleared = text.map cleared := by
  cases h with
  | none => rfl
  | some h => exact congrArg some h.cleared_eq

/-- However much of what is hidden was discarded, the same is left. -/
theorem Node.Discards.cleared_eq {node node' : Node} (h : node.Discards node') :
    node'.cleared = node.cleared := by
  rw [h.rest]
  unfold cleared
  rw [h.fills.cleared_eq, h.strokes.filter_eq, h.effects.filter_eq,
    TextContent.map_cleared_eq h.text]

/-! ### Paints and effects that are read -/

/-- Hidden layers are not among the visible ones, whether they are cleared or not. -/
theorem visibleFromTop_filter (layers : List Paint) :
    visibleFromTop (layers.filter Paint.isVisible) = visibleFromTop layers := by
  unfold visibleFromTop
  rw [List.filter_filter]
  simp only [Bool.and_self]

/-- The solid color of a fill is that of its visible layers. -/
theorem solidColor?_filter (layers : List Paint) :
    solidColor? (layers.filter Paint.isVisible) = solidColor? layers := by
  unfold solidColor?
  rw [visibleFromTop_filter]

/-- An effect that is not shown casts no shadow. -/
theorem Effect.visibleShadow?_eq_none_of_not_isShown {effect : Effect}
    (h : effect.isShown = false) : effect.visibleShadow? = none := by
  cases effect with
  | dropShadow shadow => exact if_neg (Bool.eq_false_iff.mp h)
  | innerShadow shadow => exact if_neg (Bool.eq_false_iff.mp h)
  | other => rfl

namespace Node

variable (node : Node)

/-- Clearing a node does not change whether it has a stroke. -/
theorem isStroked_cleared : node.cleared.isStroked = node.isStroked := by
  show (node.strokes.filter Paint.isVisible).any Paint.isVisible = node.strokes.any Paint.isVisible
  rw [List.any_filter]
  simp only [Bool.and_self]

/-- A cleared node has the same border. -/
theorem borderEntries_cleared : node.cleared.borderEntries = node.borderEntries := by
  unfold borderEntries
  rw [isStroked_cleared]
  show _ ++ ((solidColor? (node.strokes.filter Paint.isVisible)).map borderColorEntries).getD [] = _
  rw [solidColor?_filter]
  rfl

/-- A cleared node casts the same shadows. -/
theorem shadows_cleared : node.cleared.shadows = node.shadows := by
  show (node.effects.filter Effect.isShown).filterMap Effect.visibleShadow? =
    node.effects.filterMap _
  rw [List.filterMap_filter]
  congr 1
  funext effect
  cases h : effect.isShown with
  | true => rfl
  | false => exact (Effect.visibleShadow?_eq_none_of_not_isShown h).symm

/-- As a box, a cleared node is written with the same shadows. -/
theorem boxShadowEntries_cleared : node.cleared.boxShadowEntries = node.boxShadowEntries := by
  unfold boxShadowEntries boxShadow?
  rw [shadows_cleared]

/-- As a text, a cleared node is written with the same shadows. -/
theorem textShadowEntries_cleared : node.cleared.textShadowEntries = node.textShadowEntries := by
  unfold textShadowEntries textShadow?
  rw [shadows_cleared]

/-- The fills of a cleared node are cleared. -/
theorem fills_cleared : node.cleared.fills = node.fills.cleared := rfl

/-- The text of a layer does not depend on what else the node has. -/
theorem paintLayer_cleared (source : Source) (paint : Paint) :
    node.cleared.paintLayer source paint = node.paintLayer source paint := by
  cases paint <;> rfl

/-- A cleared node has the same background. -/
theorem background_cleared (source : Source) :
    node.cleared.background source = node.background source := by
  unfold background
  rw [fills_cleared]
  cases node.fills with
  | mixed => rfl
  | paints layers =>
    simp only [Fills.cleared, visibleFromTop_filter, funext (node.paintLayer_cleared source)]

/-- A cleared node has the same topmost image. -/
theorem backgroundImage_cleared : node.cleared.backgroundImage = node.backgroundImage := by
  unfold backgroundImage
  rw [fills_cleared]
  cases node.fills with
  | mixed => rfl
  | paints layers => simp only [Fills.cleared, visibleFromTop_filter]

/-! ### Texts -/

/-- A cleared run has the same color. -/
theorem runColor?_cleared (run : TextRun) :
    node.cleared.runColor? run.cleared = node.runColor? run := by
  unfold runColor?
  rw [fills_cleared]
  cases node.fills with
  | mixed => exact solidColor?_filter run.fills
  | paints layers => exact solidColor?_filter layers

/-- A cleared run has the same typography. -/
theorem typography_cleared (text : TextContent) (run : TextRun) :
    node.cleared.typography text.cleared run.cleared = node.typography text run := by
  unfold typography
  rw [runColor?_cleared]
  rfl

/-- The text of a cleared node is cleared. -/
theorem text?_cleared : node.cleared.text? = node.text?.map TextContent.cleared := by
  show (node.text.map TextContent.cleared).filter _ = (node.text.filter _).map _
  cases node.text with
  | none => rfl
  | some text =>
    rw [Option.map_some, Option.filter_some, Option.filter_some]
    cases h : text.characters.isEmpty <;> simp [TextContent.cleared, h]

end Node

/-- Which run is the base depends on where the runs start. -/
theorem TextContent.base?_cleared (text : TextContent) : text.cleared.base? = text.base? := by
  unfold base? leading? earliest? cleared
  simp only [List.findIdx?_map, List.map_map]
  rfl

/-- The runs are ordered by where they start. -/
theorem Node.orderedRuns_cleared (text : TextContent) :
    orderedRuns text.cleared = (orderedRuns text).map (Prod.map TextRun.cleared id) := by
  unfold orderedRuns
  have hsort := List.map_mergeSort (f := Prod.map TextRun.cleared id) (l := text.runs.zipIdx)
    (r := fun a b => decide (a.1.start ≤ b.1.start))
    (s := fun a b => decide (a.1.start ≤ b.1.start))
    fun _ _ _ _ => rfl
  rw [hsort, List.map_zipIdx]
  rfl

namespace Node

variable (node : Node)

/-- The base run of a cleared node is the cleared base run. -/
theorem baseRun?_cleared :
    node.cleared.baseRun? = node.baseRun?.map (Prod.map TextContent.cleared TextRun.cleared) := by
  unfold baseRun?
  rw [text?_cleared]
  cases node.text? with
  | none => rfl
  | some text =>
    rw [Option.map_some, Option.bind_some, Option.bind_some, text.base?_cleared]
    cases text.base? with
    | none => rfl
    | some i =>
      show ((text.runs.map TextRun.cleared)[i]?).map _ = (text.runs[i]?.map _).map _
      rw [List.getElem?_map, Option.map_map, Option.map_map]
      rfl

/-- The base run of a cleared node has the same style. -/
theorem baseStyle_cleared : node.cleared.baseStyle = node.baseStyle := by
  unfold baseStyle
  rw [baseRun?_cleared]
  cases node.baseRun? with
  | none => rfl
  | some base =>
    exact congrArg (fun style => Script.font base.2.font (.done style))
      (node.typography_cleared base.1 base.2)

/-- The runs of a cleared node have the same markup. -/
theorem runsMarkup_cleared (text : TextContent) (index : Nat) (base : Style)
    (runs : List (TextRun × Nat)) :
    node.cleared.runsMarkup text.cleared index base (runs.map (Prod.map TextRun.cleared id)) =
      node.runsMarkup text index base runs := by
  induction runs with
  | nil => rfl
  | cons run runs ih =>
    rw [List.map_cons]
    unfold runsMarkup
    simp only [Prod.map_fst, Prod.map_snd, ih, typography_cleared]
    rfl

/-- The text of a cleared node has the same markup. -/
theorem richText_cleared : node.cleared.richText = node.richText := by
  unfold richText
  rw [text?_cleared]
  cases node.text? with
  | none => rfl
  | some text =>
    have hrun (i : Nat) : text.cleared.runs[i]? = text.runs[i]?.map TextRun.cleared :=
      List.getElem?_map ..
    simp only [Option.map_some, text.base?_cleared]
    cases text.base? with
    | none => rfl
    | some i =>
      simp only [hrun]
      cases text.runs[i]? with
      | none => rfl
      | some run =>
        simp only [Option.map_some, orderedRuns_cleared, typography_cleared, runsMarkup_cleared]
        rfl

end Node

/-! ### Places -/

namespace Site

/-- A place whose nodes have the paints and the shadows that are shown. -/
def cleared (site : Site) : Site :=
  { site with
    node := site.node.cleared
    owner := site.owner.map Node.cleared
    outer := site.outer.map Node.cleared }

variable (site : Site)

/-- The node of a cleared place is cleared. -/
theorem node_cleared : site.cleared.node = site.node.cleared := rfl

/-- The parent of a cleared place is cleared. -/
theorem parent?_cleared : site.cleared.parent? = site.parent?.map Node.cleared := by
  obtain ⟨id, node, selected, owner, outer⟩ := site
  cases selected <;> rfl

/-- Clearing a place does not change whether it stands in the flow of its parent. -/
theorem inFlow_cleared : site.cleared.inFlow = site.inFlow := by
  unfold inFlow
  rw [parent?_cleared]
  cases site.parent? <;> rfl

/-- A cleared place has the same position. -/
theorem position_cleared : site.cleared.position = site.position := by
  unfold position
  rw [inFlow_cleared]
  rfl

/-- A cleared place is written in the same way for the flow. -/
theorem flowEntries_cleared : site.cleared.flowEntries = site.flowEntries := by
  unfold flowEntries alignSelf flex
  rw [position_cleared, inFlow_cleared]
  rfl

/-- A cleared node has the same extent. -/
theorem extent_cleared (node : Option Node) : extent (node.map Node.cleared) = extent node := by
  cases node <;> rfl

/-- The group around a cleared place is cleared. -/
theorem group?_cleared : site.cleared.group? = site.group?.map Node.cleared := by
  unfold group?
  rw [parent?_cleared]
  cases site.parent? with
  | none => rfl
  | some parent =>
    rw [Option.map_some, Option.filter_some, Option.filter_some]
    by_cases h : parent.kind = .group
    · simp [h, Node.cleared]
    · simp [h, Node.cleared]

/-- A cleared place has the same anchors. -/
theorem anchors_cleared : site.cleared.anchors = site.anchors := by
  unfold anchors
  rw [group?_cleared, Option.isSome_map]
  rfl

/-- A cleared place has the same edges in its parent. -/
theorem absoluteEdges_cleared : site.cleared.absoluteEdges = site.absoluteEdges := by
  unfold absoluteEdges
  rw [parent?_cleared, extent_cleared, anchors_cleared]
  rfl

/-- Edges are shifted into the group of a cleared place in the same way. -/
theorem insideGroup_cleared (edges : Edges) :
    site.cleared.insideGroup edges = site.insideGroup edges := by
  have houter : extent site.cleared.outer = extent site.outer := extent_cleared site.outer
  unfold insideGroup
  rw [group?_cleared, houter]
  cases site.group? <;> rfl

/-- A cleared place is written with the same edges. -/
theorem edges_cleared : site.cleared.edges = site.edges := by
  unfold edges
  rw [position_cleared, absoluteEdges_cleared, insideGroup_cleared]
  rfl

/-- The edges of a cleared place give the same warnings. -/
theorem edgeWarnings_cleared : site.cleared.edgeWarnings = site.edgeWarnings := by
  unfold edgeWarnings
  rw [position_cleared, anchors_cleared]
  rfl

/-- The style of a node does not depend on what is hidden. -/
theorem resolve_cleared (source : Source) : site.cleared.resolve source = site.resolve source := by
  unfold resolve resolveContainer resolveGroup resolveRectangle resolveText resolveArtwork
  rw [flowEntries_cleared, edges_cleared, edgeWarnings_cleared]
  simp only [node_cleared, Node.background_cleared, Node.borderEntries_cleared,
    Node.boxShadowEntries_cleared, Node.baseStyle_cleared, Node.textShadowEntries_cleared]
  rfl

end Site

/-! ### Scenes -/

namespace Scene

variable {s : Scene} {id : Nat} {node node' : Node}

/-- A node of which hidden layers are discarded, and every other node, has the same cleared form as
before. -/
theorem get?_cleared_of_discards (hget : s.get? id = some node) (h : node.Discards node')
    (other : Nat) :
    ((s.modify id fun _ => node').get? other).map Node.cleared =
      (s.get? other).map Node.cleared := by
  rw [get?_modify]
  by_cases hid : id = other
  · subst hid
    rw [hget, Option.map_some, if_pos rfl, Option.map_some, Option.map_some, h.cleared_eq]
  · simp only [if_neg hid, Option.map_id_fun']
    rfl

/-- Every parent has the same cleared form as before hidden layers were discarded. -/
theorem parent?_cleared_of_discards (hget : s.get? id = some node) (h : node.Discards node')
    (other : Nat) :
    ((s.modify id fun _ => node').parent? other).map Node.cleared =
      (s.parent? other).map Node.cleared := by
  unfold parent?
  rw [parentId?_modify]
  cases s.parentId? other with
  | none => rfl
  | some parent => exact get?_cleared_of_discards hget h parent

/-- The place of a node, up to clearing, is made of nodes up to clearing. -/
theorem site?_cleared (s : Scene) (root id : Nat) :
    (s.site? root id).map Site.cleared =
      ((s.get? id).map Node.cleared).map fun node =>
        { id, node
          selected := id == root
          owner := (s.parent? id).map Node.cleared
          outer := ((s.parentId? id).bind s.parent?).map Node.cleared } := by
  unfold site?
  rw [Option.map_map, Option.map_map]
  rfl

/-- Every place has the same cleared form as before hidden layers were discarded. -/
theorem site?_cleared_of_discards (hget : s.get? id = some node) (h : node.Discards node')
    (root other : Nat) :
    ((s.modify id fun _ => node').site? root other).map Site.cleared =
      (s.site? root other).map Site.cleared := by
  have houter : ((s.parentId? other).bind (s.modify id fun _ => node').parent?).map Node.cleared =
      ((s.parentId? other).bind s.parent?).map Node.cleared := by
    cases s.parentId? other with
    | none => rfl
    | some parent => exact parent?_cleared_of_discards hget h parent
  rw [site?_cleared, site?_cleared, get?_cleared_of_discards hget h,
    parent?_cleared_of_discards hget h, parentId?_modify, houter]

/-- Scenes whose places have the same cleared form give a node the same style. -/
theorem resolve_eq_of_cleared {s t : Scene} {root id : Nat}
    (h : (t.site? root id).map Site.cleared = (s.site? root id).map Site.cleared)
    (source : Source) : t.resolve root id source = s.resolve root id source := by
  have hresolve (u : Scene) : u.resolve root id source =
      ((u.site? root id).map Site.cleared).elim (.fail (.unknownNode id))
        (Site.resolve · source) := by
    unfold resolve
    cases u.site? root id with
    | none => rfl
    | some site => exact (site.resolve_cleared source).symm
  rw [hresolve, hresolve, h]

/-- Work that does not see hidden layers does the same on nodes with the same cleared form. -/
theorem visit_eq_of_cleared {s t : Scene} {id : Nat} {α : Type} {work : Node → Script α}
    (hwork : ∀ node : Node, work node.cleared = work node)
    (h : (t.get? id).map Node.cleared = (s.get? id).map Node.cleared) :
    t.visit id work = s.visit id work := by
  have hvisit (u : Scene) :
      u.visit id work = ((u.get? id).map Node.cleared).elim (.fail (.unknownNode id)) work := by
    unfold visit
    cases u.get? id with
    | none => rfl
    | some node => exact (hwork node).symm
  rw [hvisit, hvisit, h]

/-- Discard some hidden paints and effects of a node. Then for every node of the scene, this one or
another, the style, the markup of the text and the file of the image are what they were, or fail
with the same error, and the same warnings are given and the same assets are kept. -/
theorem run_eq_of_discards (hget : s.get? id = some node) (h : node.Discards node')
    (root other : Nat) (source : Source) (log : List Warning) (assets : Assets) :
    let t := s.modify id fun _ => node'
    (t.resolve root other source).run log assets = (s.resolve root other source).run log assets ∧
      (t.richText other).run log assets = (s.richText other).run log assets ∧
      (t.backgroundImage other).run log assets = (s.backgroundImage other).run log assets := by
  have hsite := site?_cleared_of_discards hget h root other
  have hnode := get?_cleared_of_discards hget h other
  refine ⟨?_, ?_, ?_⟩
  · rw [resolve_eq_of_cleared hsite]
  · exact congrArg (Script.run · log assets) (visit_eq_of_cleared Node.richText_cleared hnode)
  · exact congrArg (Script.run · log assets)
      (visit_eq_of_cleared Node.backgroundImage_cleared hnode)

/-- A text with a hidden image on top of its fill, a hidden stroke, a hidden shadow, a blur, and a
hidden layer in its run. -/
def overpainted : Node where
  kind := .text
  fills := .paints [.solid ⟨0, 0, 0⟩ 1 true, .image (some "a") false]
  strokes := [.solid ⟨1, 0, 0⟩ 1 false]
  effects := [.dropShadow { color := ⟨0, 0, 0, 1⟩, visible := false }, .other]
  text := some
    { characters := "ab"
      runs := [{ start := 0, stop := 2, font := ⟨"Inter", "Bold"⟩, size := 16
                 fills := [.solid ⟨0, 1, 0⟩ 1 false] }] }

/-- The text without what it hides, but for the shadow. -/
def repainted : Node where
  kind := .text
  fills := .paints [.solid ⟨0, 0, 0⟩ 1 true]
  effects := [.dropShadow { color := ⟨0, 0, 0, 1⟩, visible := false }]
  text := some
    { characters := "ab"
      runs := [{ start := 0, stop := 2, font := ⟨"Inter", "Bold"⟩, size := 16 }] }

/-- The two texts have the same style, markup and image, with the same warnings and assets. -/
theorem run_eq_of_discards_repainted :
    let s := ({} : Scene).addRoot overpainted
    let t := s.modify 0 fun _ => repainted
    (s.get? 0 = some overpainted ∧ overpainted.Discards repainted) ∧
      (t.resolve 0 0 Source.none).run [] {} = (s.resolve 0 0 Source.none).run [] {} ∧
      (t.richText 0).run [] {} = (s.richText 0).run [] {} ∧
      (t.backgroundImage 0).run [] {} = (s.backgroundImage 0).run [] {} := by
  have hget : (({} : Scene).addRoot overpainted).get? 0 = some overpainted := rfl
  have hdiscards : overpainted.Discards repainted :=
    { fills := .paints (.keep _ (.discard rfl .nil))
      strokes := .discard rfl .nil
      effects := .keep _ (.discard rfl .nil)
      text := .some ⟨.cons ⟨.discard rfl .nil, rfl⟩ .nil, rfl⟩
      rest := rfl }
  exact ⟨⟨hget, hdiscards⟩, run_eq_of_discards hget hdiscards 0 0 Source.none [] {}⟩

end Scene

end Viewsmith
