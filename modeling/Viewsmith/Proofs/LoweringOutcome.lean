import Viewsmith.Proofs.Reach
import Viewsmith.Proofs.ScriptOutcome

/-!
# The outcome of a lowering

Lowering a selected root either fails with the fault of the first node that is visited and has one,
or it gives the image of the reached nodes: an element for each of them, with the elements of its
reached children below it in the same order. Which of the two it is depends on the scene alone.

The outline of a layer is first tied to the scene by number (`Layer.outline_of`). What becomes of
one place is `Site.element_ends`; the whole tree follows by induction on the outline
(`Outline.build_ends`).

## Main definitions

* `Scene.Depicts`: what becomes of a node.
* `Scene.Image`: a tree of elements is the image of the nodes that are reached from a node.

## Main statements

* `Site.element_ends`: what becomes of one place.
* `Outline.build_ends`: what becomes of all that is reached from a node.
* `Scene.lower_ends`: what becomes of a root that can be selected.
-/

namespace Viewsmith

/-- The kind of the nodes that become elements of this content. Artwork may come from several. -/
def Content.kind? : Content → Option Kind
  | .component _ _ => some .component
  | .instanceOf _ _ _ => some .instanceOf
  | .frame _ => some .frame
  | .rectangle _ => some .rectangle
  | .group => some .group
  | .text _ _ => some .text
  | .vector _ | .blank => none

namespace Scene

/-- Whether a node is drawn as one piece of artwork: it is artwork itself, or a group that
collapses. -/
def isArtwork (s : Scene) (id : Nat) : Bool :=
  (s.get? id).any fun node =>
    node.kind.isVectorLike || (node.kind = .group && s.isCollapsible id)

/-- What becomes of a node: artwork becomes the vector that the source exports, without children and
without a rotation, or a blank element without style when the export fails; every other node becomes
an element of its own kind. -/
def Depicts (s : Scene) (source : Source) (id : Nat) (e : Element) : Prop :=
  ∃ node, s.get? id = some node ∧
    if s.isArtwork id then
      match source.artwork id with
      | .ok svg => e.content = .vector svg ∧ e.style.get? "transform" = none ∧ e.children = []
      | .error _ => e.content = .blank ∧ e.style = {} ∧ e.children = []
    else e.content.kind? = some node.kind

mutual

/-- A tree of elements is the image of the nodes that are reached from a node. -/
def Image (s : Scene) (source : Source) (id : Nat) : Element → Prop
  | .mk name content style children =>
    s.Depicts source id (.mk name content style children) ∧
      s.ImageAll source (s.reachedChildren id) children

/-- Several trees are the images of several nodes, one by one. -/
def ImageAll (s : Scene) (source : Source) : List Nat → List Element → Prop
  | [], [] => True
  | id :: ids, e :: es => s.Image source id e ∧ s.ImageAll source ids es
  | _, _ => False

end

/-- The fault of the node of a number. -/
def fault? (s : Scene) (id : Nat) : Option CompileError := (s.get? id).bind Node.fault?

end Scene

namespace Outline

mutual

/-- The outline lists the nodes of a scene that are reached from a node. -/
def Of (s : Scene) (id : Nat) : Outline → Prop
  | .mk site artwork children =>
    site.id = id ∧ s.get? id = some site.node ∧ artwork = s.isArtwork id ∧
      OfAll s (s.reachedChildren id) children

/-- The outlines list the nodes that are reached from several nodes, one by one. -/
def OfAll (s : Scene) : List Nat → List Outline → Prop
  | [], [] => True
  | id :: ids, o :: os => o.Of s id ∧ OfAll s ids os
  | _, _ => False

end

end Outline

/-! ### Outlines and scenes -/

namespace Layer

/-- Whether a node is drawn as one piece can be read off its layer. -/
theorem isArtwork_eq {s : Scene} {id i : Nat} {node : Node} {layers : List Layer}
    (h : s.layer? id = some (.mk i node layers)) :
    Layer.isArtwork (.mk i node layers) = s.isArtwork id := by
  unfold Layer.isArtwork Scene.isArtwork
  rw [(Scene.eq_of_layer? h).2.1, Scene.isCollapsible_of_layer? h]
  rfl

/-- Whether children are reached can be read off the layer. -/
theorem opens_eq {s : Scene} {id i : Nat} {node : Node} {layers : List Layer}
    (h : s.layer? id = some (.mk i node layers)) :
    (opens node.kind && !Layer.isArtwork (.mk i node layers)) = s.opens id := by
  unfold Layer.isArtwork Scene.opens
  rw [(Scene.eq_of_layer? h).2.1, Scene.isCollapsible_of_layer? h]
  cases hk : node.kind <;> simp [opens, Kind.isVectorLike, hk]

mutual

/-- The outline of a layer lists the nodes that are reached from its node. -/
theorem outline_of {s : Scene} (hs : s.IsForest) :
    (layer : Layer) → ∀ (selected : Bool) (owner outer : Option Node) {id : Nat},
      s.layer? id = some layer → (layer.outline selected owner outer).Of s id
  | .mk i node layers, selected, owner, outer, id, h => by
      obtain ⟨hi, hget, hc⟩ := Scene.get?_of_layer? hs h
      unfold outline
      refine ⟨hi, hget, isArtwork_eq h, ?_⟩
      rw [opens_eq h]
      unfold Scene.reachedChildren
      by_cases ho : s.opens id = true
      · rw [if_pos ho, if_pos ho]
        exact outlines_of hs layers (some node) owner hc
      · rw [if_neg ho, if_neg ho]
        trivial

/-- The outlines of several layers list the nodes that are reached from the visible ones. -/
theorem outlines_of {s : Scene} (hs : s.IsForest) :
    (layers : List Layer) → ∀ (owner outer : Option Node) {ids : List Nat},
      ids.map s.layer? = layers.map some →
        Outline.OfAll s (ids.filter s.isVisible) (outlines owner outer layers)
  | [], owner, outer, ids, h => by
      cases List.map_eq_nil_iff.mp h
      trivial
  | layer :: layers, owner, outer, [], h => by cases h
  | layer :: layers, owner, outer, id :: ids, h => by
      obtain ⟨hhead, htail⟩ := List.cons.inj h
      unfold outlines
      rw [List.filter_cons, Scene.isVisible_of_layer? hhead]
      by_cases hvis : layer.node.visible = true
      · rw [if_pos hvis, if_pos hvis]
        exact ⟨outline_of hs layer false owner outer hhead, outlines_of hs layers owner outer htail⟩
      · rw [if_neg hvis, if_neg hvis]
        exact outlines_of hs layers owner outer htail

end

end Layer

/-! ### One place -/

namespace Site

/-- Looking for the image of a place never fails. -/
theorem succeeds_image (site : Site) (mode : ImageFills) : (site.image mode).Succeeds := by
  cases mode with
  | css => exact Script.succeeds_done _
  | imageBackground => exact site.node.succeeds_backgroundImage

/-- The outcome of a node by itself: what becomes of it, still without children, or its fault. -/
def Outcome (s : Scene) (source : Source) (id : Nat) : Except CompileError Element → Prop
  | .ok e => s.fault? id = none ∧ s.Depicts source id e ∧ e.children = []
  | .error e => s.fault? id = some e

variable {s : Scene} {site : Site}

/-- Exporting artwork ends with the artwork, or with a blank element. -/
theorem exported_ends (source : Source) (style : Style) (hget : s.get? site.id = some site.node)
    (hart : s.isArtwork site.id = true) (hfault : s.fault? site.id = none) :
    (site.exported source style).Ends (Outcome s source site.id) := by
  unfold exported
  cases hs : source.artwork site.id with
  | ok svg =>
    refine ⟨hfault, ⟨site.node, hget, ?_⟩, rfl⟩
    rw [if_pos hart, hs]
    refine ⟨rfl, ?_, rfl⟩
    rw [Element.style_mk, Style.get?_erase, if_pos rfl]
  | error e =>
    refine ⟨hfault, ⟨site.node, hget, ?_⟩, rfl⟩
    rw [if_pos hart, hs]
    exact ⟨rfl, rfl, rfl⟩

/-- Step: what becomes of one place. -/
theorem element_ends (source : Source) (mode : ImageFills)
    (hget : s.get? site.id = some site.node) :
    (site.element source mode (s.isArtwork site.id)).Ends (Outcome s source site.id) := by
  have hnode : s.fault? site.id = site.node.fault? := by
    unfold Scene.fault?
    rw [hget]
    rfl
  refine (site.resolve_ends source).bind (fun style hnone => ?_) fun e he => hnode.trans he
  have hfault : s.fault? site.id = none := hnode.trans hnone
  unfold elementOf
  by_cases hart : s.isArtwork site.id = true
  · rw [if_pos hart]
    exact exported_ends source style.simplify hget hart hfault
  · rw [if_neg hart]
    have hown : ∀ e : Element, e.content.kind? = some site.node.kind → e.children = [] →
        Outcome s source site.id (.ok e) := by
      intro e hkind hchildren
      refine ⟨hfault, ⟨site.node, hget, ?_⟩, hchildren⟩
      rw [if_neg hart]
      exact hkind
    have himage := site.succeeds_image mode
    cases hk : site.node.kind
    case group => exact hown _ (by rw [hk]; rfl) rfl
    case frame | rectangle | component | instanceOf =>
      exact himage.bind fun _ => hown _ (by rw [hk]; rfl) rfl
    case text => exact site.node.succeeds_richText.bind fun _ => hown _ (by rw [hk]; rfl) rfl
    case componentSet | other =>
      have hsome : site.node.fault? ≠ none := by simp [Node.fault?, hk]
      exact absurd hnone hsome
    all_goals
      have hvector : s.isArtwork site.id = true := by
        unfold Scene.isArtwork
        simp [hget, hk, Kind.isVectorLike]
      exact absurd hvector hart

end Site

/-! ### The whole tree -/

namespace Scene

/-- Nothing is reached below a piece of artwork. -/
theorem reachedChildren_of_isArtwork {s : Scene} {id : Nat} (h : s.isArtwork id = true) :
    s.reachedChildren id = [] := by
  apply reachedChildren_of_opens_eq_false
  unfold isArtwork at h
  unfold opens
  cases hget : s.get? id with
  | none => rfl
  | some node =>
    rw [hget] at h
    cases hk : node.kind <;> simp_all [Kind.isVectorLike]

/-- No nodes have no images. -/
theorem imageAll_nil {s : Scene} {source : Source} {es : List Element}
    (h : s.ImageAll source [] es) : es = [] := by
  cases es with
  | nil => rfl
  | cons e es => exact absurd h id

/-- The outcome of all that is reached from a node: its image, or the fault that is met first. -/
def Outcome (s : Scene) (source : Source) (id : Nat) : Except CompileError Element → Prop
  | .ok e => (s.visits id).findSome? s.fault? = none ∧ s.Image source id e
  | .error e => (s.visits id).findSome? s.fault? = some e

/-- The outcome of all that is reached from several nodes. -/
def OutcomeAll (s : Scene) (source : Source) (ids : List Nat) :
    Except CompileError (List Element) → Prop
  | .ok es => (ids.flatMap s.visits).findSome? s.fault? = none ∧ s.ImageAll source ids es
  | .error e => (ids.flatMap s.visits).findSome? s.fault? = some e

/-- The elements of the reached children complete what became of a node by itself. -/
theorem image_withChildren {s : Scene} {source : Source} {id : Nat} {e : Element}
    {es : List Element} (he : s.Depicts source id e)
    (hes : s.ImageAll source (s.reachedChildren id) es) :
    s.Image source id (e.withChildren es) := by
  cases e with
  | mk name content style below =>
    refine ⟨?_, hes⟩
    obtain ⟨node, hget, hshow⟩ := he
    refine ⟨node, hget, ?_⟩
    by_cases hart : s.isArtwork id = true
    · rw [reachedChildren_of_isArtwork hart] at hes
      rw [if_pos hart] at hshow ⊢
      rw [imageAll_nil hes]
      cases hs : source.artwork id with
      | ok svg =>
        rw [hs] at hshow
        exact ⟨hshow.1, hshow.2.1, rfl⟩
      | error e =>
        rw [hs] at hshow
        exact ⟨hshow.1, hshow.2.1, rfl⟩
    · rw [if_neg hart] at hshow ⊢
      exact hshow

end Scene

namespace Outline

variable {s : Scene} (source : Source) (mode : ImageFills)

mutual

/-- Run: what becomes of all that is reached from a node. -/
theorem build_ends (hs : s.IsForest) :
    (o : Outline) → ∀ {id : Nat}, o.Of s id →
      (o.build source mode).Ends (s.Outcome source id)
  | .mk site artwork children, id, ⟨hid, hget, hart, hall⟩ => by
      subst hid hart
      unfold build
      refine (Site.element_ends source mode hget).bind ?_ ?_
      · rintro e ⟨hnone, hdepicts, -⟩
        refine (buildAll_ends hs children hall).bind ?_ ?_
        · rintro es ⟨hrest, himages⟩
          refine ⟨?_, Scene.image_withChildren hdepicts himages⟩
          rw [Scene.visits_eq hs, List.findSome?_cons, hnone, hrest]
        · intro e he
          show (s.visits site.id).findSome? s.fault? = some e
          rw [Scene.visits_eq hs, List.findSome?_cons, hnone]
          exact he
      · intro e he
        show (s.visits site.id).findSome? s.fault? = some e
        rw [Scene.visits_eq hs, List.findSome?_cons, he]

/-- Run: what becomes of all that is reached from several nodes, in order. -/
theorem buildAll_ends (hs : s.IsForest) :
    (os : List Outline) → ∀ {ids : List Nat}, OfAll s ids os →
      (buildAll source mode os).Ends (s.OutcomeAll source ids)
  | [], [], _ => ⟨rfl, trivial⟩
  | [], _ :: _, h => absurd h id
  | _ :: _, [], h => absurd h id
  | o :: os, id :: ids, ⟨ho, hos⟩ => by
      unfold buildAll
      refine (build_ends hs o ho).bind ?_ ?_
      · rintro e ⟨hnone, himage⟩
        refine (buildAll_ends hs os hos).bind ?_ ?_
        · rintro es ⟨hrest, himages⟩
          refine ⟨?_, himage, himages⟩
          rw [List.flatMap_cons, List.findSome?_append, hnone, hrest]
          rfl
        · intro e he
          show ((id :: ids).flatMap s.visits).findSome? s.fault? = some e
          rw [List.flatMap_cons, List.findSome?_append, hnone]
          exact he
      · intro e he
        show ((id :: ids).flatMap s.visits).findSome? s.fault? = some e
        rw [List.flatMap_cons, List.findSome?_append, he]
        rfl

end

end Outline

namespace Scene

variable {s : Scene} {root : Nat} {node : Node} (source : Source) (mode : ImageFills)

/-- The kinds that can be selected. -/
def selectable : List Kind := [.frame, .rectangle, .group, .component, .instanceOf]

/-- The lowering of a number without a node fails. -/
theorem lower_of_unknown (h : s.get? root = none) :
    s.lower root source mode = .fail (.unknownNode root) := by
  unfold lower
  rw [h]

/-- A root that is known is checked for its kind, and then lowered. -/
theorem lower_of_known (hs : s.IsForest) (h : s.get? root = some node) :
    ∃ o : Outline, o.Of s root ∧ s.lower root source mode =
      match node.kind.checkRoot node.name with
      | .ok () => o.build source mode
      | .error e => .fail e := by
  obtain ⟨layers, hlayer, -⟩ := layer?_of_get? hs h
  refine ⟨_, Layer.outline_of hs _ true (s.parent? root) ((s.parentId? root).bind s.parent?) hlayer,
    ?_⟩
  unfold lower outline?
  rw [h, hlayer]
  rfl

/-- A root that can be selected ends with the outcome of all that is reached from it. -/
theorem lower_ends (hs : s.IsForest) (h : s.get? root = some node) (hk : node.kind ∈ selectable) :
    (s.lower root source mode).Ends (s.Outcome source root) := by
  obtain ⟨o, ho, hl⟩ := lower_of_known source mode hs h
  have hok : node.kind.checkRoot node.name = .ok () := by
    simp only [selectable, List.mem_cons, List.not_mem_nil, or_false] at hk
    rcases hk with hk | hk | hk | hk | hk <;> rw [hk] <;> rfl
  rw [hl, hok]
  exact Outline.build_ends source mode hs o ho

end Scene

end Viewsmith
