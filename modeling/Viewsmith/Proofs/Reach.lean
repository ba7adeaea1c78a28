import Mathlib.Data.List.Nodup
import Mathlib.Logic.Relation
import Viewsmith.Proofs.Forest

/-!
# The nodes that are reached

A lowering reaches the selected root, and from a frame, a component, an instance or a group that is
not drawn as one piece, the visible children. This module says so on the scene itself, by number,
and lists the reached nodes in the order in which they are visited.

## Main definitions

* `Scene.isCollapsible`: whether a group is drawn as one piece.
* `Scene.Reached`: the nodes that are reached from a root.
* `Scene.preorder`: a node and the nodes below it, each before those below it, by a function that
  lists the children.
* `Scene.visits`: the reached nodes in this order.
* `Scene.FoundBelow`: the nodes found below a group by descending through groups only.

## Main statements

* `Scene.mem_preorder_iff`, `Scene.nodup_preorder`: in a forest all that the children lead to is
  listed, once each.
* `Scene.mem_visits_iff`, `Scene.nodup_visits`: the reached nodes are visited once each.
* `Scene.isCollapsible_iff`: a group is drawn as one piece if and only if everything found below it
  can be drawn.
-/

namespace Viewsmith

namespace Scene

/-- Whether a node is shown. -/
def isVisible (s : Scene) (id : Nat) : Bool := (s.get? id).any (·.visible)

/-- Whether everything below a node can be part of one piece of artwork. -/
def isCollapsible (s : Scene) (id : Nat) : Bool :=
  (s.layer? id).any fun layer => Layer.allDrawable layer.children

/-- Whether the visible children of a node are reached when the node itself is: those of frames,
components, instances, and groups that are not drawn as one piece. -/
def opens (s : Scene) (id : Nat) : Bool :=
  (s.get? id).any fun node =>
    match node.kind with
    | .frame | .component | .instanceOf => true
    | .group => !s.isCollapsible id
    | _ => false

/-- The children that are reached when their parent is, in order. -/
def reachedChildren (s : Scene) (id : Nat) : List Nat :=
  if s.opens id then (s.childIds id).filter s.isVisible else []

/-- The nodes that are reached from a root. -/
inductive Reached (s : Scene) (root : Nat) : Nat → Prop
  | root : Reached s root root
  | child {parent child : Nat} (h : Reached s root parent) (ho : s.opens parent = true)
      (hc : child ∈ s.childIds parent) (hv : s.isVisible child = true) : Reached s root child

/-- A node and the nodes below it, each before those below it, where a function lists the children.
A child has a higher number than its parent, unless a node is listed below itself. There a recursion
over the children would not end, and such a child is passed over. -/
def preorder (s : Scene) (children : Nat → List Nat) (id : Nat) : List Nat :=
  id :: (children id).flatMap fun child =>
    if _h : id < child ∧ child < s.size then s.preorder children child else []
termination_by s.size - id

/-- The reached nodes, each before those below it. A node that is listed below itself is passed over
there. -/
def visits (s : Scene) (id : Nat) : List Nat := s.preorder s.reachedChildren id

/-- Whether a node is a group. -/
def isGroup (s : Scene) (id : Nat) : Bool := (s.get? id).any (·.kind = .group)

/-- The nodes found below a group by descending through groups only, hidden ones included. -/
inductive FoundBelow (s : Scene) : Nat → Nat → Prop
  | child {group id : Nat} (h : id ∈ s.childIds group) : FoundBelow s group id
  | descend {group inner id : Nat} (hc : inner ∈ s.childIds group) (hg : s.isGroup inner = true)
      (h : FoundBelow s inner id) : FoundBelow s group id

/-- Whether a node can stand in one piece of artwork: it is artwork itself, a group, or a rectangle
without an image. -/
def Drawable (s : Scene) (id : Nat) : Prop :=
  ∃ node, s.get? id = some node ∧
    (node.kind.isVectorLike = true ∨ node.kind = .group ∨
      node.kind = .rectangle ∧ node.hasImageFill = false)

/-! ### Descending in a forest -/

/-- What holds of a node of a forest whenever it holds of its children holds of every node. -/
theorem IsForest.induction {s : Scene} (hs : s.IsForest) {motive : Nat → Prop}
    (step : ∀ id, (∀ child ∈ s.childIds id, motive child) → motive id) (id : Nat) : motive id := by
  generalize hm : s.size - id = m
  induction m using Nat.strongRecOn generalizing id with
  | ind m ih =>
    apply step
    intro child hc
    obtain ⟨hlt, hsize⟩ := hs.child_lt hc
    exact ih (s.size - child) (by omega) child rfl

/-- Whether a node is shown can be read off its layer. -/
theorem isVisible_of_layer? {s : Scene} {id : Nat} {layer : Layer} (h : s.layer? id = some layer) :
    s.isVisible id = layer.node.visible := by
  obtain ⟨i, node, layers⟩ := layer
  rw [isVisible, (eq_of_layer? h).2.1]
  rfl

/-- A child is reached from its parent if the parent opens and the child is shown. -/
theorem mem_reachedChildren_iff {s : Scene} {id child : Nat} :
    child ∈ s.reachedChildren id ↔
      s.opens id = true ∧ child ∈ s.childIds id ∧ s.isVisible child = true := by
  unfold reachedChildren
  by_cases h : s.opens id = true
  · rw [if_pos h, List.mem_filter]
    simp [h]
  · rw [if_neg h]
    simp [h]

/-- Below a node that does not open nothing is reached. -/
theorem reachedChildren_of_opens_eq_false {s : Scene} {id : Nat} (h : s.opens id = false) :
    s.reachedChildren id = [] := by
  unfold reachedChildren
  rw [h]
  rfl

/-- A link from a node to its parent. -/
def Up (s : Scene) (child parent : Nat) : Prop := s.parentId? child = some parent

/-- No way up leads to a higher number. -/
theorem le_of_up {s : Scene} (hs : s.IsForest) {id other : Nat}
    (h : Relation.ReflTransGen s.Up id other) : other ≤ id := by
  induction h with
  | refl => exact Nat.le_refl id
  | tail _ hp ih =>
    have := hs.parent_lt hp
    omega

/-- A sibling does not lie above a sibling. -/
theorem eq_of_up_sibling {s : Scene} (hs : s.IsForest) {id a b : Nat} (ha : a ∈ s.childIds id)
    (hb : b ∈ s.childIds id) (h : Relation.ReflTransGen s.Up a b) : a = b := by
  rcases Relation.ReflTransGen.cases_head h with rfl | ⟨parent, hp, hrest⟩
  · rfl
  · have hpa : some parent = some id := hp.symm.trans (hs.mem_childIds_iff.mp ha)
    cases hpa
    have hle := le_of_up hs hrest
    have hlt := (hs.child_lt hb).1
    omega

/-! ### The order of a forest, by some of the children -/

section Preorder

variable {s : Scene} (hs : s.IsForest) {children : Nat → List Nat}
  (hsub : ∀ id, (children id).Sublist (s.childIds id))

include hs hsub

/-- In a forest no child is passed over. -/
theorem preorder_eq (id : Nat) :
    s.preorder children id = id :: (children id).flatMap (s.preorder children) := by
  rw [preorder]
  congr 1
  apply List.flatMap_congr
  intro child hc
  exact dif_pos (hs.child_lt ((hsub id).subset hc))

/-- What is listed in the order of a node is what the children lead to. -/
theorem mem_preorder_iff {id n : Nat} :
    n ∈ s.preorder children id ↔
      Relation.ReflTransGen (fun parent child => child ∈ children parent) id n := by
  constructor
  · intro h
    induction id using hs.induction with
    | step id ih =>
      rw [preorder_eq hs hsub, List.mem_cons, List.mem_flatMap] at h
      rcases h with rfl | ⟨child, hc, h⟩
      · exact .refl
      · exact .head hc (ih child ((hsub id).subset hc) h)
  · intro h
    induction h using Relation.ReflTransGen.head_induction_on with
    | refl =>
      rw [preorder_eq hs hsub]
      exact List.mem_cons_self
    | head hc _ ih =>
      rw [preorder_eq hs hsub]
      exact List.mem_cons_of_mem _ (List.mem_flatMap.mpr ⟨_, hc, ih⟩)

/-- The way down to a listed node is a way up, read backwards. -/
theorem up_of_mem_preorder {id n : Nat} (h : n ∈ s.preorder children id) :
    Relation.ReflTransGen s.Up n id := by
  rw [mem_preorder_iff hs hsub] at h
  induction h with
  | refl => exact .refl
  | tail _ hc ih => exact .head (hs.mem_childIds_iff.mp ((hsub _).subset hc)) ih

/-- No node is listed below two siblings: the way up from a node is unique. -/
theorem eq_of_mem_preorder {id a b n : Nat} (ha : a ∈ s.childIds id) (hb : b ∈ s.childIds id)
    (hna : n ∈ s.preorder children a) (hnb : n ∈ s.preorder children b) : a = b := by
  have hunique : Relator.RightUnique s.Up := by
    intro child p q hp hq
    exact Option.some.inj (hp.symm.trans hq)
  rcases Relation.ReflTransGen.total_of_right_unique hunique (up_of_mem_preorder hs hsub hna)
    (up_of_mem_preorder hs hsub hnb) with h | h
  · exact eq_of_up_sibling hs ha hb h
  · exact (eq_of_up_sibling hs hb ha h).symm

/-- No node is listed twice. -/
theorem nodup_preorder (id : Nat) : (s.preorder children id).Nodup := by
  induction id using hs.induction with
  | step id ih =>
    have hmem : ∀ child ∈ children id, child ∈ s.childIds id := fun child hc => (hsub id).subset hc
    rw [preorder_eq hs hsub, List.nodup_cons, List.nodup_flatMap]
    refine ⟨?_, fun child hc => ih child (hmem child hc), ?_⟩
    -- what is listed below a child has a number at least as high as the child, and the node has not
    · intro h
      obtain ⟨child, hc, h⟩ := List.mem_flatMap.mp h
      have hle := le_of_up hs (up_of_mem_preorder hs hsub h)
      have hlt := (hs.child_lt (hmem child hc)).1
      omega
    · apply ((hs.nodup_childIds id).sublist (hsub id)).pairwise_of_forall_ne
      intro a ha b hb hne n hna hnb
      exact hne (eq_of_mem_preorder hs hsub (hmem a ha) (hmem b hb) hna hnb)

end Preorder

/-! ### The reached nodes are visited once each -/

/-- The reached children are some of the children, in their order. -/
theorem reachedChildren_sublist (s : Scene) (id : Nat) :
    (s.reachedChildren id).Sublist (s.childIds id) := by
  unfold reachedChildren
  by_cases h : s.opens id = true
  · rw [if_pos h]
    exact List.filter_sublist
  · rw [if_neg h]
    exact List.nil_sublist _

/-- In a forest a node is visited before what is visited from its reached children. -/
theorem visits_eq {s : Scene} (hs : s.IsForest) (id : Nat) :
    s.visits id = id :: (s.reachedChildren id).flatMap s.visits :=
  preorder_eq hs s.reachedChildren_sublist id

/-- The nodes that are visited are the reached ones. -/
theorem mem_visits_iff {s : Scene} (hs : s.IsForest) {root id : Nat} :
    id ∈ s.visits root ↔ s.Reached root id := by
  rw [visits, mem_preorder_iff hs s.reachedChildren_sublist]
  constructor
  · intro h
    induction h with
    | refl => exact .root
    | tail _ hc ih =>
      obtain ⟨ho, hm, hv⟩ := mem_reachedChildren_iff.mp hc
      exact ih.child ho hm hv
  · intro h
    induction h with
    | root => exact .refl
    | child _ ho hc hv ih => exact ih.tail (mem_reachedChildren_iff.mpr ⟨ho, hc, hv⟩)

/-- No node is visited twice. -/
theorem nodup_visits {s : Scene} (hs : s.IsForest) (root : Nat) : (s.visits root).Nodup :=
  nodup_preorder hs s.reachedChildren_sublist root

/-! ### Groups that are drawn as one piece -/

/-- All layers are drawable if each of them is. -/
theorem allDrawable_iff (layers : List Layer) :
    Layer.allDrawable layers = true ↔ ∀ layer ∈ layers, layer.isDrawable = true := by
  induction layers with
  | nil => simp [Layer.allDrawable]
  | cons layer layers ih => simp [Layer.allDrawable, ih]

/-- A layer is drawable if it is artwork, a rectangle without an image, or a group of drawable
layers. -/
theorem isDrawable_mk_iff (id : Nat) (node : Node) (layers : List Layer) :
    Layer.isDrawable (.mk id node layers) = true ↔
      node.kind.isVectorLike = true ∨ (node.kind = .rectangle ∧ node.hasImageFill = false) ∨
        (node.kind = .group ∧ Layer.allDrawable layers = true) := by
  simp [Layer.isDrawable, or_assoc]

/-- What holds of the layers of a list of nodes, said of the nodes. -/
theorem forall_mem_layers_iff {s : Scene} {ids : List Nat} {layers : List Layer}
    (h : ids.map s.layer? = layers.map some) {p : Layer → Prop} :
    (∀ layer ∈ layers, p layer) ↔ ∀ id ∈ ids, ∃ layer, s.layer? id = some layer ∧ p layer := by
  induction ids generalizing layers with
  | nil =>
    cases List.map_eq_nil_iff.mp h.symm
    simp
  | cons id ids ih =>
    cases layers with
    | nil => cases h
    | cons layer layers =>
      obtain ⟨hhead, htail⟩ := List.cons.inj h
      rw [List.forall_mem_cons, List.forall_mem_cons, ih htail, hhead]
      simp

/-- Whether a node is drawn as one piece can be read off its layer. -/
theorem isCollapsible_of_layer? {s : Scene} {id i : Nat} {node : Node} {layers : List Layer}
    (h : s.layer? id = some (.mk i node layers)) :
    s.isCollapsible id = Layer.allDrawable layers := by
  unfold isCollapsible
  rw [h]
  rfl

/-- One level of the test: each child is artwork, a rectangle without an image, or a group that
passes the test. -/
theorem isCollapsible_iff_children {s : Scene} (hs : s.IsForest) {id : Nat} {node : Node}
    (h : s.get? id = some node) :
    s.isCollapsible id = true ↔ ∀ child ∈ s.childIds id, ∃ node, s.get? child = some node ∧
      (node.kind.isVectorLike = true ∨ (node.kind = .rectangle ∧ node.hasImageFill = false) ∨
        (node.kind = .group ∧ s.isCollapsible child = true)) := by
  obtain ⟨layers, hl, hc⟩ := layer?_of_get? hs h
  rw [isCollapsible_of_layer? hl, allDrawable_iff, forall_mem_layers_iff hc]
  refine forall₂_congr fun child _ => ?_
  constructor
  · rintro ⟨⟨i, node, layers⟩, hlayer, hd⟩
    refine ⟨node, (get?_of_layer? hs hlayer).2.1, ?_⟩
    rwa [isDrawable_mk_iff, ← isCollapsible_of_layer? hlayer] at hd
  · rintro ⟨node, hnode, hd⟩
    obtain ⟨layers, hlayer, -⟩ := layer?_of_get? hs hnode
    refine ⟨_, hlayer, ?_⟩
    rwa [isDrawable_mk_iff, ← isCollapsible_of_layer? hlayer]

/-- Whether a node is a group is a matter of its kind. -/
theorem isGroup_iff {s : Scene} {id : Nat} {node : Node} (h : s.get? id = some node) :
    s.isGroup id = true ↔ node.kind = .group := by
  unfold isGroup
  rw [h]
  simp

/-- A group is drawn as one piece if and only if every node found below it by descending through
groups only is artwork, a group, or a rectangle without an image. -/
theorem isCollapsible_iff {s : Scene} (hs : s.IsForest) {id : Nat} {node : Node}
    (h : s.get? id = some node) :
    s.isCollapsible id = true ↔ ∀ n, s.FoundBelow id n → s.Drawable n := by
  induction id using hs.induction generalizing node with
  | step id ih =>
    rw [isCollapsible_iff_children hs h]
    constructor
    · intro hall n hn
      cases hn with
      | child hc =>
        obtain ⟨node, hnode, hd⟩ := hall n hc
        refine ⟨node, hnode, ?_⟩
        rcases hd with hv | hr | ⟨hg, -⟩
        · exact Or.inl hv
        · exact Or.inr (Or.inr hr)
        · exact Or.inr (Or.inl hg)
      | @descend _ inner _ hc hg hn =>
        obtain ⟨node, hnode, hd⟩ := hall inner hc
        -- an inner group is drawable as a group only, so the hypothesis applies below it
        have hkind := (isGroup_iff hnode).mp hg
        rcases hd with hv | ⟨hr, -⟩ | ⟨-, hcol⟩
        · rw [hkind] at hv; cases hv
        · rw [hkind] at hr; cases hr
        · exact (ih inner hc hnode).mp hcol n hn
    · intro hall child hc
      obtain ⟨node, hnode, hd⟩ := hall child (.child hc)
      refine ⟨node, hnode, ?_⟩
      rcases hd with hv | hg | hr
      · exact Or.inl hv
      · refine Or.inr (Or.inr ⟨hg, (ih child hc hnode).mpr fun n hn => ?_⟩)
        exact hall n (.descend hc ((isGroup_iff hnode).mpr hg) hn)
      · exact Or.inr (Or.inl hr)

end Scene

end Viewsmith
