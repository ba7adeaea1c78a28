import Mathlib.Data.List.Forall2
import Viewsmith.Proofs.LoweringOutcome

/-!
# The elements of a lowering

A lowering that succeeds loses, repeats and reorders nothing: the elements of its tree, each before
those below it, are the images of the reached nodes in the order of the visits, and below the image
of a node stand the images of its reached children, in order.

## Main statements

* `Scene.image_preorder`: the image of a node, element by element.
* `Scene.children_of_isLeaf`, `Scene.style_of_blank`: elements without children and without style.
* `Scene.lower_image`: a lowering that succeeds gives the image of the reached nodes.
-/

namespace Viewsmith

/-- The contents of elements that have no children. -/
def Content.isLeaf : Content → Bool
  | .text _ _ | .rectangle _ | .vector _ | .blank => true
  | _ => false

namespace Scene

variable {s : Scene} {source : Source}

mutual

/-- The elements of an image, each before those below it, are the images of the nodes that are
visited. -/
theorem image_preorder (hs : s.IsForest) :
    (e : Element) → ∀ {id : Nat}, s.Image source id e →
      List.Forall₂ (s.Image source) (s.visits id) e.preorder
  | .mk name content style children, id, h => by
      rw [visits_eq hs]
      unfold Element.preorder
      exact .cons h (imageAll_preorder hs children h.2)

/-- The elements of several images. -/
theorem imageAll_preorder (hs : s.IsForest) :
    (es : List Element) → ∀ {ids : List Nat}, s.ImageAll source ids es →
      List.Forall₂ (s.Image source) (ids.flatMap s.visits) (Element.preorderAll es)
  | [], [], _ => .nil
  | [], _ :: _, h => absurd h id
  | _ :: _, [], h => absurd h id
  | e :: es, id :: ids, ⟨he, hes⟩ => by
      rw [List.flatMap_cons]
      unfold Element.preorderAll
      exact List.rel_append (image_preorder hs e he) (imageAll_preorder hs es hes)

end

/-- What an image shows of the node itself, and that its children are the images of the reached
ones. -/
theorem image_iff {id : Nat} {e : Element} :
    s.Image source id e ↔
      s.Depicts source id e ∧ s.ImageAll source (s.reachedChildren id) e.children := by
  cases e with
  | mk name content style children => exact Iff.rfl

/-- Nothing is reached below a text or a rectangle. -/
theorem reachedChildren_of_kind {id : Nat} {node : Node} (h : s.get? id = some node)
    (hk : node.kind = .text ∨ node.kind = .rectangle) : s.reachedChildren id = [] := by
  apply reachedChildren_of_opens_eq_false
  unfold opens
  rw [h]
  rcases hk with hk | hk <;> simp [hk]

/-- Texts, rectangles, vectors and blank elements have no children. -/
theorem children_of_isLeaf {id : Nat} {e : Element} (h : s.Image source id e)
    (hl : e.content.isLeaf = true) : e.children = [] := by
  obtain ⟨⟨node, hget, hshow⟩, hchildren⟩ := image_iff.mp h
  by_cases hart : s.isArtwork id = true
  · rw [reachedChildren_of_isArtwork hart] at hchildren
    exact imageAll_nil hchildren
  · rw [if_neg hart] at hshow
    have hk : node.kind = .text ∨ node.kind = .rectangle := by
      cases hc : e.content <;> rw [hc] at hl hshow <;> cases hl
      case rectangle => exact Or.inr (Option.some.inj hshow).symm
      case text => exact Or.inl (Option.some.inj hshow).symm
      all_goals cases hshow
    rw [reachedChildren_of_kind hget hk] at hchildren
    exact imageAll_nil hchildren

/-- Blank elements have no style. -/
theorem style_of_blank {id : Nat} {e : Element} (h : s.Image source id e)
    (hb : e.content = .blank) : e.style = {} := by
  obtain ⟨⟨node, hget, hshow⟩, -⟩ := image_iff.mp h
  rw [hb] at hshow
  by_cases hart : s.isArtwork id = true
  · rw [if_pos hart] at hshow
    cases hs : source.artwork id with
    | ok svg =>
      rw [hs] at hshow
      cases hshow.1
    | error e =>
      rw [hs] at hshow
      exact hshow.2.1
  · rw [if_neg hart] at hshow
    cases hshow

/-- A lowering that succeeds gives an image. -/
theorem image_of_lower_ok (hs : s.IsForest) {root : Nat} {mode : ImageFills} {log : List Warning}
    {assets : Assets} {e : Element} (h : ((s.lower root source mode).run log assets).1 = .ok e) :
    s.Image source root e := by
  cases hget : s.get? root with
  | none =>
    rw [lower_of_unknown source mode hget] at h
    cases h
  | some node =>
    obtain ⟨o, ho, hl⟩ := lower_of_known source mode hs hget
    rw [hl] at h
    cases hc : node.kind.checkRoot node.name with
    | error e' =>
      rw [hc] at h
      cases h
    | ok _ =>
      rw [hc] at h
      have hend := (Outline.build_ends source mode hs o ho).run log assets
      rw [h] at hend
      exact hend.2

/-- What a relation says of its second arguments holds of all elements of the second list. -/
theorem forall_mem_of_forall₂ {α β : Type} {R : α → β → Prop} {p : β → Prop} {as : List α}
    {bs : List β} (h : List.Forall₂ R as bs) (hp : ∀ a b, R a b → p b) : ∀ b ∈ bs, p b := by
  induction h with
  | nil => exact fun b hb => absurd hb List.not_mem_nil
  | cons hab _ ih => exact List.forall_mem_cons.mpr ⟨hp _ _ hab, ih⟩

/-- **Image.** A lowering that succeeds gives the image of the reached nodes. Its elements, each
before those below it, are the images of the visited nodes one by one; the visited nodes are the
reached ones, each once; a group is drawn as one piece if and only if everything found below it can
be drawn; texts, rectangles, vectors and blank elements have no children, and blank elements have no
style. -/
theorem lower_image (s : Scene) (hs : s.IsForest) (root : Nat) (source : Source) (mode : ImageFills)
    (log : List Warning) (assets : Assets) (e : Element)
    (h : ((s.lower root source mode).run log assets).1 = .ok e) :
    s.Image source root e ∧
      List.Forall₂ (s.Image source) (s.visits root) e.preorder ∧
      (s.visits root).Nodup ∧ (∀ id, id ∈ s.visits root ↔ s.Reached root id) ∧
      (∀ id node, s.get? id = some node → node.kind = .group →
        (s.isCollapsible id = true ↔ ∀ n, s.FoundBelow id n → s.Drawable n)) ∧
      ∀ d ∈ e.preorder, (d.content.isLeaf = true → d.children = []) ∧
        (d.content = .blank → d.style = {}) := by
  have himage := image_of_lower_ok hs h
  have hpre := image_preorder hs e himage
  refine ⟨himage, hpre, nodup_visits hs root, fun id => mem_visits_iff hs,
    fun id node hget _ => isCollapsible_iff hs hget, ?_⟩
  exact forall_mem_of_forall₂ hpre fun id d hd => ⟨children_of_isLeaf hd, style_of_blank hd⟩

/-- A frame with a group of an ellipse and a hidden rectangle, with a text, and with a hidden frame:
the group is one vector, and the hidden frame is left out. -/
theorem lower_image_icon :
    let s :=
      ((((((({} : Scene).addRoot { kind := .frame }).addChild 0 { kind := .group }).addChild 1
        { kind := .ellipse }).addChild 1 { kind := .rectangle, visible := false }).addChild 0
        { kind := .text }).addChild 0 { kind := .frame, visible := false })
    let source : Source := { Source.none with artwork := fun _ => .ok "<svg></svg>" }
    s.IsForest ∧ s.visits 0 = [0, 1, 4] ∧
      ∃ e, ((s.lower 0 source .css).run [] {}).1 = .ok e ∧
        List.Forall₂ (s.Image source) [0, 1, 4] e.preorder := by
  intro s source
  have hs : s.IsForest :=
    ((((((Built.empty.addRoot _).addChild (by decide) _).addChild (by decide) _).addChild
      (by decide) _).addChild (by decide) _).addChild (by decide) _).isForest
  have hgroup : s.get? 1 = some { kind := .group } := rfl
  have hcollapses : s.isCollapsible 1 = true := by
    rw [isCollapsible_iff_children hs hgroup]
    have hbelow : s.childIds 1 = [2, 3] := rfl
    rw [hbelow, List.forall_mem_cons, List.forall_mem_singleton]
    exact ⟨⟨_, rfl, Or.inl rfl⟩, ⟨_, rfl, Or.inr (Or.inl ⟨rfl, rfl⟩)⟩⟩
  have hart : s.isArtwork 1 = true := by
    unfold isArtwork
    rw [hgroup, hcollapses]
    rfl
  have hroot : s.reachedChildren 0 = [1, 4] := rfl
  have hleaf : s.reachedChildren 4 = [] := rfl
  have hvisits : s.visits 0 = [0, 1, 4] := by
    rw [visits_eq hs, hroot]
    simp [visits_eq hs 1, visits_eq hs 4, hleaf, reachedChildren_of_isArtwork hart]
  have hend := (lower_ends source .css hs (rfl : s.get? 0 = some { kind := .frame })
    (by decide)).run [] {}
  refine ⟨hs, hvisits, ?_⟩
  cases h : ((s.lower 0 source .css).run [] {}).1 with
  | ok e =>
    refine ⟨e, rfl, ?_⟩
    rw [← hvisits]
    exact (lower_image s hs 0 source .css [] {} e h).2.1
  | error e =>
    rw [h] at hend
    have hnone : (s.visits 0).findSome? s.fault? = none := by rw [hvisits]; rfl
    exact absurd (hnone.symm.trans hend) nofun

end Scene

end Viewsmith
