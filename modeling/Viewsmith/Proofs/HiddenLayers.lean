import Viewsmith.Proofs.Isolation

/-!
# Hidden layers

A hidden layer is not reached, but it is not without influence: whether a group is drawn as one
piece of artwork depends on all of its members, the hidden ones included. Below a frame, a component
or an instance nothing depends on it. There a hidden layer may be cut off, with everything below it,
and the reached part of the selection stays what it was (`Layer.outline_prune`).

It follows that two scenes are compiled alike if they agree up to the numbers of the nodes and up to
hidden layers of that sort, which the second scene may lack.

## Main definitions

* `Layer.prune`: a layer without the hidden layers below frames, components and instances.
* `Scene.Trims`: the second of two selections may lack such layers, and else is the same.

## Main statements

* `Layer.outline_prune`: the reached part of a layer is that of the pruned layer.
* `Scene.Trims.compile_eq`: a selection that is trimmed is compiled to the same result.
-/

namespace Viewsmith

/-- The kinds that are always opened and never drawn as one piece, so that hidden children have no
influence. -/
def Kind.conceals : Kind → Bool
  | .frame | .component | .instanceOf => true
  | _ => false

/-! ### Pruned layers -/

namespace Layer

mutual

/-- A layer without the hidden layers below frames, components and instances. -/
def prune : Layer → Layer
  | .mk id node children => .mk id node (pruneAll node.kind.conceals children)

/-- The pruned layers of a list, without the hidden ones if these are concealed. -/
def pruneAll (concealed : Bool) : List Layer → List Layer
  | [] => []
  | layer :: layers =>
    if concealed && !layer.node.visible then pruneAll concealed layers
    else layer.prune :: pruneAll concealed layers

end

/-- Pruning a layer keeps its node. -/
theorem node_prune (l : Layer) : l.prune.node = l.node := by
  cases l
  unfold prune
  rfl

/-- Where hidden layers are concealed, they are left out. -/
theorem pruneAll_cons_of_hidden {l : Layer} (h : l.node.visible = false) (ls : List Layer) :
    pruneAll true (l :: ls) = pruneAll true ls := by
  rw [pruneAll, h]
  rfl

/-- A layer that is shown stays, pruned. -/
theorem pruneAll_cons_of_visible (concealed : Bool) {l : Layer} (h : l.node.visible = true)
    (ls : List Layer) : pruneAll concealed (l :: ls) = l.prune :: pruneAll concealed ls := by
  rw [pruneAll, h, Bool.not_true, Bool.and_false, if_neg Bool.false_ne_true]

/-- Where hidden layers count, every layer stays, pruned. -/
theorem pruneAll_false_cons (l : Layer) (ls : List Layer) :
    pruneAll false (l :: ls) = l.prune :: pruneAll false ls := by
  rw [pruneAll, Bool.false_and, if_neg Bool.false_ne_true]

/-- A group conceals nothing. -/
theorem conceals_of_group {kind : Kind} (h : kind = .group) : kind.conceals = false := by
  rw [h]
  rfl

mutual

/-- Pruning does not change whether a layer is drawable. -/
theorem isDrawable_prune : (l : Layer) → l.prune.isDrawable = l.isDrawable
  | .mk id node children => by
      unfold prune isDrawable
      by_cases hgroup : node.kind = .group
      · rw [conceals_of_group hgroup, allDrawable_pruneAll children]
      · simp [hgroup]

/-- Pruning does not change whether all layers are drawable, as none is left out for it. -/
theorem allDrawable_pruneAll : (ls : List Layer) → allDrawable (pruneAll false ls) = allDrawable ls
  | [] => by rw [pruneAll]
  | l :: ls => by
      rw [pruneAll_false_cons]
      unfold allDrawable
      rw [isDrawable_prune l, allDrawable_pruneAll ls]

end

/-- Pruning does not change whether a layer is drawn as one piece. -/
theorem isArtwork_prune (l : Layer) : l.prune.isArtwork = l.isArtwork := by
  obtain ⟨id, node, children⟩ := l
  unfold prune
  dsimp only [isArtwork]
  by_cases hgroup : node.kind = .group
  · rw [conceals_of_group hgroup, allDrawable_pruneAll children]
  · simp [hgroup]

mutual

/-- The reached part of a layer is that of the pruned layer. -/
theorem outline_prune (selected : Bool) (owner outer : Option Node) :
    (l : Layer) → l.prune.outline selected owner outer = l.outline selected owner outer
  | .mk id node children => by
      have hartwork := isArtwork_prune (.mk id node children)
      unfold prune at hartwork ⊢
      unfold outline
      rw [hartwork, outlines_pruneAll (some node) owner node.kind.conceals children]

/-- What is reached below is the same after pruning. -/
theorem outlines_pruneAll (owner outer : Option Node) (concealed : Bool) :
    (ls : List Layer) → outlines owner outer (pruneAll concealed ls) = outlines owner outer ls
  | [] => by rw [pruneAll]
  | l :: ls => by
      have hrest := outlines_pruneAll owner outer concealed ls
      have hhead := outline_prune false owner outer l
      cases hvisible : l.node.visible with
      | true =>
        rw [pruneAll_cons_of_visible concealed hvisible, outlines, outlines, node_prune,
          hvisible, hhead, hrest]
      | false =>
        cases concealed with
        | true =>
          rw [pruneAll_cons_of_hidden hvisible, outlines, hvisible, hrest]
          rfl
        | false =>
          rw [pruneAll_false_cons, outlines, outlines, node_prune, hvisible, hrest]
          rfl

end

end Layer

/-! ### Trimmed selections -/

namespace Scene

/-- The second list of nodes is the first one up to numbers, which `R` relates, but it may lack
hidden nodes if these are concealed. -/
inductive Thins (s : Scene) (R : Nat → Nat → Prop) (concealed : Bool) : List Nat → List Nat → Prop
  | nil : Thins s R concealed [] []
  | keep {a b : Nat} {ids ids' : List Nat} (h : R a b) (hrest : Thins s R concealed ids ids') :
      Thins s R concealed (a :: ids) (b :: ids')
  | drop {a : Nat} {ids ids' : List Nat} (hconcealed : concealed = true) (h : s.isVisible a = false)
      (hrest : Thins s R concealed ids ids') : Thins s R concealed (a :: ids) ids'

/-- The parts of two scenes at and below two nodes are the same up to the numbers of nodes, which
`R` relates, and up to hidden nodes below frames, components and instances, which the second scene
may lack; and two sources answer alike for what they have in common. -/
structure Trims (s : Scene) (root : Nat) (source : Source) (t : Scene) (root' : Nat)
    (source' : Source) (R : Nat → Nat → Prop) : Prop where
  related : R root root'
  variantSet : s.variantSet? root = t.variantSet? root'
  nodes : ∀ {a b : Nat}, R a b → ∃ node, s.get? a = some node ∧ t.get? b = some node
  children : ∀ {a b : Nat} {node : Node}, R a b → s.get? a = some node →
    s.Thins R node.kind.conceals (s.childIds a) (t.childIds b)
  artwork : ∀ {a b : Nat}, R a b → (source.artwork a).toOption = (source'.artwork b).toOption
  image : source.ImagesAlike source'

variable {s t : Scene} {R : Nat → Nat → Prop}

/-- Thinned lists have the same pruned layers, if nodes that are kept have. -/
theorem Thins.pruneAll_alike (hs : s.IsForest) {concealed : Bool} {ids ids' : List Nat}
    (h : s.Thins R concealed ids ids') {ls ms : List Layer} (hls : ids.map s.layer? = ls.map some)
    (hms : ids'.map t.layer? = ms.map some)
    (hstep : ∀ a ∈ ids, ∀ {b : Nat} {l m : Layer}, R a b → s.layer? a = some l →
      t.layer? b = some m → l.prune.Alike R m.prune) :
    Layer.AlikeAll R (Layer.pruneAll concealed ls) (Layer.pruneAll concealed ms) := by
  induction h generalizing ls ms with
  | nil =>
    cases List.map_eq_nil_iff.mp hls.symm
    cases List.map_eq_nil_iff.mp hms.symm
    rw [Layer.pruneAll]
    trivial
  | keep hab _ ih =>
    obtain ⟨l, ls, rfl, hl, hls⟩ := List.map_eq_cons_iff.mp hls.symm
    obtain ⟨m, ms, rfl, hm, hms⟩ := List.map_eq_cons_iff.mp hms.symm
    have halike := hstep _ List.mem_cons_self hab hl.symm hm.symm
    have hrest := ih hls.symm hms.symm fun a ha => hstep a (List.mem_cons_of_mem _ ha)
    have hnode : l.node = m.node := by
      obtain ⟨i, node, children⟩ := l
      obtain ⟨j, node', children'⟩ := m
      unfold Layer.prune at halike
      exact halike.2.1
    rw [Layer.pruneAll, Layer.pruneAll, hnode]
    split
    · exact hrest
    · exact ⟨halike, hrest⟩
  | drop hconcealed hhidden _ ih =>
    obtain ⟨l, ls, rfl, hl, hls⟩ := List.map_eq_cons_iff.mp hls.symm
    have hrest := ih hls.symm hms fun a ha => hstep a (List.mem_cons_of_mem _ ha)
    -- the node that is dropped is hidden below one that conceals, and pruning drops it too
    have hvisible : l.node.visible = false := by
      obtain ⟨i, node, children⟩ := l
      obtain ⟨-, hget, -⟩ := get?_of_layer? hs hl.symm
      rw [isVisible, hget] at hhidden
      exact hhidden
    subst hconcealed
    rw [Layer.pruneAll_cons_of_hidden hvisible]
    exact hrest

namespace Trims

variable {root root' : Nat} {source source' : Source}

/-- Related nodes have the same pruned layers. -/
theorem prune_alike (h : Trims s root source t root' source' R) (hs : s.IsForest) (ht : t.IsForest)
    (a : Nat) : ∀ {b : Nat} {l m : Layer}, R a b → s.layer? a = some l → t.layer? b = some m →
      l.prune.Alike R m.prune := by
  induction a using hs.induction with
  | step a ih =>
    rintro b ⟨i, node, ls⟩ ⟨j, node', ms⟩ hab hl hm
    obtain ⟨rfl, hget, hls⟩ := get?_of_layer? hs hl
    obtain ⟨rfl, hget', hms⟩ := get?_of_layer? ht hm
    have hnode : node = node' := by
      obtain ⟨both, hboth, hboth'⟩ := h.nodes hab
      rw [Option.some.inj (hget.symm.trans hboth), Option.some.inj (hget'.symm.trans hboth')]
    subst hnode
    unfold Layer.prune
    exact ⟨hab, rfl, (h.children hab hget).pruneAll_alike hs hls hms ih⟩

/-- A trimmed selection has the same reached part. -/
theorem outline_alike (h : Trims s root source t root' source' R) (hs : s.IsForest)
    (ht : t.IsForest) :
    ∃ o p, s.outline? root = some o ∧ t.outline? root' = some p ∧ o.Alike source source' p := by
  obtain ⟨node, hget, hget'⟩ := h.nodes h.related
  obtain ⟨ls, hl, -⟩ := layer?_of_get? hs hget
  obtain ⟨ms, hm, -⟩ := layer?_of_get? ht hget'
  refine ⟨_, _, by rw [outline?, hl, Option.map_some], by rw [outline?, hm, Option.map_some], ?_⟩
  have halike := h.prune_alike hs ht root h.related hl hm
  rw [← Layer.outline_prune, ← Layer.outline_prune _ _ _ (.mk root' node ms)]
  unfold Layer.prune at halike ⊢
  exact Layer.outline_alike_of_selected h.artwork h.related rfl halike.2.2 fun _ => h.variantSet

/-- A trimmed selection makes the same requests. -/
theorem lower_quiet (h : Trims s root source t root' source' R) (hs : s.IsForest) (ht : t.IsForest)
    (mode : ImageFills) :
    (s.lower root source mode).quiet = (t.lower root' source' mode).quiet := by
  obtain ⟨node, hget, hget'⟩ := h.nodes h.related
  obtain ⟨o, p, ho, hp, halike⟩ := h.outline_alike hs ht
  exact Scene.lower_quiet_of_alike hget hget' rfl rfl ho hp halike h.image mode

/-- A selection that is trimmed is compiled to the same result. -/
theorem compile_eq (h : Trims s root source t root' source' R) (hs : s.IsForest) (ht : t.IsForest)
    (c : Compiler) : (c.compile s root source).1.result = (c.compile t root' source').1.result := by
  obtain ⟨hresult, hstore⟩ := Script.run_congr_of_quiet
    (h.lower_quiet hs ht c.options.imageFills) [] c.assets.clear
  show (Except.map _ ((s.lower root source c.options.imageFills).run [] c.assets.clear).1).map _ =
    (Except.map _ ((t.lower root' source' c.options.imageFills).run [] c.assets.clear).1).map _
  rw [hresult, hstore]

end Trims

end Scene

end Viewsmith
