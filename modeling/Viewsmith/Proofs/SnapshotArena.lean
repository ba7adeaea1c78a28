import Viewsmith.Proofs.SceneBuilding
import Viewsmith.Snapshot.Basic

/-!
# The snapshot of a document

A document holds nodes with their children. A snapshot numbers them one by one as they are added,
and links each to a parent that is there already, while the numbers of its later siblings are not
known yet. This module shows that what comes out is the document again: the nodes in order, each
linked to the numbers of its own children, and at a distance that the sizes of the nodes before it
tell.

What one call adds is said for any snapshot to start from (`Snapshot.places_preorderAll`), since
every call but the first one finds others there. The induction is on the specs, as in the two
functions that add them.

## Main definitions

* `Spec.preorder`: a spec and those below it, each before those below it.
* `Spec.numbers`: the numbers that specs in a row get.
* `Snapshot.Settled`: what is said about a number that is taken, and stays so.
* `Snapshot.Places`: a number has the node, the children and the artwork of a spec.
* `Snapshot.Faithful`: a snapshot is that of a document.

## Main statements

* `Snapshot.Settled.addSpecs`, `Snapshot.childIds_addSpecs`: what adding specs does to the nodes
  that are there.
* `Snapshot.places_preorderAll`: where the nodes of the added specs are placed.
* `Scene.below_of_prefix`: the nodes below a node have the numbers that follow its own.
* `Snapshot.ofDocument_faithful`: a document whose images can be decoded has a faithful snapshot.
-/

namespace Viewsmith

/-! ### Specs -/

namespace Spec

/-- The node of a spec. -/
def node : Spec → Node
  | .mk node _ _ => node

/-- The artwork of a spec. -/
def svg : Spec → Option String
  | .mk _ svg _ => svg

/-- The specs that stand directly below a spec. -/
def children : Spec → List Spec
  | .mk _ _ children => children

mutual

/-- The number of nodes of a spec. -/
def size : Spec → Nat
  | .mk _ _ children => sizeAll children + 1

/-- The number of nodes of a list of specs. -/
def sizeAll : List Spec → Nat
  | [] => 0
  | spec :: specs => spec.size + sizeAll specs

end

/-- Every spec has a node. -/
theorem size_pos (spec : Spec) : 0 < spec.size := by
  cases spec
  rw [size]
  exact Nat.succ_pos _

mutual

/-- A spec and all specs below it, each before those below it. -/
def preorder : Spec → List Spec
  | .mk node svg children => .mk node svg children :: preorderAll children

/-- The specs of a list and all specs below them, each before those below it. -/
def preorderAll : List Spec → List Spec
  | [] => []
  | spec :: specs => spec.preorder ++ preorderAll specs

end

/-- The numbers of specs that are added in a row, from the first number on. Each takes as many
numbers as it has nodes. -/
def numbers : Nat → List Spec → List Nat
  | _, [] => []
  | start, spec :: specs => start :: numbers (start + spec.size) specs

/-! ### The order of a document -/

mutual

/-- Below a spec and with it there are as many specs as it has nodes. -/
theorem length_preorder : (spec : Spec) → spec.preorder.length = spec.size
  | .mk node svg children => by rw [preorder, List.length_cons, length_preorderAll children, size]

/-- In a list of specs and below it there are as many specs as it has nodes. -/
theorem length_preorderAll : (specs : List Spec) → (preorderAll specs).length = sizeAll specs
  | [] => rfl
  | spec :: specs => by
      rw [preorderAll, List.length_append, length_preorder spec, length_preorderAll specs, sizeAll]

end

mutual

/-- What lies below a spec follows it. -/
theorem preorder_prefix_drop {k : Nat} {sub : Spec} :
    (spec : Spec) → spec.preorder[k]? = some sub → sub.preorder <+: spec.preorder.drop k
  | .mk node svg children, h => by
      unfold preorder at h
      cases k with
      | zero =>
        cases h
        exact List.prefix_rfl
      | succ k =>
        rw [preorder, List.drop_succ_cons]
        exact preorderAll_prefix_drop children h

/-- What lies below a spec of a list follows it. -/
theorem preorderAll_prefix_drop {k : Nat} {sub : Spec} :
    (specs : List Spec) → (preorderAll specs)[k]? = some sub →
      sub.preorder <+: (preorderAll specs).drop k
  | [], h => by cases h
  | spec :: specs, h => by
      rw [preorderAll] at h ⊢
      by_cases hk : k < spec.preorder.length
      · rw [List.getElem?_append_left hk] at h
        rw [List.drop_append_of_le_length (Nat.le_of_lt hk)]
        exact (preorder_prefix_drop spec h).trans (List.prefix_append _ _)
      · have hle := Nat.le_of_not_lt hk
        rw [List.getElem?_append_right hle] at h
        rw [List.drop_append, List.drop_eq_nil_of_le hle, List.nil_append]
        exact preorderAll_prefix_drop specs h

end

section Prefix

variable {all : List Spec} {i : Nat}

/-- The order of a spec starts with the spec itself. -/
theorem getElem?_of_prefix_drop {spec : Spec} (h : spec.preorder <+: all.drop i) :
    all[i]? = some spec := by
  obtain ⟨node, svg, children⟩ := spec
  obtain ⟨rest, hrest⟩ := h
  have hhead : (all.drop i)[0]? = all[i]? := by rw [List.getElem?_drop, Nat.add_zero]
  rw [← hhead, ← hrest]
  rfl

/-- Right after a spec the order goes on with what is below it. -/
theorem children_prefix_drop {spec : Spec} (h : spec.preorder <+: all.drop i) :
    preorderAll spec.children <+: all.drop (i + 1) := by
  obtain ⟨node, svg, children⟩ := spec
  obtain ⟨rest, hrest⟩ := h
  refine ⟨rest, ?_⟩
  rw [← List.drop_drop, ← hrest]
  rfl

/-- After a spec and all that is below it the order goes on with the next specs of its list. -/
theorem cons_prefix_drop {spec : Spec} {specs : List Spec}
    (h : preorderAll (spec :: specs) <+: all.drop i) :
    spec.preorder <+: all.drop i ∧ preorderAll specs <+: all.drop (i + spec.size) := by
  obtain ⟨rest, hrest⟩ := h
  rw [preorderAll, List.append_assoc] at hrest
  refine ⟨⟨_, hrest⟩, rest, ?_⟩
  rw [← List.drop_drop, ← hrest, ← length_preorder spec, List.drop_left]

/-- The numbers of specs in a row are those at which they are found. -/
theorem map_numbers_getElem? {specs : List Spec} (h : preorderAll specs <+: all.drop i) :
    (numbers i specs).map (all[·]?) = specs.map some := by
  induction specs generalizing i with
  | nil => rfl
  | cons spec specs ih =>
    obtain ⟨hfirst, hrest⟩ := cons_prefix_drop h
    rw [numbers, List.map_cons, List.map_cons, getElem?_of_prefix_drop hfirst, ih hrest]

end Prefix

end Spec

/-! ### Snapshots, node by node -/

namespace Snapshot

/-- The call that adds a node to a scene, at the top or below another. -/
def addition (parent : Option Nat) (node : Node) : Addition :=
  match parent with
  | some parent => .child parent node
  | none => .root node

/-- The call names the given parent. -/
theorem parent?_addition (parent : Option Nat) (node : Node) :
    (addition parent node).parent? = parent := by
  cases parent <;> rfl

/-- The call adds the given node. -/
theorem node_addition (parent : Option Nat) (node : Node) : (addition parent node).node = node := by
  cases parent <;> rfl

variable (a : Snapshot) (parent : Option Nat) (node : Node) (svg : Option String)

/-- Adding a node to a snapshot makes one call on its scene. -/
theorem scene_addNode : (a.addNode parent node svg).scene = a.scene.add (addition parent node) := by
  cases parent <;> rfl

/-- Adding a node adds one number. -/
theorem size_addNode : (a.addNode parent node svg).scene.size = a.scene.size + 1 := by
  rw [scene_addNode, Scene.size_add]

/-- The new node gets the next number, and the others stay. -/
theorem get?_addNode (i : Nat) :
    (a.addNode parent node svg).scene.get? i =
      if i = a.scene.size then some node else a.scene.get? i := by
  rw [scene_addNode, Scene.get?_add, node_addition]

/-- The new node gets the given parent, if that is known, and no other parent changes. -/
theorem parentId?_addNode (i : Nat) :
    (a.addNode parent node svg).scene.parentId? i =
      if i = a.scene.size then parent.filter (· < a.scene.size) else a.scene.parentId? i := by
  rw [scene_addNode, Scene.parentId?_add, parent?_addition]

/-- The new node is listed last at its parent. -/
theorem childIds_addNode (i : Nat) :
    (a.addNode parent node svg).scene.childIds i =
      if parent = some i ∧ i ≤ a.scene.size then a.scene.childIds i ++ [a.scene.size]
      else a.scene.childIds i := by
  rw [scene_addNode, Scene.childIds_add, parent?_addition]

/-- The artwork of the new node is filed under its number. -/
theorem lookup_artwork_addNode (i : Nat) :
    (a.addNode parent node svg).artwork.lookup i =
      if i = a.scene.size then svg.or (a.artwork.lookup i) else a.artwork.lookup i := by
  unfold addNode
  cases svg with
  | none => simp
  | some svg =>
    rw [List.lookup_cons]
    by_cases hi : i = a.scene.size
    · simp [hi]
    · simp [hi, beq_false_of_ne hi]

variable {a parent}

/-- The links of the scene are those of a forest, and artwork belongs to nodes of the scene. -/
structure Sound (a : Snapshot) : Prop where
  forest : a.scene.IsForest
  artwork : ∀ i, a.scene.size ≤ i → a.artwork.lookup i = none

/-- Adding a node below a known one keeps a snapshot sound. -/
theorem Sound.addNode (h : a.Sound) (hparent : ∀ p, parent = some p → p < a.scene.size) :
    (a.addNode parent node svg).Sound where
  forest := by
    cases parent with
    | none => exact h.forest.addRoot node
    | some p => exact h.forest.addChild (Nat.ne_of_lt (hparent p rfl)) node
  artwork := by
    intro i hi
    rw [size_addNode] at hi
    rw [lookup_artwork_addNode, if_neg (by omega)]
    exact h.artwork i (by omega)

mutual

/-- A spec takes as many numbers as it has nodes. -/
theorem size_addSpec (parent : Option Nat) :
    (spec : Spec) → (a : Snapshot) → (addSpec parent spec a).scene.size = a.scene.size + spec.size
  | .mk node svg children, a => by
      rw [addSpec, size_addSpecs _ children, size_addNode, Spec.size]
      omega

/-- A list of specs takes as many numbers as it has nodes. -/
theorem size_addSpecs (parent : Option Nat) :
    (specs : List Spec) → (a : Snapshot) →
      (addSpecs parent specs a).scene.size = a.scene.size + Spec.sizeAll specs
  | [], a => rfl
  | spec :: specs, a => by
      rw [addSpecs, size_addSpecs parent specs, size_addSpec parent spec, Spec.sizeAll]
      omega

end

/-! ### What is there stays -/

/-- A number that is taken stays taken when a node is added. -/
theorem lt_size_addNode {i : Nat} (hi : i < a.scene.size) :
    i < (a.addNode parent node svg).scene.size := by
  rw [size_addNode]
  exact Nat.lt_succ_of_lt hi

/-- The next number is taken once a node is added. -/
theorem size_lt_size_addNode : a.scene.size < (a.addNode parent node svg).scene.size := by
  rw [size_addNode]
  exact Nat.lt_succ_self _

/-- A number that is taken stays taken when a spec is added. -/
theorem lt_size_addSpec {i : Nat} (hi : i < a.scene.size) (spec : Spec) :
    i < (addSpec parent spec a).scene.size := by
  rw [size_addSpec]
  exact Nat.lt_add_right _ hi

/-- What a snapshot says about a number that is taken does not change when a node is added. -/
def Settled {β : Type} (i : Nat) (f : Snapshot → β) : Prop :=
  ∀ (a : Snapshot) (parent : Option Nat) (node : Node) (svg : Option String), i < a.scene.size →
    f (a.addNode parent node svg) = f a

/-- The node of a number that is taken is settled. -/
theorem settled_get? (i : Nat) : Settled i fun a => a.scene.get? i :=
  fun a parent node svg hi => (a.get?_addNode parent node svg i).trans (if_neg (Nat.ne_of_lt hi))

/-- The parent of a node is settled when the node is there. -/
theorem settled_parentId? (i : Nat) : Settled i fun a => a.scene.parentId? i :=
  fun a parent node svg hi =>
    (a.parentId?_addNode parent node svg i).trans (if_neg (Nat.ne_of_lt hi))

/-- The artwork of a node is settled when the node is there. -/
theorem settled_artwork (i : Nat) : Settled i fun a => a.artwork.lookup i :=
  fun a parent node svg hi =>
    (a.lookup_artwork_addNode parent node svg i).trans (if_neg (Nat.ne_of_lt hi))

mutual

/-- What is settled does not change when a spec is added. -/
theorem Settled.addSpec {β : Type} {i : Nat} {f : Snapshot → β} (hf : Settled i f)
    (parent : Option Nat) :
    (spec : Spec) → (a : Snapshot) → i < a.scene.size → f (addSpec parent spec a) = f a
  | .mk node svg children, a, hi => by
      rw [Snapshot.addSpec, hf.addSpecs _ children _ (lt_size_addNode node svg hi),
        hf a parent node svg hi]

/-- What is settled stays as it is when specs are added. -/
theorem Settled.addSpecs {β : Type} {i : Nat} {f : Snapshot → β} (hf : Settled i f)
    (parent : Option Nat) :
    (specs : List Spec) → (a : Snapshot) → i < a.scene.size → f (addSpecs parent specs a) = f a
  | [], a, hi => rfl
  | spec :: specs, a, hi => by
      rw [Snapshot.addSpecs, hf.addSpecs parent specs _ (lt_size_addSpec hi spec),
        hf.addSpec parent spec a hi]

end

/-- Adding a spec leaves the nodes that are there. -/
theorem get?_addSpec (parent : Option Nat) {i : Nat} (spec : Spec) (a : Snapshot)
    (hi : i < a.scene.size) : (addSpec parent spec a).scene.get? i = a.scene.get? i :=
  (settled_get? i).addSpec parent spec a hi

/-- Adding several specs leaves the nodes that are there. -/
theorem get?_addSpecs (parent : Option Nat) {i : Nat} (specs : List Spec) (a : Snapshot)
    (hi : i < a.scene.size) : (addSpecs parent specs a).scene.get? i = a.scene.get? i :=
  (settled_get? i).addSpecs parent specs a hi

/-- Adding several specs leaves the parents of the nodes that are there. -/
theorem parentId?_addSpecs (parent : Option Nat) {i : Nat} (specs : List Spec) (a : Snapshot)
    (hi : i < a.scene.size) : (addSpecs parent specs a).scene.parentId? i = a.scene.parentId? i :=
  (settled_parentId? i).addSpecs parent specs a hi

/-- Adding several specs leaves the artwork of the nodes that are there. -/
theorem lookup_artwork_addSpecs (parent : Option Nat) {i : Nat} (specs : List Spec) (a : Snapshot)
    (hi : i < a.scene.size) : (addSpecs parent specs a).artwork.lookup i = a.artwork.lookup i :=
  (settled_artwork i).addSpecs parent specs a hi

/-- A node that is added may be a parent. -/
theorem own_lt_size_addNode :
    ∀ p, some a.scene.size = some p → p < (a.addNode parent node svg).scene.size :=
  fun _ hp => Option.some.inj hp ▸ size_lt_size_addNode node svg

/-- A parent that is known stays known. -/
theorem parent_lt_size_addSpec (hparent : ∀ p, parent = some p → p < a.scene.size) (spec : Spec) :
    ∀ p, parent = some p → p < (addSpec parent spec a).scene.size :=
  fun p hp => lt_size_addSpec (hparent p hp) spec

mutual

/-- Adding a spec below a known node keeps a snapshot sound. -/
theorem Sound.addSpec {parent : Option Nat} :
    (spec : Spec) → {a : Snapshot} → a.Sound → (∀ p, parent = some p → p < a.scene.size) →
      (addSpec parent spec a).Sound
  | .mk node svg children, a, h, hparent => by
      rw [Snapshot.addSpec]
      exact Sound.addSpecs children (h.addNode node svg hparent) (own_lt_size_addNode node svg)

/-- Adding several specs below a known node keeps a snapshot sound. -/
theorem Sound.addSpecs {parent : Option Nat} :
    (specs : List Spec) → {a : Snapshot} → a.Sound → (∀ p, parent = some p → p < a.scene.size) →
      (addSpecs parent specs a).Sound
  | [], a, h, hparent => h
  | spec :: specs, a, h, hparent => by
      rw [Snapshot.addSpecs]
      exact Sound.addSpecs specs (Sound.addSpec spec h hparent)
        (parent_lt_size_addSpec hparent spec)

end

/-! ### Roots and children -/

/-- A node that is added at the top becomes the last root. -/
theorem roots_addNode (parent : Option Nat) (node : Node) (svg : Option String) :
    (a.addNode parent node svg).scene.roots =
      if parent = none then a.scene.roots ++ [a.scene.size] else a.scene.roots := by
  rw [scene_addNode, Scene.roots_add, parent?_addition]

mutual

/-- Of a spec only its own node can become a root. -/
theorem roots_addSpec (parent : Option Nat) :
    (spec : Spec) → (a : Snapshot) →
      (addSpec parent spec a).scene.roots =
        if parent = none then a.scene.roots ++ [a.scene.size] else a.scene.roots
  | .mk node svg children, a => by
      rw [addSpec, roots_addSpecs _ children, if_neg (Option.some_ne_none _), roots_addNode]

/-- What is added at the top is a root. -/
theorem roots_addSpecs (parent : Option Nat) :
    (specs : List Spec) → (a : Snapshot) →
      (addSpecs parent specs a).scene.roots =
        if parent = none then a.scene.roots ++ Spec.numbers a.scene.size specs else a.scene.roots
  | [], a => by simp [addSpecs, Spec.numbers]
  | spec :: specs, a => by
      rw [addSpecs, roots_addSpecs parent specs, roots_addSpec parent spec, size_addSpec,
        Spec.numbers]
      by_cases hp : parent = none <;> simp [hp]

end

mutual

/-- Below a node that is there, a spec lists its own node and nothing else. -/
theorem childIds_addSpec (parent : Option Nat) {i : Nat} :
    (spec : Spec) → (a : Snapshot) → i < a.scene.size →
      (addSpec parent spec a).scene.childIds i =
        a.scene.childIds i ++ if parent = some i then [a.scene.size] else []
  | .mk node svg children, a, hi => by
      have hne : some a.scene.size ≠ some i := fun h => Nat.ne_of_lt hi (Option.some.inj h).symm
      rw [addSpec, childIds_addSpecs _ children _ (lt_size_addNode node svg hi), if_neg hne,
        List.append_nil, childIds_addNode]
      by_cases hp : parent = some i
      · simp [hp, Nat.le_of_lt hi]
      · simp [hp]

/-- What is added below a node is listed there, after the children that it has. -/
theorem childIds_addSpecs (parent : Option Nat) {i : Nat} :
    (specs : List Spec) → (a : Snapshot) → i < a.scene.size →
      (addSpecs parent specs a).scene.childIds i =
        a.scene.childIds i ++ if parent = some i then Spec.numbers a.scene.size specs else []
  | [], a, hi => by simp [addSpecs, Spec.numbers]
  | spec :: specs, a, hi => by
      rw [addSpecs, childIds_addSpecs parent specs _ (lt_size_addSpec hi spec),
        childIds_addSpec parent spec a hi, size_addSpec, Spec.numbers]
      by_cases hp : parent = some i <;> simp [hp]

end

/-! ### Where nodes are placed -/

/-- The node of a number is that of a spec, with its artwork, and its children have the numbers that
follow. -/
structure Places (a : Snapshot) (i : Nat) (spec : Spec) : Prop where
  node : a.scene.get? i = some spec.node
  children : a.scene.childIds i = Spec.numbers (i + 1) spec.children
  artwork : a.artwork.lookup i = spec.svg

/-- A node stays as it is when nodes are added elsewhere. -/
theorem Places.addSpecs {parent : Option Nat} {i : Nat} {spec : Spec} (h : a.Places i spec)
    (hi : i < a.scene.size) (hp : parent ≠ some i) (specs : List Spec) :
    (addSpecs parent specs a).Places i spec where
  node := (get?_addSpecs parent specs a hi).trans h.node
  children := by rw [childIds_addSpecs parent specs a hi, if_neg hp, List.append_nil, h.children]
  artwork := (lookup_artwork_addSpecs parent specs a hi).trans h.artwork

/-- Step: the node of a spec gets the next number, and its children follow. -/
theorem places_addSpec (h : a.Sound) {parent : Option Nat}
    (hparent : ∀ p, parent = some p → p < a.scene.size) (spec : Spec) :
    (addSpec parent spec a).Places a.scene.size spec := by
  obtain ⟨node, svg, children⟩ := spec
  have hi : a.scene.size < (a.addNode parent node svg).scene.size := size_lt_size_addNode node svg
  have hnew : ¬ (parent = some a.scene.size ∧ a.scene.size ≤ a.scene.size) := by
    rintro ⟨hp, -⟩
    exact Nat.lt_irrefl _ (hparent _ hp)
  rw [Snapshot.addSpec]
  constructor
  · rw [get?_addSpecs _ children _ hi, get?_addNode, if_pos rfl]
    rfl
  · rw [childIds_addSpecs _ children _ hi, if_pos rfl, size_addNode, childIds_addNode, if_neg hnew,
      Scene.childIds_eq_nil_of_size_le (Nat.le_refl _)]
    rfl
  · rw [lookup_artwork_addSpecs _ children _ hi, lookup_artwork_addNode, if_pos rfl,
      h.artwork _ (Nat.le_refl _), Option.or_none]
    rfl

mutual

/-- A spec is placed with all specs below it, at the numbers of their order. -/
theorem places_preorder {parent : Option Nat} {k : Nat} {sub : Spec} :
    (spec : Spec) → {a : Snapshot} → a.Sound → (∀ p, parent = some p → p < a.scene.size) →
      spec.preorder[k]? = some sub → (addSpec parent spec a).Places (a.scene.size + k) sub
  | .mk node svg children, a, h, hparent, hsub => by
      cases k with
      | zero =>
        cases hsub
        exact places_addSpec h hparent _
      | succ k =>
        have hplaces := places_preorderAll children (h.addNode node svg hparent)
          (own_lt_size_addNode node svg) hsub
        rw [size_addNode, Nat.add_right_comm] at hplaces
        exact hplaces

/-- Run: the nodes of specs that are added get the next numbers, in the order of the document. -/
theorem places_preorderAll {parent : Option Nat} {k : Nat} {sub : Spec} :
    (specs : List Spec) → {a : Snapshot} → a.Sound → (∀ p, parent = some p → p < a.scene.size) →
      (Spec.preorderAll specs)[k]? = some sub →
      (addSpecs parent specs a).Places (a.scene.size + k) sub
  | [], a, h, hparent, hsub => by cases hsub
  | spec :: specs, a, h, hparent, hsub => by
      rw [Spec.preorderAll] at hsub
      rw [Snapshot.addSpecs]
      by_cases hk : k < spec.preorder.length
      · rw [List.getElem?_append_left hk] at hsub
        rw [Spec.length_preorder] at hk
        refine (places_preorder spec h hparent hsub).addSpecs ?_ ?_ specs
        · rw [size_addSpec]
          omega
        · intro hp
          have hlt := hparent _ hp
          omega
      · rw [List.getElem?_append_right (Nat.le_of_not_lt hk), Spec.length_preorder] at hsub
        rw [Spec.length_preorder] at hk
        have hplaces := places_preorderAll specs (h.addSpec spec hparent)
          (parent_lt_size_addSpec hparent spec) hsub
        rw [size_addSpec] at hplaces
        have hindex : a.scene.size + spec.size + (k - spec.size) = a.scene.size + k := by omega
        rwa [hindex] at hplaces

end

/-- The next number is taken once a spec is added. -/
theorem size_lt_size_addSpec (spec : Spec) : a.scene.size < (addSpec parent spec a).scene.size := by
  rw [size_addSpec]
  exact Nat.lt_add_of_pos_right spec.size_pos

/-- The node of a spec gets the given parent, if that is known. -/
theorem parentId?_addSpec_self (parent : Option Nat) (spec : Spec) :
    (addSpec parent spec a).scene.parentId? a.scene.size = parent.filter (· < a.scene.size) := by
  obtain ⟨node, svg, children⟩ := spec
  rw [addSpec, parentId?_addSpecs _ children _ (size_lt_size_addNode node svg), parentId?_addNode,
    if_pos rfl]

/-- Specs at the top have no parent. -/
theorem parentId?_of_mem_numbers {j : Nat} (specs : List Spec) (a : Snapshot)
    (h : j ∈ Spec.numbers a.scene.size specs) :
    (addSpecs none specs a).scene.parentId? j = none := by
  induction specs generalizing a with
  | nil => exact absurd h List.not_mem_nil
  | cons spec specs ih =>
    rw [Spec.numbers, ← size_addSpec none spec a, List.mem_cons] at h
    rw [addSpecs]
    rcases h with rfl | h
    · rw [parentId?_addSpecs none specs _ (size_lt_size_addSpec spec), parentId?_addSpec_self,
        Option.filter_none]
    · exact ih _ h

end Snapshot

/-! ### What lies below -/

namespace Scene

/-- The children of the nodes of a scene are those of the specs at the same positions of a list. -/
def ListsChildren (s : Scene) (all : List Spec) : Prop :=
  ∀ i spec, all[i]? = some spec → s.childIds i = Spec.numbers (i + 1) spec.children

mutual

/-- The nodes at and below the node of a spec have as many numbers in a row as the spec has
nodes. -/
theorem below_of_prefix {s : Scene} (hs : s.IsForest) {all : List Spec} (hall : s.ListsChildren all)
    {i : Nat} :
    (spec : Spec) → spec.preorder <+: all.drop i → s.below i = List.range' i spec.size
  | .mk node svg children, h => by
      rw [below_eq hs, hall i _ (Spec.getElem?_of_prefix_drop h),
        flatMap_below_of_prefix hs hall _ (Spec.children_prefix_drop h)]
      rfl

/-- The nodes at and below specs in a row have as many numbers in a row as the specs have nodes. -/
theorem flatMap_below_of_prefix {s : Scene} (hs : s.IsForest) {all : List Spec}
    (hall : s.ListsChildren all) {i : Nat} :
    (specs : List Spec) → Spec.preorderAll specs <+: all.drop i →
      (Spec.numbers i specs).flatMap s.below = List.range' i (Spec.sizeAll specs)
  | [], h => rfl
  | spec :: specs, h => by
      obtain ⟨hfirst, hrest⟩ := Spec.cons_prefix_drop h
      rw [Spec.numbers, List.flatMap_cons, below_of_prefix hs hall spec hfirst,
        flatMap_below_of_prefix hs hall specs hrest, Spec.sizeAll, List.range'_append_1]

end

/-- A node without a parent is not below another one. -/
theorem mem_of_parentId?_eq_none {s : Scene} (hs : s.IsForest) {ids : List Nat} {j : Nat}
    (h : j ∈ ids.flatMap s.below) (hnone : s.parentId? j = none) : j ∈ ids := by
  obtain ⟨id, hid, hbelow⟩ := List.mem_flatMap.mp h
  rcases Relation.ReflTransGen.cases_head (up_of_mem_below hs hbelow) with rfl | ⟨parent, hp, -⟩
  · exact hid
  · rw [Up, hnone] at hp
    cases hp

/-- The node with a key is the first of the nodes with it. -/
theorem findKey?_eq {s : Scene} {nodes : List Node} (h : ∀ i, s.get? i = nodes[i]?) (key : String) :
    s.findKey? key = nodes.findIdx? (·.key == key) := by
  have hnodes : s.slots.toList.map (·.node) = nodes := by
    apply List.ext_getElem?
    intro i
    rw [← h i, List.getElem?_map, Array.getElem?_toList]
    rfl
  rw [findKey?, ← hnodes, List.findIdx?_map]
  rfl

end Scene

/-! ### Documents and snapshots -/

/-- All specs of a document, each before those below it. -/
def Document.specs (document : Document) : List Spec := Spec.preorderAll document.nodes

namespace Snapshot

/-- A snapshot is that of a document. -/
structure Faithful (document : Document) (a : Snapshot) : Prop where
  /-- The nodes are numbered in the order of the document. -/
  nodes : ∀ i, a.scene.get? i = (document.specs[i]?).map Spec.node
  /-- The children of a node have the numbers that its spec leaves for them, and are the children of
  the spec. -/
  children : ∀ i spec, document.specs[i]? = some spec →
    a.scene.childIds i = Spec.numbers (i + 1) spec.children ∧
      (a.scene.childIds i).map (document.specs[·]?) = spec.children.map some
  /-- What has a parent is one of its children. -/
  parents : ∀ i j, a.scene.parentId? j = some i ↔ j ∈ a.scene.childIds i
  /-- The roots are the specs at the top, in order, -/
  roots : a.scene.roots = Spec.numbers 0 document.nodes ∧
    a.scene.roots.map (document.specs[·]?) = document.nodes.map some
  /-- and these are the nodes without a parent. -/
  mem_roots_iff : ∀ j, j ∈ a.scene.roots ↔ j < a.scene.size ∧ a.scene.parentId? j = none
  /-- The nodes at and below a node have numbers in a row, and are those of its spec. -/
  descendants : ∀ i spec, document.specs[i]? = some spec →
    a.scene.descendants i = List.range' i spec.size ∧
    (document.specs.drop i).take spec.size = spec.preorder
  /-- A node is exported as the artwork of its spec, if there is any. -/
  artwork : ∀ i, a.source.artwork i =
    match (document.specs[i]?).bind Spec.svg with
    | some svg => .ok svg
    | none => .error (.exportUnavailable i)
  /-- The first node with the identifier is selected. -/
  root : ∀ key, a.root (some key) =
    match document.specs.findIdx? (·.node.key == key) with
    | some i => .ok i
    | none => .error (.unknownRoot key)

/-- The scene of a document, without its images. -/
def ofNodes (nodes : List Spec) : Snapshot := addSpecs none nodes {}

/-- The empty snapshot is sound. -/
theorem sound_empty : ({} : Snapshot).Sound := ⟨Scene.isForest_empty, fun _ _ => rfl⟩

section OfNodes

variable (nodes : List Spec)

/-- The snapshot of a document is sound. -/
theorem sound_ofNodes : (ofNodes nodes).Sound := sound_empty.addSpecs nodes fun _ h => by cases h

/-- There are as many numbers as specs in the document. -/
theorem size_ofNodes : (ofNodes nodes).scene.size = (Spec.preorderAll nodes).length := by
  rw [ofNodes, size_addSpecs, Spec.length_preorderAll]
  exact Nat.zero_add _

/-- The roots are the specs at the top of the document. -/
theorem roots_ofNodes : (ofNodes nodes).scene.roots = Spec.numbers 0 nodes := by
  rw [ofNodes, roots_addSpecs, if_pos rfl]
  rfl

variable {nodes}

/-- Every spec of the document is placed at its position in the order. -/
theorem places_ofNodes {i : Nat} {spec : Spec} (h : (Spec.preorderAll nodes)[i]? = some spec) :
    (ofNodes nodes).Places i spec := by
  have hplaces : (ofNodes nodes).Places (({} : Snapshot).scene.size + i) spec :=
    places_preorderAll nodes sound_empty (fun _ hp => by cases hp) h
  have hzero : ({} : Snapshot).scene.size + i = i := Nat.zero_add i
  rwa [hzero] at hplaces

/-- A position without a spec is a number without a node. -/
theorem size_le_of_getElem?_eq_none {i : Nat} (h : (Spec.preorderAll nodes)[i]? = none) :
    (ofNodes nodes).scene.size ≤ i := by
  rw [size_ofNodes]
  exact List.getElem?_eq_none_iff.mp h

/-- The nodes are those of the specs, in order. -/
theorem get?_ofNodes (i : Nat) :
    (ofNodes nodes).scene.get? i = ((Spec.preorderAll nodes)[i]?).map Spec.node := by
  cases h : (Spec.preorderAll nodes)[i]? with
  | some spec => exact (places_ofNodes h).node
  | none =>
    rw [Scene.get?, Scene.slot?_eq_none_of_size_le (size_le_of_getElem?_eq_none h)]
    rfl

/-- The artwork of a number is that of the spec at its position. -/
theorem lookup_artwork_ofNodes (i : Nat) :
    (ofNodes nodes).artwork.lookup i = ((Spec.preorderAll nodes)[i]?).bind Spec.svg := by
  cases h : (Spec.preorderAll nodes)[i]? with
  | some spec => exact (places_ofNodes h).artwork
  | none => exact (sound_ofNodes nodes).artwork i (size_le_of_getElem?_eq_none h)

/-- The children of every node are those of its spec. -/
theorem listsChildren_ofNodes : (ofNodes nodes).scene.ListsChildren (Spec.preorderAll nodes) :=
  fun _ _ h => (places_ofNodes h).children

/-- The nodes without a parent are those at the top. -/
theorem mem_roots_ofNodes_iff (j : Nat) :
    j ∈ (ofNodes nodes).scene.roots ↔
      j < (ofNodes nodes).scene.size ∧ (ofNodes nodes).scene.parentId? j = none := by
  have hforest := (sound_ofNodes nodes).forest
  have hall : (Spec.numbers 0 nodes).flatMap (ofNodes nodes).scene.below =
      List.range' 0 (Spec.sizeAll nodes) :=
    Scene.flatMap_below_of_prefix hforest listsChildren_ofNodes nodes List.prefix_rfl
  have hlt : j < (ofNodes nodes).scene.size ↔
      j ∈ (Spec.numbers 0 nodes).flatMap (ofNodes nodes).scene.below := by
    rw [hall, size_ofNodes, Spec.length_preorderAll, List.mem_range'_1]
    omega
  rw [roots_ofNodes, hlt]
  constructor
  · intro h
    refine ⟨List.mem_flatMap.mpr ⟨j, h, ?_⟩, parentId?_of_mem_numbers nodes {} h⟩
    rw [Scene.below_eq hforest]
    exact List.mem_cons_self
  · rintro ⟨h, hnone⟩
    exact Scene.mem_of_parentId?_eq_none hforest h hnone

end OfNodes

/-- Whatever the images are, the nodes of a document are placed as the document has them. -/
theorem faithful_ofNodes (document : Document) (images : List (String × List UInt8)) :
    Faithful document { ofNodes document.nodes with images } where
  nodes := get?_ofNodes
  children i spec h := by
    -- the specs of the children follow their parent in the preorder of the document
    have hbelow := Spec.children_prefix_drop (Spec.preorderAll_prefix_drop document.nodes h)
    have hchildren :
        (ofNodes document.nodes).scene.childIds i = Spec.numbers (i + 1) spec.children :=
      listsChildren_ofNodes i spec h
    refine ⟨hchildren, ?_⟩
    show ((ofNodes document.nodes).scene.childIds i).map _ = _
    rw [hchildren]
    exact Spec.map_numbers_getElem? hbelow
  parents i j := (sound_ofNodes document.nodes).forest.mem_childIds_iff.symm
  roots := by
    refine ⟨roots_ofNodes document.nodes, ?_⟩
    show (ofNodes document.nodes).scene.roots.map _ = _
    rw [roots_ofNodes]
    exact Spec.map_numbers_getElem? List.prefix_rfl
  mem_roots_iff := mem_roots_ofNodes_iff
  descendants i spec h := by
    have hprefix := Spec.preorderAll_prefix_drop document.nodes h
    have hforest := (sound_ofNodes document.nodes).forest
    have hlt : i < (ofNodes document.nodes).scene.size := by
      rw [size_ofNodes]
      exact (List.getElem?_eq_some_iff.mp h).1
    constructor
    · exact (Scene.descendants_of_lt hforest hlt).trans
        (Scene.below_of_prefix hforest listsChildren_ofNodes spec hprefix)
    · rw [← Spec.length_preorder spec]
      exact (List.prefix_iff_eq_take.mp hprefix).symm
  artwork i := by
    have hlookup : (ofNodes document.nodes).artwork.lookup i = (document.specs[i]?).bind Spec.svg :=
      lookup_artwork_ofNodes i
    cases hsvg : (document.specs[i]?).bind Spec.svg with
    | some svg => simp [source, hlookup, hsvg]
    | none => simp [source, hlookup, hsvg]
  root key := by
    have hkey : (ofNodes document.nodes).scene.findKey? key =
        document.specs.findIdx? (·.node.key == key) := by
      have hget (i : Nat) :
          (ofNodes document.nodes).scene.get? i = (document.specs.map Spec.node)[i]? := by
        rw [get?_ofNodes, List.getElem?_map]
        rfl
      rw [Scene.findKey?_eq hget, List.findIdx?_map]
      rfl
    cases hfound : document.specs.findIdx? (·.node.key == key) with
    | some i => simp [Snapshot.root, hkey, hfound]
    | none => simp [Snapshot.root, hkey, hfound]

/-! ### Images -/

/-- Either all images are decoded, or the first one that cannot be decoded is the error. -/
theorem decodeImages_cases (images : List (String × String)) :
    (∃ decoded, decodeImages images = .ok decoded ∧
        ∀ image ∈ images, ∃ bytes, Base64.decodeImage image.2 = .ok bytes) ∨
      ∃ image ∈ images, ∃ fault, Base64.decodeImage image.2 = .error fault ∧
        decodeImages images = .error (.image image.1 fault) := by
  induction images with
  | nil => exact Or.inl ⟨[], rfl, fun _ h => absurd h List.not_mem_nil⟩
  | cons image images ih =>
    obtain ⟨hash, text⟩ := image
    cases htext : Base64.decodeImage text with
    | error fault =>
      refine Or.inr ⟨(hash, text), List.mem_cons_self, fault, htext, ?_⟩
      rw [decodeImages, htext]
    | ok bytes =>
      rcases ih with ⟨decoded, hdecoded, hall⟩ | ⟨image, hmem, fault, hfault, herror⟩
      · refine Or.inl ⟨(hash, bytes) :: decoded, ?_,
          List.forall_mem_cons.mpr ⟨⟨bytes, htext⟩, hall⟩⟩
        rw [decodeImages, htext, hdecoded]
        rfl
      · refine Or.inr ⟨image, List.mem_cons_of_mem _ hmem, fault, hfault, ?_⟩
        rw [decodeImages, htext, herror]
        rfl

/-- **Snapshots.** The snapshot of a text is that of the document in it. If all images of a document
can be decoded, there is a snapshot, and it is faithful: nodes, links, roots, artwork and selections
are those of the document. If an image cannot be decoded, there is none, and the error tells the
hash of such an image. -/
theorem ofDocument_faithful (document : Document) :
    (∀ text, Document.read text = .ok document → read text = ofDocument document) ∧
      ((∀ image ∈ document.images, ∃ bytes, Base64.decodeImage image.2 = .ok bytes) →
        ∃ a, ofDocument document = .ok a ∧ a.Faithful document) ∧
      ((∃ image ∈ document.images, ∃ fault, Base64.decodeImage image.2 = .error fault) →
        ∃ image ∈ document.images, ∃ fault, Base64.decodeImage image.2 = .error fault ∧
          ofDocument document = .error (.image image.1 fault)) := by
  refine ⟨fun text htext => ?_, fun hall => ?_, fun hsome => ?_⟩
  · rw [read, htext]
  · rcases decodeImages_cases document.images with
      ⟨decoded, hdecoded, -⟩ | ⟨image, hmem, fault, hfault, -⟩
    · refine ⟨_, ?_, faithful_ofNodes document decoded⟩
      rw [ofDocument, hdecoded]
      rfl
    · obtain ⟨bytes, hbytes⟩ := hall image hmem
      rw [hbytes] at hfault
      cases hfault
  · rcases decodeImages_cases document.images with
      ⟨decoded, -, hall⟩ | ⟨image, hmem, fault, hfault, herror⟩
    · obtain ⟨image, hmem, fault, hfault⟩ := hsome
      obtain ⟨bytes, hbytes⟩ := hall image hmem
      rw [hbytes] at hfault
      cases hfault
    · refine ⟨image, hmem, fault, hfault, ?_⟩
      rw [ofDocument, herror]
      rfl

end Snapshot

end Viewsmith
