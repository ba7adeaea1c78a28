import Mathlib.Tactic.ByContra
import Mathlib.Tactic.SplitIfs
import Viewsmith.Scene.Layer

/-!
# Scenes are forests

The links of a scene describe a forest: the lists of children and the links to parents say the same,
a child has a higher number than its parent, and no list names a child twice. Every scene that is
built by adding nodes is one. In a forest the layer of a node is cut out exactly: below it stand the
layers of all its children, in order.

## Main definitions

* `Scene.IsForest`: the links of a scene describe a forest.
* `Scene.Built`: the scenes that are built node by node.

## Main statements

* `Scene.Built.isForest`: every scene that is built node by node is a forest.
* `Scene.layer?_of_get?`, `Scene.get?_of_layer?`: the layer of a node of a forest.
-/

namespace Viewsmith

namespace Scene

/-- The links of a scene describe a forest. -/
structure IsForest (s : Scene) : Prop where
  /-- The lists of children and the links to parents say the same. -/
  mem_childIds_iff : ∀ {parent child : Nat},
    child ∈ s.childIds parent ↔ s.parentId? child = some parent
  /-- A child has a higher number than its parent. -/
  parent_lt : ∀ {parent child : Nat}, s.parentId? child = some parent → parent < child
  /-- No list names a child twice. -/
  nodup_childIds : ∀ id : Nat, (s.childIds id).Nodup

/-- The scenes that are built node by node. A parent may be unknown; only the number that the new
node itself will get is not given as its parent. -/
inductive Built : Scene → Prop
  | empty : Built {}
  | addRoot {s : Scene} (h : Built s) (node : Node) : Built (s.addRoot node)
  | addChild {s : Scene} (h : Built s) {parent : Nat} (hp : parent ≠ s.size) (node : Node) :
      Built (s.addChild parent node)
  | modify {s : Scene} (h : Built s) (id : Nat) (f : Node → Node) : Built (s.modify id f)

/-! ### The slots after an operation -/

/-- A number that is not given to a node has no slot. -/
theorem slot?_eq_none_of_size_le {s : Scene} {id : Nat} (h : s.size ≤ id) : s.slot? id = none :=
  Array.getElem?_eq_none h

/-- A number with a slot is one of a node. -/
theorem lt_size_of_slot? {s : Scene} {id : Nat} {slot : Slot} (h : s.slot? id = some slot) :
    id < s.size := by
  by_contra hn
  rw [slot?_eq_none_of_size_le (Nat.le_of_not_lt hn)] at h
  cases h

/-- A node that is added at the top gets the next number, and no other slot changes. -/
theorem slot?_addRoot (s : Scene) (node : Node) (id : Nat) :
    (s.addRoot node).slot? id = if id = s.size then some { node } else s.slot? id :=
  Array.getElem?_push

/-- Changing a node keeps its links, and all other slots. -/
theorem slot?_modify (s : Scene) (id : Nat) (f : Node → Node) (other : Nat) :
    (s.modify id f).slot? other =
      (s.slot? other).map fun slot =>
        if id = other then { slot with node := f slot.node } else slot := by
  show (s.slots.modify id _)[other]? = _
  rw [Array.getElem?_modify]
  by_cases h : id = other
  · simp [h, slot?]
  · simp [h, slot?]

/-- Changing a node leaves the other nodes as they are. -/
theorem get?_modify (s : Scene) (id : Nat) (f : Node → Node) (other : Nat) :
    (s.modify id f).get? other =
      (s.get? other).map fun node => if id = other then f node else node := by
  unfold get?
  rw [slot?_modify, Option.map_map, Option.map_map]
  congr 1
  funext slot
  by_cases h : id = other <;> simp [h]

/-- A node that is added below another gets the next number, and is listed at its parent, also if
that is the node itself. -/
theorem slot?_addChild (s : Scene) (parent : Nat) (node : Node) (id : Nat) :
    (s.addChild parent node).slot? id =
      (if id = s.size then some { node, parent := if parent < s.size then some parent else none }
        else s.slot? id).map fun slot =>
          if parent = id then { slot with children := slot.children ++ [s.size] } else slot := by
  show ((s.slots.push _).modify parent _)[id]? = _
  rw [Array.getElem?_modify, Array.getElem?_push]
  by_cases h : parent = id
  · simp only [if_pos h]
    rfl
  · simp only [if_neg h, Option.map_id_fun']
    rfl

/-! ### The links after an operation -/

/-- Nothing is listed below a number that is not given to a node. -/
theorem childIds_eq_nil_of_size_le {s : Scene} {id : Nat} (h : s.size ≤ id) :
    s.childIds id = [] := by
  unfold childIds
  rw [slot?_eq_none_of_size_le h]
  rfl

/-- A node that is added at the top is listed nowhere. -/
theorem childIds_addRoot (s : Scene) (node : Node) (id : Nat) :
    (s.addRoot node).childIds id = s.childIds id := by
  by_cases h : id = s.size
  · rw [childIds_eq_nil_of_size_le (Nat.le_of_eq h.symm)]
    simp [childIds, slot?_addRoot, h]
  · simp [childIds, slot?_addRoot, h]

/-- A node that is added at the top has no parent, and no other parent changes. -/
theorem parentId?_addRoot (s : Scene) (node : Node) (id : Nat) :
    (s.addRoot node).parentId? id = s.parentId? id := by
  by_cases h : id = s.size
  · simp [parentId?, slot?_addRoot, h, slot?_eq_none_of_size_le (Nat.le_refl s.size)]
  · simp [parentId?, slot?_addRoot, h]

/-- Changing a node changes no list of children. -/
theorem childIds_modify (s : Scene) (id : Nat) (f : Node → Node) (other : Nat) :
    (s.modify id f).childIds other = s.childIds other := by
  unfold childIds
  rw [slot?_modify, Option.map_map]
  congr 2
  funext slot
  by_cases h : id = other <;> simp [h]

/-- Changing a node changes no parent. -/
theorem parentId?_modify (s : Scene) (id : Nat) (f : Node → Node) (other : Nat) :
    (s.modify id f).parentId? other = s.parentId? other := by
  unfold parentId?
  rw [slot?_modify]
  cases s.slot? other with
  | none => rfl
  | some slot => by_cases h : id = other <;> simp [h]

/-- A node that is added below a known one is listed last there; nothing else is listed anew. -/
theorem childIds_addChild (s : Scene) {parent : Nat} (hp : parent ≠ s.size) (node : Node)
    (id : Nat) :
    (s.addChild parent node).childIds id =
      if id = parent ∧ parent < s.size then s.childIds id ++ [s.size] else s.childIds id := by
  unfold childIds
  rw [slot?_addChild]
  by_cases hid : id = s.size
  · subst hid
    simp [hp, Ne.symm hp, slot?_eq_none_of_size_le (Nat.le_refl s.size)]
  · rw [if_neg hid]
    cases hs : s.slot? id with
    | none =>
      have hlt : ¬ (id = parent ∧ parent < s.size) := by
        rintro ⟨rfl, hlt⟩
        rw [slot?, Array.getElem?_eq_getElem hlt] at hs
        cases hs
      simp [hlt]
    | some slot =>
      have hlt := lt_size_of_slot? hs
      by_cases he : id = parent
      · subst he
        simp [hlt]
      · simp [he, Ne.symm he]

/-- The parent of a new node is the given one, if that was known before. -/
theorem parentId?_addChild (s : Scene) {parent : Nat} (node : Node) (id : Nat) :
    (s.addChild parent node).parentId? id =
      if id = s.size then (if parent < s.size then some parent else none) else s.parentId? id := by
  unfold parentId?
  rw [slot?_addChild]
  by_cases hid : id = s.size
  · subst hid
    by_cases he : parent = s.size <;> simp [he]
  · rw [if_neg hid, if_neg hid]
    cases s.slot? id with
    | none => rfl
    | some slot => by_cases he : parent = id <;> simp [he]

/-! ### Built scenes -/

/-- The scene without nodes is a forest. -/
theorem isForest_empty : IsForest {} where
  mem_childIds_iff := by simp [childIds, parentId?, slot?]
  parent_lt := by simp [parentId?, slot?]
  nodup_childIds := by simp [childIds, slot?]

namespace IsForest

variable {s : Scene}

/-- A node with a parent is known. -/
theorem lt_size_of_parent {parent child : Nat} (h : s.parentId? child = some parent) :
    child < s.size := by
  unfold parentId? at h
  cases hs : s.slot? child with
  | none => rw [hs] at h; cases h
  | some slot => exact lt_size_of_slot? hs

/-- A child is known and has a higher number. -/
theorem child_lt (h : s.IsForest) {id child : Nat} (hc : child ∈ s.childIds id) :
    id < child ∧ child < s.size := by
  have hp := h.mem_childIds_iff.mp hc
  exact ⟨h.parent_lt hp, lt_size_of_parent hp⟩

/-- Adding a node at the top keeps a forest. -/
theorem addRoot (h : s.IsForest) (node : Node) : (s.addRoot node).IsForest where
  mem_childIds_iff := by
    intro parent child
    rw [childIds_addRoot, parentId?_addRoot]
    exact h.mem_childIds_iff
  parent_lt := by
    intro parent child hp
    rw [parentId?_addRoot] at hp
    exact h.parent_lt hp
  nodup_childIds id := by
    rw [childIds_addRoot]
    exact h.nodup_childIds id

/-- Changing a node keeps a forest. -/
theorem modify (h : s.IsForest) (id : Nat) (f : Node → Node) : (s.modify id f).IsForest where
  mem_childIds_iff := by
    intro parent child
    rw [childIds_modify, parentId?_modify]
    exact h.mem_childIds_iff
  parent_lt := by
    intro parent child hp
    rw [parentId?_modify] at hp
    exact h.parent_lt hp
  nodup_childIds other := by
    rw [childIds_modify]
    exact h.nodup_childIds other

/-- Adding a node below another number than its own keeps a forest. -/
theorem addChild (h : s.IsForest) {parent : Nat} (hp : parent ≠ s.size) (node : Node) :
    (s.addChild parent node).IsForest where
  mem_childIds_iff := by
    intro id child
    rw [childIds_addChild s hp, parentId?_addChild]
    -- the number of the new node was listed nowhere
    have hnew : s.size ∉ s.childIds id := fun hm => absurd (h.child_lt hm).2 (Nat.lt_irrefl _)
    by_cases hc : child = s.size
    · subst hc
      by_cases hi : id = parent ∧ parent < s.size
      · rw [if_pos hi, if_pos rfl, if_pos hi.2, hi.1]
        simp
      · rw [if_neg hi, if_pos rfl]
        constructor
        · exact fun hm => absurd hm hnew
        · intro he
          split_ifs at he with hlt
          cases he
          exact absurd ⟨rfl, hlt⟩ hi
    · rw [if_neg hc, ← h.mem_childIds_iff]
      split_ifs with hi
      · simp [hc]
      · exact Iff.rfl
  parent_lt := by
    intro id child he
    rw [parentId?_addChild] at he
    split_ifs at he with hc hlt
    · cases he
      omega
    · exact h.parent_lt he
  nodup_childIds id := by
    rw [childIds_addChild s hp]
    split_ifs with hi
    · rw [List.nodup_append]
      refine ⟨h.nodup_childIds id, by simp, fun a ha b hb hab => ?_⟩
      have hlt := (h.child_lt ha).2
      rw [hab, List.mem_singleton.mp hb] at hlt
      exact Nat.lt_irrefl _ hlt
    · exact h.nodup_childIds id

end IsForest

/-- Every scene that is built node by node is a forest. -/
theorem Built.isForest {s : Scene} (h : Built s) : s.IsForest := by
  induction h with
  | empty => exact isForest_empty
  | addRoot _ node ih => exact ih.addRoot node
  | addChild _ hp node ih => exact ih.addChild hp node
  | modify _ id f ih => exact ih.modify id f

/-! ### Layers -/

/-- The layer of a number is cut out of its slot, if there is one. -/
theorem layer?_eq_dite (s : Scene) (id : Nat) :
    s.layer? id = if h : id < s.slots.size then some (s.layerOf id s.slots[id]) else none := by
  unfold layer? slot?
  by_cases h : id < s.slots.size
  · rw [dif_pos h, Array.getElem?_eq_getElem h, Option.map_some]
  · rw [dif_neg h, Array.getElem?_eq_none (Nat.le_of_not_lt h), Option.map_none]

/-- The layer of a slot stands on the layers of its children that have higher numbers. -/
theorem layerOf_eq (s : Scene) (id : Nat) (slot : Slot) :
    s.layerOf id slot =
      .mk id slot.node (slot.children.filterMap fun child =>
        if id < child then s.layer? child else none) := by
  rw [layerOf]
  congr 2
  funext child
  rw [layer?_eq_dite]
  by_cases h : id < child
  · rw [dif_pos h, if_pos h]
  · rw [dif_neg h, if_neg h]

/-- The layer of a node stands on the layers of its children that have higher numbers. -/
theorem eq_of_layer? {s : Scene} {id i : Nat} {node : Node} {layers : List Layer}
    (h : s.layer? id = some (.mk i node layers)) :
    i = id ∧ s.get? id = some node ∧
      layers = (s.childIds id).filterMap fun child =>
        if id < child then s.layer? child else none := by
  obtain ⟨slot, hslot, hlayer⟩ := Option.map_eq_some_iff.mp h
  rw [layerOf_eq] at hlayer
  cases hlayer
  refine ⟨rfl, by rw [get?, hslot]; rfl, ?_⟩
  rw [childIds, hslot]
  rfl

/-- If every number of a list has a layer and passes a test, the test leaves out none of them. -/
theorem map_layer?_filterMap {s : Scene} {p : Nat → Prop} [DecidablePred p] {ids : List Nat}
    (h : ∀ id ∈ ids, p id ∧ id < s.size) :
    ids.map s.layer? = (ids.filterMap fun id => if p id then s.layer? id else none).map some := by
  induction ids with
  | nil => rfl
  | cons id ids ih =>
    obtain ⟨hp, hlt⟩ := h id List.mem_cons_self
    obtain ⟨layer, hsome⟩ : ∃ layer, s.layer? id = some layer :=
      ⟨_, (layer?_eq_dite s id).trans (dif_pos hlt)⟩
    rw [List.map_cons, List.filterMap_cons, if_pos hp, hsome, List.map_cons,
      ih fun other hm => h other (List.mem_cons_of_mem _ hm)]

/-- In a forest the layer of a node has the layers of all its children below it. -/
theorem layer?_of_get? {s : Scene} (hs : s.IsForest) {id : Nat} {node : Node}
    (h : s.get? id = some node) :
    ∃ layers, s.layer? id = some (.mk id node layers) ∧
      (s.childIds id).map s.layer? = layers.map some := by
  obtain ⟨slot, hslot, rfl⟩ := Option.map_eq_some_iff.mp h
  refine ⟨_, by rw [layer?, hslot, Option.map_some, layerOf_eq], ?_⟩
  have hc : s.childIds id = slot.children := by rw [childIds, hslot]; rfl
  rw [← hc]
  exact map_layer?_filterMap fun child hm => hs.child_lt hm

/-- The layer of a node of a forest, read backwards. -/
theorem get?_of_layer? {s : Scene} (hs : s.IsForest) {id i : Nat} {node : Node}
    {layers : List Layer} (h : s.layer? id = some (.mk i node layers)) :
    i = id ∧ s.get? id = some node ∧ (s.childIds id).map s.layer? = layers.map some := by
  obtain ⟨hi, hget, rfl⟩ := eq_of_layer? h
  exact ⟨hi, hget, map_layer?_filterMap fun child hm => hs.child_lt hm⟩

end Scene

end Viewsmith
