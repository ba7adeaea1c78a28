import Mathlib.Tactic.IntervalCases
import Viewsmith.Proofs.SceneBuilding

/-!
# The order of the nodes below

The walk over the nodes below keeps a stack and visits them in a loop. A recursion would visit a
node first, and then what is below each of its children, in their order. Both give the same list,
and this module says so of every scene that is built with known parents.

The recursion is stated as an equation that an assignment of lists to numbers satisfies. It has one
solution in a forest, and what the loop returns is that solution. The loop takes one step for every
node that it visits, and one for a number that is not known, and with fewer steps it does not end.

## Main definitions

* `Scene.IsPreorder`: the equation of the recursion.

## Main statements

* `Scene.walk_eq_none`: a walk does not end before it has visited all that lies below its stack.
* `Scene.isPreorder_descendants`, `Scene.IsPreorder.unique`: what the walk returns follows the
  recursion, and nothing else does.
* `Scene.descendants_ofAdditions`: the nodes below, in every scene that is built with known parents.
-/

namespace Viewsmith

namespace Scene

/-- An assignment of lists to numbers follows the recursion: the list of a node is the node and then
the lists of its children, in order, and the list of an unknown number is empty. -/
structure IsPreorder (s : Scene) (order : Nat → List Nat) : Prop where
  known : ∀ id < s.size, order id = id :: (s.childIds id).flatMap order
  unknown : ∀ id, s.size ≤ id → order id = []

section Forest

variable {s : Scene} (hs : s.IsForest)

include hs

/-- A walk does not end before it has visited all that lies at and below the numbers on its
stack. -/
theorem walk_eq_none {steps : Nat} {stack : List Nat} (h : steps < (stack.flatMap s.below).length)
    (seen : List Nat) : s.walk steps stack seen = none := by
  induction steps generalizing stack seen with
  | zero =>
    cases stack with
    | nil => simp at h
    | cons id stack => rfl
  | succ steps ih =>
    cases stack with
    | nil => simp at h
    | cons id stack =>
      rw [List.flatMap_cons, below_eq hs id, List.cons_append, List.length_cons,
        ← List.flatMap_append] at h
      rw [walk_succ_cons]
      exact ih (by omega) _

/-- What is below a node is what its children lead to. -/
theorem mem_below_iff {id n : Nat} :
    n ∈ s.below id ↔ Relation.ReflTransGen (fun parent child => child ∈ s.childIds parent) id n :=
  mem_preorder_iff hs fun _ => List.Sublist.refl _

/-- From a number that is not known the walk returns nothing. -/
theorem descendants_of_le {id : Nat} (h : s.size ≤ id) : s.descendants id = [] := by
  rw [descendants_eq_filter hs, below_eq hs, childIds_eq_nil_of_size_le h]
  simpa using h

/-- A walk from one number takes a step for every node that it visits, or one step if it visits
none. -/
theorem walk_singleton (id steps : Nat) :
    s.walk steps [id] [] =
      if max 1 (s.descendants id).length ≤ steps then some (s.descendants id) else none := by
  have hcost : ([id].flatMap s.below).length = max 1 (s.descendants id).length := by
    rw [List.flatMap_singleton]
    by_cases h : id < s.size
    · rw [descendants_of_lt hs h, below_eq hs, List.length_cons]
      omega
    · rw [descendants_of_le hs (by omega), below_eq hs, childIds_eq_nil_of_size_le (by omega)]
      rfl
  split_ifs with h
  · rw [walk_eq hs (by omega), descendants_eq_filter hs, List.flatMap_singleton]
    rfl
  · exact walk_eq_none hs (by omega) []

/-- In a forest the recursion determines all lists. -/
theorem IsPreorder.unique {order other : Nat → List Nat} (h : s.IsPreorder order)
    (h' : s.IsPreorder other) : order = other := by
  funext id
  induction id using hs.induction with
  | step id ih =>
    by_cases hid : id < s.size
    · rw [h.known id hid, h'.known id hid]
      congr 1
      exact List.flatMap_congr ih
    · rw [h.unknown id (by omega), h'.unknown id (by omega)]

/-- What the walk returns follows the recursion. -/
theorem isPreorder_descendants : s.IsPreorder s.descendants where
  known := by
    intro id hid
    rw [descendants_of_lt hs hid, below_eq hs]
    congr 1
    apply List.flatMap_congr
    intro child hc
    exact (descendants_of_lt hs (hs.child_lt hc).2).symm
  unknown := fun id hid => descendants_of_le hs hid

/-- The walk returns no node twice. -/
theorem nodup_descendants (id : Nat) : (s.descendants id).Nodup := by
  rw [descendants_eq_filter hs]
  exact (nodup_below hs id).filter _

/-- The walk from a known node returns what the children lead to. -/
theorem mem_descendants_iff {id n : Nat} :
    n ∈ s.descendants id ↔
      id < s.size ∧ Relation.ReflTransGen (fun parent child => child ∈ s.childIds parent) id n := by
  by_cases h : id < s.size
  · rw [descendants_of_lt hs h, mem_below_iff hs]
    simp [h]
  · rw [descendants_of_le hs (by omega)]
    simp [h]

end Forest

/-- **Nodes below.** Let a scene be built by calls whose parents are known when they are named. Then
the list of the nodes below is the only one that follows the recursion: the node, and then what is
below each child, in order, and nothing for an unknown number. The loop ends with this list after as
many steps as there are nodes in it, or after one step if there are none, and not before. Every node
that is reached through children is in the list once. -/
theorem descendants_ofAdditions (calls : List Addition)
    (hknown : ∀ j parent, namedParent? calls j = some parent → parent < j) :
    (∀ order, (ofAdditions calls).IsPreorder order ↔ order = (ofAdditions calls).descendants) ∧
      ∀ id,
        (∀ steps, (ofAdditions calls).walk steps [id] [] =
          if max 1 ((ofAdditions calls).descendants id).length ≤ steps then
            some ((ofAdditions calls).descendants id)
          else none) ∧
        ((ofAdditions calls).descendants id).Nodup ∧
        ∀ n, n ∈ (ofAdditions calls).descendants id ↔
          id < calls.length ∧
            Relation.ReflTransGen
              (fun parent child => child ∈ (ofAdditions calls).childIds parent) id n := by
  have hs : (ofAdditions calls).IsForest :=
    isForest_ofAdditions fun j hj => Nat.lt_irrefl j (hknown j j hj)
  refine ⟨fun order => ⟨fun h => h.unique hs (isPreorder_descendants hs), ?_⟩,
    fun id => ⟨walk_singleton hs id, nodup_descendants hs id, fun n => ?_⟩⟩
  · rintro rfl
    exact isPreorder_descendants hs
  · rw [mem_descendants_iff hs, size_ofAdditions]

/-- A root with a group, a leaf in the group, and a sibling of the group that is added last. -/
def nestedCalls : List Addition :=
  [.root { kind := .frame }, .child 0 { kind := .group }, .child 1 { kind := .rectangle },
    .child 0 { kind := .text }]

/-- The leaf comes before the sibling of its group. The loop takes four steps from the root, and one
from a number that is not known. -/
theorem descendants_ofAdditions_nested :
    (∀ j parent, namedParent? nestedCalls j = some parent → parent < j) ∧
      (ofAdditions nestedCalls).descendants 0 = [0, 1, 2, 3] ∧
      (ofAdditions nestedCalls).IsPreorder (ofAdditions nestedCalls).descendants ∧
      (ofAdditions nestedCalls).walk 3 [0] [] = none ∧
      (ofAdditions nestedCalls).walk 4 [0] [] = some [0, 1, 2, 3] ∧
      (ofAdditions nestedCalls).walk 1 [7] [] = some [] := by
  have hknown : ∀ j parent, namedParent? nestedCalls j = some parent → parent < j := by
    intro j parent h
    have hj : j < 4 := lt_length_of_namedParent? h
    interval_cases j <;> cases h <;> decide
  obtain ⟨horder, hids⟩ := descendants_ofAdditions nestedCalls hknown
  have hroot : (ofAdditions nestedCalls).descendants 0 = [0, 1, 2, 3] := rfl
  have hunknown : (ofAdditions nestedCalls).descendants 7 = [] := rfl
  refine ⟨hknown, hroot, (horder _).mpr rfl, ?_, ?_, ?_⟩
  · rw [(hids 0).1, hroot]
    rfl
  · rw [(hids 0).1, hroot]
    rfl
  · rw [(hids 7).1, hunknown]
    rfl

end Scene

end Viewsmith
