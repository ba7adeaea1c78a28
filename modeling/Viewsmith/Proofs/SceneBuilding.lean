import Mathlib.Data.List.Induction
import Mathlib.Data.List.Perm.Subperm
import Mathlib.Data.List.Range
import Viewsmith.Proofs.Reach

/-!
# Scenes built call by call

A scene is built by adding nodes, each at the top or below the number of another node. This module
reads the links of the result off the list of calls. Below node `i` stand the later calls that name
`i` as their parent, and the parent of node `j` is the one that its call names, if that was known
then.

One number is treated as known and as unknown at once: that of the new node itself. It is no parent
when the call is made, but by the time the child is listed the node is there, and so it is listed as
a child of its own. A scene is linked as it should be if and only if no call names its own number;
otherwise the walk over the nodes below never ends.

## Main definitions

* `Addition`, `Scene.ofAdditions`: the calls, and the scene that they build.
* `Scene.WellLinked`: what the links of a scene should say.
* `Scene.below`: a node and all nodes below it, each before those below it.

## Main statements

* `Scene.parentId?_ofAdditions`, `Scene.childIds_ofAdditions`: the links, read off the calls.
* `Scene.walk_eq`, `Scene.descendants_of_lt`: in a forest the walk ends, and it visits what lies
  below.
* `Scene.wellLinked_iff_no_own_parent`: which calls build well-linked scenes, and what the others
  build.
-/

namespace Viewsmith

/-- A call that adds a node to a scene. -/
inductive Addition where
  | root (node : Node)
  | child (parent : Nat) (node : Node)

namespace Addition

/-- The node that is added. -/
def node : Addition → Node
  | .root node => node
  | .child _ node => node

/-- The number that is given as the parent. -/
def parent? : Addition → Option Nat
  | .root _ => none
  | .child parent _ => some parent

end Addition

/-- The number that the call at a position gives as the parent. -/
def namedParent? (calls : List Addition) (j : Nat) : Option Nat := calls[j]?.bind Addition.parent?

namespace Scene

/-- Make a call. -/
def add (s : Scene) : Addition → Scene
  | .root node => s.addRoot node
  | .child parent node => s.addChild parent node

/-- The scene that a list of calls builds. -/
def ofAdditions (calls : List Addition) : Scene := calls.foldl add {}

/-- The links of the scene that a list of calls builds are those of a forest, and they are the ones
that the calls ask for. -/
structure WellLinked (calls : List Addition) (s : Scene) : Prop where
  /-- A node is listed once below its parent, -/
  count_eq_one_iff : ∀ i j, (s.childIds i).count j = 1 ↔ s.parentId? j = some i
  /-- and nowhere else. -/
  count_eq_zero_iff : ∀ i j, (s.childIds i).count j = 0 ↔ s.parentId? j ≠ some i
  parent_lt : ∀ i j, s.parentId? j = some i → i < j
  /-- A number that is known when it is named becomes the parent, -/
  attached : ∀ j i, namedParent? calls j = some i → i < j → s.parentId? j = some i
  /-- and one that is not leaves the node detached. -/
  detached : ∀ j i, namedParent? calls j = some i → j ≤ i →
    s.parentId? j = none ∧ ∀ other, j ∉ s.childIds other
  /-- No node lies below itself. -/
  acyclic : ∀ i, ¬ Relation.TransGen (fun parent child => child ∈ s.childIds parent) i i
  /-- Every recursion over children ends, -/
  wellFounded : WellFounded fun child parent => child ∈ s.childIds parent
  /-- and so does the walk over the nodes below. -/
  walk_ends : ∀ id, ∃ ids, s.walk (s.size + 1) [id] [] = some ids

/-! ### The links, read off the calls -/

/-- One more call is made on the scene that the earlier ones built. -/
theorem ofAdditions_concat (calls : List Addition) (call : Addition) :
    ofAdditions (calls ++ [call]) = (ofAdditions calls).add call := by
  unfold ofAdditions
  rw [List.foldl_append]
  rfl

/-- A call adds one node. -/
theorem size_add (s : Scene) (call : Addition) : (s.add call).size = s.size + 1 := by
  cases call with
  | root node => exact Array.size_push _
  | child parent node => exact (Array.size_modify ..).trans (Array.size_push _)

/-- There are as many nodes as calls. -/
theorem size_ofAdditions (calls : List Addition) : (ofAdditions calls).size = calls.length := by
  induction calls using List.reverseRecOn with
  | nil => rfl
  | append_singleton calls call ih =>
    rw [ofAdditions_concat, size_add, ih, List.length_append, List.length_singleton]

/-- The last call is the one at the position after the others. -/
theorem getElem?_concat (calls : List Addition) (call : Addition) (j : Nat) :
    (calls ++ [call])[j]? = if j = calls.length then some call else calls[j]? := by
  rw [List.getElem?_append]
  by_cases hlt : j < calls.length
  · rw [if_pos hlt, if_neg (Nat.ne_of_lt hlt)]
  · rw [if_neg hlt, List.getElem?_singleton]
    by_cases heq : j = calls.length
    · rw [if_pos heq, if_pos (by omega)]
    · rw [if_neg heq, if_neg (by omega), List.getElem?_eq_none (by omega)]

/-- One more call names its own parent, and the others name theirs as before. -/
theorem namedParent?_concat (calls : List Addition) (call : Addition) (j : Nat) :
    namedParent? (calls ++ [call]) j =
      if j = calls.length then call.parent? else namedParent? calls j := by
  unfold namedParent?
  rw [getElem?_concat]
  split <;> rfl

/-- Only a call names a parent. -/
theorem lt_length_of_namedParent? {calls : List Addition} {j i : Nat}
    (h : namedParent? calls j = some i) : j < calls.length := by
  obtain ⟨call, hcall, -⟩ := Option.bind_eq_some_iff.mp h
  exact (List.getElem?_eq_some_iff.mp hcall).1

/-- The new node has the next number, and the others stay. -/
theorem get?_add (s : Scene) (call : Addition) (i : Nat) :
    (s.add call).get? i = if i = s.size then some call.node else s.get? i := by
  cases call with
  | root node =>
    unfold get? add
    rw [slot?_addRoot]
    split <;> rfl
  | child parent node =>
    unfold get? add
    rw [slot?_addChild, Option.map_map]
    by_cases hi : i = s.size
    · rw [if_pos hi, if_pos hi]
      by_cases hp : parent = i <;> simp [hp, Addition.node]
    · rw [if_neg hi, if_neg hi]
      congr 1
      funext slot
      by_cases hp : parent = i <;> simp [hp]

/-- Nodes are numbered in the order of the calls. -/
theorem get?_ofAdditions (calls : List Addition) (i : Nat) :
    (ofAdditions calls).get? i = calls[i]?.map Addition.node := by
  induction calls using List.reverseRecOn with
  | nil => rfl
  | append_singleton calls call ih =>
    rw [ofAdditions_concat, get?_add, size_ofAdditions, getElem?_concat, ih]
    split <;> rfl

/-- The new node gets the parent that its call names, if that is known already. -/
theorem parentId?_add (s : Scene) (call : Addition) (j : Nat) :
    (s.add call).parentId? j =
      if j = s.size then call.parent?.filter (· < s.size) else s.parentId? j := by
  cases call with
  | root node =>
    show (s.addRoot node).parentId? j = _
    rw [parentId?_addRoot]
    by_cases hj : j = s.size
    · rw [if_pos hj, hj, parentId?, slot?_eq_none_of_size_le (Nat.le_refl _)]
      rfl
    · rw [if_neg hj]
  | child parent node =>
    show (s.addChild parent node).parentId? j = _
    rw [parentId?_addChild]
    by_cases hp : parent < s.size <;> simp [Addition.parent?, Option.filter_some, hp]

/-- The parent of a node is the one that its call names, if that was known then. -/
theorem parentId?_ofAdditions (calls : List Addition) (j : Nat) :
    (ofAdditions calls).parentId? j = (namedParent? calls j).filter (· < j) := by
  induction calls using List.reverseRecOn with
  | nil => rfl
  | append_singleton calls call ih =>
    rw [ofAdditions_concat, parentId?_add, size_ofAdditions, namedParent?_concat, ih]
    by_cases hj : j = calls.length
    · rw [if_pos hj, if_pos hj, hj]
    · rw [if_neg hj, if_neg hj]

/-- The new node is listed below the number that is given as its parent, also if that is its own. -/
theorem childIds_add (s : Scene) (call : Addition) (i : Nat) :
    (s.add call).childIds i =
      if call.parent? = some i ∧ i ≤ s.size then s.childIds i ++ [s.size] else s.childIds i := by
  cases call with
  | root node => exact (childIds_addRoot s node i).trans (by simp [Addition.parent?])
  | child parent node =>
    show (s.addChild parent node).childIds i = _
    by_cases hp : parent = s.size
    · subst hp
      unfold childIds
      rw [slot?_addChild]
      by_cases hi : i = s.size
      · subst hi
        simp [Addition.parent?, slot?_eq_none_of_size_le (Nat.le_refl s.size)]
      · rw [if_neg hi]
        cases s.slot? i <;> simp [Addition.parent?, Ne.symm hi]
    · rw [childIds_addChild s hp]
      have hiff : (i = parent ∧ parent < s.size) ↔
          ((Addition.child parent node).parent? = some i ∧ i ≤ s.size) := by
        simp only [Addition.parent?, Option.some.injEq]
        omega
      simp only [hiff]

/-- The children of a node are the later calls, its own among them, that name it as their parent. -/
theorem childIds_ofAdditions (calls : List Addition) (i : Nat) :
    (ofAdditions calls).childIds i =
      (List.range calls.length).filter fun j => i ≤ j ∧ namedParent? calls j = some i := by
  induction calls using List.reverseRecOn with
  | nil => rfl
  | append_singleton calls call ih =>
    have hearlier : (List.range calls.length).filter
          (fun j => i ≤ j ∧ namedParent? (calls ++ [call]) j = some i) =
        (List.range calls.length).filter fun j => i ≤ j ∧ namedParent? calls j = some i := by
      apply List.filter_congr
      intro j hj
      rw [namedParent?_concat, if_neg (Nat.ne_of_lt (List.mem_range.mp hj))]
    rw [ofAdditions_concat, childIds_add, size_ofAdditions, ih, List.length_append,
      List.length_singleton, List.range_succ, List.filter_append, hearlier, List.filter_singleton,
      namedParent?_concat, if_pos rfl]
    by_cases h : call.parent? = some i ∧ i ≤ calls.length
    · simp [h]
    · rw [if_neg h]
      have hn : ¬ (i ≤ calls.length ∧ call.parent? = some i) := fun h' => h h'.symm
      simp [hn]

/-- A node that is added at the top becomes the last root. -/
theorem roots_add (s : Scene) (call : Addition) :
    (s.add call).roots = if call.parent? = none then s.roots ++ [s.size] else s.roots := by
  cases call <;> rfl

/-- The roots are the nodes that were added at the top, in order. -/
theorem roots_ofAdditions (calls : List Addition) :
    (ofAdditions calls).roots =
      (List.range calls.length).filter fun j => namedParent? calls j = none := by
  induction calls using List.reverseRecOn with
  | nil => rfl
  | append_singleton calls call ih =>
    have hearlier : (List.range calls.length).filter
          (fun j => namedParent? (calls ++ [call]) j = none) =
        (List.range calls.length).filter fun j => namedParent? calls j = none := by
      apply List.filter_congr
      intro j hj
      rw [namedParent?_concat, if_neg (Nat.ne_of_lt (List.mem_range.mp hj))]
    rw [ofAdditions_concat, roots_add, size_ofAdditions, ih, List.length_append,
      List.length_singleton, List.range_succ, List.filter_append, hearlier, List.filter_singleton,
      namedParent?_concat, if_pos rfl]
    by_cases h : call.parent? = none <;> simp [h]

/-- A node is listed below the number that its call names, if that is not higher than its own. -/
theorem mem_childIds_ofAdditions {calls : List Addition} {i j : Nat} :
    j ∈ (ofAdditions calls).childIds i ↔ i ≤ j ∧ namedParent? calls j = some i := by
  rw [childIds_ofAdditions, List.mem_filter, List.mem_range, decide_eq_true_eq]
  exact ⟨fun h => h.2, fun h => ⟨lt_length_of_namedParent? h.2, h⟩⟩

/-- No node is listed twice below the same one, whatever the calls. -/
theorem nodup_childIds_ofAdditions (calls : List Addition) (i : Nat) :
    ((ofAdditions calls).childIds i).Nodup := by
  rw [childIds_ofAdditions]
  exact List.nodup_range.filter _

/-- A node has a parent if its call names a lower number. -/
theorem parentId?_ofAdditions_eq_some {calls : List Addition} {i j : Nat} :
    (ofAdditions calls).parentId? j = some i ↔ namedParent? calls j = some i ∧ i < j := by
  rw [parentId?_ofAdditions, Option.filter_eq_some_iff, decide_eq_true_eq]

/-- Calls that do not name their own numbers build a forest. -/
theorem isForest_ofAdditions {calls : List Addition} (h : ∀ j, namedParent? calls j ≠ some j) :
    (ofAdditions calls).IsForest where
  mem_childIds_iff := by
    intro i j
    rw [mem_childIds_ofAdditions, parentId?_ofAdditions_eq_some]
    constructor
    · rintro ⟨hle, hnamed⟩
      refine ⟨hnamed, Nat.lt_of_le_of_ne hle ?_⟩
      rintro rfl
      exact h i hnamed
    · rintro ⟨hnamed, hlt⟩
      exact ⟨Nat.le_of_lt hlt, hnamed⟩
  parent_lt := fun hp => (parentId?_ofAdditions_eq_some.mp hp).2
  nodup_childIds := nodup_childIds_ofAdditions calls

/-! ### Walks in a forest -/

/-- A node and all nodes below it, each before those below it. A node that is listed below itself is
passed over there. -/
def below (s : Scene) (id : Nat) : List Nat := s.preorder s.childIds id

/-- A step takes a number off the stack and puts its children on. -/
theorem walk_succ_cons (s : Scene) (steps id : Nat) (stack seen : List Nat) :
    s.walk (steps + 1) (id :: stack) seen =
      s.walk steps (s.childIds id ++ stack) (if id < s.size then id :: seen else seen) := by
  rw [walk, childIds]
  cases hslot : s.slot? id with
  | some slot => simp [lt_size_of_slot? hslot]
  | none =>
    have hle : ¬ id < s.size := by
      intro hlt
      rw [slot?, Array.getElem?_eq_getElem hlt] at hslot
      cases hslot
    simp [hle]

section Forest

variable {s : Scene} (hs : s.IsForest)

include hs

/-- In a forest a node comes before what is below its children. -/
theorem below_eq (id : Nat) : s.below id = id :: (s.childIds id).flatMap s.below :=
  preorder_eq hs (fun _ => List.Sublist.refl _) id

/-- From a node below another a way leads up to it. -/
theorem up_of_mem_below {id n : Nat} (h : n ∈ s.below id) : Relation.ReflTransGen s.Up n id :=
  up_of_mem_preorder hs (fun _ => List.Sublist.refl _) h

/-- No node lies below another in two ways. -/
theorem nodup_below (id : Nat) : (s.below id).Nodup :=
  nodup_preorder hs (fun _ => List.Sublist.refl _) id

/-- What is below a number is the number itself or a node of the scene. -/
theorem lt_size_of_mem_below {id n : Nat} (h : n ∈ s.below id) : n = id ∨ n < s.size := by
  rcases Relation.ReflTransGen.cases_head (up_of_mem_below hs h) with rfl | ⟨parent, hp, -⟩
  · exact Or.inl rfl
  · exact Or.inr (IsForest.lt_size_of_parent hp)

/-- A number has at most itself and every node below it. -/
theorem length_below_le (id : Nat) : (s.below id).length ≤ s.size + 1 := by
  have hsub : s.below id ⊆ id :: List.range s.size := by
    intro n hn
    rcases lt_size_of_mem_below hs hn with rfl | hlt
    · exact List.mem_cons_self
    · exact List.mem_cons_of_mem _ (List.mem_range.mpr hlt)
  calc (s.below id).length ≤ (id :: List.range s.size).length :=
        (List.subperm_of_subset (nodup_below hs id) hsub).length_le
    _ = s.size + 1 := by rw [List.length_cons, List.length_range]

/-- The walk visits the known nodes at and below those on the stack, each before those below it. -/
theorem walk_eq {steps : Nat} {stack : List Nat} (h : (stack.flatMap s.below).length ≤ steps)
    (seen : List Nat) :
    s.walk steps stack seen =
      some (seen.reverse ++ (stack.flatMap s.below).filter (· < s.size)) := by
  induction steps generalizing stack seen with
  | zero =>
    cases stack with
    | nil => simp [walk]
    | cons id stack => simp [below_eq hs id] at h
  | succ steps ih =>
    cases stack with
    | nil => simp [walk]
    | cons id stack =>
      rw [List.flatMap_cons, below_eq hs id, List.cons_append, ← List.flatMap_append] at h ⊢
      rw [walk_succ_cons, ih (Nat.le_of_succ_le_succ h)]
      by_cases hlt : id < s.size <;> simp [hlt]

/-- The walk from a node ends in time, and it returns the known nodes at and below it. -/
theorem descendants_eq_filter (id : Nat) : s.descendants id = (s.below id).filter (· < s.size) := by
  have hlength : ([id].flatMap s.below).length ≤ s.size + 1 := by
    rw [List.flatMap_singleton]
    exact length_below_le hs id
  rw [descendants, walk_eq hs hlength, Option.getD_some, List.reverse_nil, List.nil_append,
    List.flatMap_singleton]

/-- From a known node the walk returns all that is below it. -/
theorem descendants_of_lt {id : Nat} (h : id < s.size) : s.descendants id = s.below id := by
  rw [descendants_eq_filter hs, List.filter_eq_self]
  intro n hn
  rcases lt_size_of_mem_below hs hn with rfl | hlt
  · exact decide_eq_true h
  · exact decide_eq_true hlt

/-- What lies below a node has a higher number. -/
theorem lt_of_lies_below {i j : Nat}
    (h : Relation.TransGen (fun parent child => child ∈ s.childIds parent) i j) : i < j := by
  induction h with
  | single hc => exact (hs.child_lt hc).1
  | tail _ hc ih => exact Nat.lt_trans ih (hs.child_lt hc).1

/-- A recursion over the children of a forest ends. -/
theorem wellFounded_childIds : WellFounded fun child parent => child ∈ s.childIds parent :=
  ⟨fun id => hs.induction (fun id ih => ⟨id, ih⟩) id⟩

end Forest

/-! ### Calls that name their own numbers -/

/-- A node that is listed as the first of its own children is visited again and again. -/
theorem walk_eq_none_of_own_child {s : Scene} {id : Nat} (h : (s.childIds id).head? = some id)
    (steps : Nat) (stack seen : List Nat) : s.walk steps (id :: stack) seen = none := by
  induction steps generalizing stack seen with
  | zero => rfl
  | succ steps ih =>
    obtain ⟨rest, hrest⟩ := List.head?_eq_some_iff.mp h
    rw [walk_succ_cons, hrest, List.cons_append]
    exact ih _ _

/-- The own number of a node comes before all others that are listed below it. -/
theorem head?_childIds_of_own_parent {calls : List Addition} {j : Nat}
    (h : namedParent? calls j = some j) : ((ofAdditions calls).childIds j).head? = some j := by
  have hsorted : ((ofAdditions calls).childIds j).Pairwise (· < ·) := by
    rw [childIds_ofAdditions]
    exact List.pairwise_lt_range.filter _
  have hmem : j ∈ (ofAdditions calls).childIds j :=
    mem_childIds_ofAdditions.mpr ⟨Nat.le_refl j, h⟩
  cases hl : (ofAdditions calls).childIds j with
  | nil => rw [hl] at hmem; exact absurd hmem List.not_mem_nil
  | cons first rest =>
    rw [hl] at hmem hsorted
    have hle : j ≤ first := (mem_childIds_ofAdditions.mp (hl ▸ List.mem_cons_self)).1
    rcases List.mem_cons.mp hmem with rfl | hrest
    · rfl
    · exact absurd ((List.pairwise_cons.mp hsorted).1 j hrest) (Nat.not_lt.mpr hle)

/-- Calls that do not name their own numbers build a scene that is linked as it should be. -/
theorem wellLinked_ofAdditions {calls : List Addition} (h : ∀ j, namedParent? calls j ≠ some j) :
    (ofAdditions calls).WellLinked calls := by
  have hs := isForest_ofAdditions h
  exact
    { count_eq_one_iff := fun i j => by
        rw [← hs.mem_childIds_iff, (hs.nodup_childIds i).count]
        split <;> simp_all
      count_eq_zero_iff := fun i j => by
        rw [List.count_eq_zero, hs.mem_childIds_iff]
      parent_lt := fun i j => hs.parent_lt
      attached := fun j i hnamed hlt => parentId?_ofAdditions_eq_some.mpr ⟨hnamed, hlt⟩
      detached := fun j i hnamed hle => by
        have hnone : (ofAdditions calls).parentId? j = none := by
          rw [parentId?_ofAdditions, hnamed, Option.filter_some, if_neg (by simpa using hle)]
        refine ⟨hnone, fun other hm => ?_⟩
        rw [hs.mem_childIds_iff, hnone] at hm
        cases hm
      acyclic := fun i hcycle => Nat.lt_irrefl i (lt_of_lies_below hs hcycle)
      wellFounded := wellFounded_childIds hs
      walk_ends := fun id => by
        refine ⟨_, walk_eq hs ?_ []⟩
        rw [List.flatMap_singleton]
        exact length_below_le hs id }

/-- **Links.** Whatever calls build a scene, its nodes are numbered in the order of the calls, and
its roots are the nodes that were added at the top. Its links are as they should be if and only if
no call names the number that its own node gets. A node whose call does so has no parent and still
is listed once, as a child of its own, and the walk over the nodes below it never ends. -/
theorem wellLinked_iff_no_own_parent (calls : List Addition) :
    (ofAdditions calls).size = calls.length ∧
      (∀ i, (ofAdditions calls).get? i = calls[i]?.map Addition.node) ∧
      (ofAdditions calls).roots =
        (List.range calls.length).filter (fun j => namedParent? calls j = none) ∧
      ((ofAdditions calls).WellLinked calls ↔ ∀ j, namedParent? calls j ≠ some j) ∧
      ∀ j, namedParent? calls j = some j →
        (ofAdditions calls).parentId? j = none ∧
          (∀ i, ((ofAdditions calls).childIds i).count j = if i = j then 1 else 0) ∧
          ∀ steps, (ofAdditions calls).walk steps [j] [] = none := by
  have hown : ∀ j, namedParent? calls j = some j →
      ∀ i, j ∈ (ofAdditions calls).childIds i ↔ i = j := by
    intro j hj i
    rw [mem_childIds_ofAdditions, hj, Option.some.injEq]
    omega
  refine ⟨size_ofAdditions calls, get?_ofAdditions calls, roots_ofAdditions calls,
    ⟨fun hwell j hj => ?_, wellLinked_ofAdditions⟩, fun j hj => ⟨?_, fun i => ?_, fun steps => ?_⟩⟩
  · exact (hwell.detached j j hj (Nat.le_refl j)).2 j ((hown j hj j).mpr rfl)
  · rw [parentId?_ofAdditions, hj]
    simp
  · rw [(nodup_childIds_ofAdditions calls i).count]
    simp only [hown j hj i]
  · exact walk_eq_none_of_own_child (head?_childIds_of_own_parent hj) steps [] []

/-- A root, and a node that is added below the number that it gets itself. -/
def ownParentCalls : List Addition := [.root { kind := .frame }, .child 1 { kind := .frame }]

/-- The second call names a number that is not known yet, and still the node is listed as a child:
the links do not say what they should. -/
theorem ownParentCalls_not_wellLinked :
    namedParent? ownParentCalls 1 = some 1 ∧
      (ofAdditions ownParentCalls).parentId? 1 = none ∧
      (ofAdditions ownParentCalls).childIds 1 = [1] ∧
      ¬ (ofAdditions ownParentCalls).WellLinked ownParentCalls := by
  have hnamed : namedParent? ownParentCalls 1 = some 1 := rfl
  refine ⟨hnamed, rfl, rfl, fun hwell => ?_⟩
  have hdetached := (hwell.detached 1 1 hnamed (Nat.le_refl 1)).2 1
  exact hdetached (List.mem_singleton.mpr rfl)

end Scene

end Viewsmith
