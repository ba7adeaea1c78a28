import Viewsmith.Proofs.HiddenLayers
import Viewsmith.Proofs.SnapshotArena

/-!
# Leaving hidden nodes out of a document

The nodes of a document are numbered in order, so that leaving one of them out, with everything
below it, moves all later numbers. The two snapshots are compared while they are built. Up to the
gap they are the same; inside it only the larger one grows, and what it gains is of no interest to
the nodes that are kept; after it both grow alike, with shifted numbers. `Snapshot.Skips` is what
holds at each of these steps.

With the comparison of selections up to hidden layers it follows that a hidden node below a frame, a
component or an instance may be left out of a document: every selection outside of it is compiled to
the same result.

## Main definitions

* `Spec.Omits`: a list of specs without one of them, somewhere below.
* `Gap`: the numbers that are left out, and how the later ones are shifted.
* `Snapshot.Skips`: a snapshot is another one without the nodes of a gap.

## Main statements

* `Snapshot.Skips.addNode`, `Snapshot.Skips.addHidden`: what adding a node after and inside the gap
  preserves.
* `Spec.Omits.skips`: a document that omits a hidden node gives a snapshot that skips its numbers.
* `Compiler.compile_eq_of_omits`: hidden nodes below frames, components and instances may be left
  out.
-/

namespace Viewsmith

/-! ### Specs -/

namespace Spec

/-- The second list of specs is the first one without `gone`, which stands at the top or somewhere
below. The number says how many nodes come before it in the document. Where it stands, hidden nodes
have to be concealed; `concealed` says if they are at the top of the list. -/
inductive Omits (gone : Spec) : (concealed : Bool) → Nat → List Spec → List Spec → Prop
  | here (rest : List Spec) : Omits gone true 0 (gone :: rest) rest
  | later {concealed : Bool} {k : Nat} {specs specs' : List Spec} (first : Spec)
      (h : Omits gone concealed k specs specs') :
      Omits gone concealed (first.size + k) (first :: specs) (first :: specs')
  | inside {concealed : Bool} {k : Nat} {node : Node} {children children' : List Spec}
      (svg : Option String) (h : Omits gone node.kind.conceals k children children')
      (rest : List Spec) :
      Omits gone concealed (k + 1) (.mk node svg children :: rest) (.mk node svg children' :: rest)

end Spec

/-! ### Gaps -/

/-- Some numbers in a row. -/
structure Gap where
  start : Nat
  size : Nat

namespace Gap

/-- A number lies outside of the gap. -/
def Keeps (g : Gap) (i : Nat) : Prop := i < g.start ∨ g.start + g.size ≤ i

instance (g : Gap) (i : Nat) : Decidable (g.Keeps i) := inferInstanceAs (Decidable (_ ∨ _))

/-- What becomes of a number when the gap is closed. -/
def shift (g : Gap) (i : Nat) : Nat := if i < g.start then i else i - g.size

variable {g : Gap} {i j : Nat}

/-- A number before the gap stays. -/
theorem shift_of_lt (h : i < g.start) : g.shift i = i := if_pos h

/-- A number behind the gap moves down by its size. -/
theorem shift_of_le (h : g.start + g.size ≤ i) : g.shift i = i - g.size := if_neg (by omega)

/-- Closing the gap keeps the order of the numbers outside of it. -/
theorem shift_lt_shift_iff (hi : g.Keeps i) (hj : g.Keeps j) : g.shift i < g.shift j ↔ i < j := by
  unfold shift
  unfold Keeps at hi hj
  split <;> split <;> omega

/-- Closing the gap keeps the numbers outside of it apart. -/
theorem shift_inj (hi : g.Keeps i) (hj : g.Keeps j) : g.shift i = g.shift j ↔ i = j := by
  have hlt := shift_lt_shift_iff hi hj
  have hgt := shift_lt_shift_iff hj hi
  omega

end Gap

namespace Snapshot

/-! ### Snapshots with and without the nodes of a gap -/

/-- The second snapshot is the first one without the nodes of a gap, as far as the two have been
built: it stands still while the first one fills the gap. A node that lost a child conceals what is
hidden, and the child is hidden. -/
structure Skips (g : Gap) (a b : Snapshot) : Prop where
  sound : a.Sound
  sound' : b.Sound
  start_le : g.start ≤ a.scene.size
  size : b.scene.size = max g.start (a.scene.size - g.size)
  nodes : ∀ {i : Nat}, g.Keeps i → b.scene.get? (g.shift i) = a.scene.get? i
  parents : ∀ {i : Nat}, g.Keeps i →
    b.scene.parentId? (g.shift i) = (a.scene.parentId? i).map g.shift
  keeps_parent : ∀ {i p : Nat}, g.Keeps i → a.scene.parentId? i = some p → g.Keeps p
  children : ∀ {i : Nat}, g.Keeps i →
    b.scene.childIds (g.shift i) = ((a.scene.childIds i).filter (g.Keeps ·)).map g.shift
  hidden : ∀ {i child : Nat}, g.Keeps i → child ∈ a.scene.childIds i → ¬ g.Keeps child →
    a.scene.isVisible child = false ∧ ∃ node, a.scene.get? i = some node ∧ node.kind.conceals = true
  artwork : ∀ {i : Nat}, g.Keeps i → b.artwork.lookup (g.shift i) = a.artwork.lookup i

namespace Skips

variable {g : Gap} {a b : Snapshot}

/-- Before the gap the two snapshots are the same. -/
theorem refl (h : a.Sound) (hstart : a.scene.size = g.start) : Skips g a a := by
  -- a number that is kept is either that of a node, and stays, or free in both snapshots
  have hcases : ∀ {i : Nat}, g.Keeps i →
      (i < a.scene.size ∧ g.shift i = i) ∨ (a.scene.size ≤ i ∧ a.scene.size ≤ g.shift i) := by
    rintro i (hlt | hle)
    · exact Or.inl ⟨by omega, Gap.shift_of_lt hlt⟩
    · rw [Gap.shift_of_le hle]
      omega
  have hkeeps : ∀ {i : Nat}, i < a.scene.size → g.Keeps i ∧ g.shift i = i := fun hlt =>
    ⟨Or.inl (by omega), Gap.shift_of_lt (by omega)⟩
  have hslot : ∀ {i : Nat}, a.scene.size ≤ i → a.scene.slot? i = none :=
    Scene.slot?_eq_none_of_size_le
  refine ⟨h, h, Nat.le_of_eq hstart.symm, by omega, ?_, ?_, ?_, ?_, ?_, ?_⟩
  · intro i hi
    rcases hcases hi with ⟨-, hshift⟩ | ⟨hi, hshift⟩
    · rw [hshift]
    · simp only [Scene.get?, hslot hi, hslot hshift]
  · intro i hi
    rcases hcases hi with ⟨hlt, hshift⟩ | ⟨hi, hshift⟩
    · rw [hshift]
      cases hp : a.scene.parentId? i with
      | none => rfl
      | some p =>
        have hlt' : p < a.scene.size := Nat.lt_trans (h.forest.parent_lt hp) hlt
        rw [Option.map_some, (hkeeps hlt').2]
    · simp only [Scene.parentId?, hslot hi, hslot hshift]
      rfl
  · intro i p hi hp
    have hlt := Scene.IsForest.lt_size_of_parent hp
    exact (hkeeps (Nat.lt_trans (h.forest.parent_lt hp) hlt)).1
  · intro i hi
    have hchild : ∀ child ∈ a.scene.childIds i, g.Keeps child ∧ g.shift child = child :=
      fun child hc => hkeeps (h.forest.child_lt hc).2
    rcases hcases hi with ⟨hlt, hshift⟩ | ⟨hi, hshift⟩
    · rw [hshift, List.filter_eq_self.mpr fun child hc => decide_eq_true (hchild child hc).1]
      have hmap := List.map_congr_left fun child hc => (hchild child hc).2
      rw [hmap, List.map_id']
    · rw [Scene.childIds_eq_nil_of_size_le hi, Scene.childIds_eq_nil_of_size_le hshift]
      rfl
  · intro i child hi hc hgone
    exact absurd (hkeeps (h.forest.child_lt hc).2).1 hgone
  · intro i hi
    rcases hcases hi with ⟨-, hshift⟩ | ⟨hi, hshift⟩
    · rw [hshift]
    · rw [h.artwork _ hi, h.artwork _ hshift]

/-- After the gap both snapshots grow alike. -/
theorem addNode (h : Skips g a b) (hafter : g.start + g.size ≤ a.scene.size) {parent : Option Nat}
    (hparent : ∀ p, parent = some p → p < a.scene.size ∧ g.Keeps p) (node : Node)
    (svg : Option String) :
    Skips g (a.addNode parent node svg) (b.addNode (parent.map g.shift) node svg) := by
  have hnew : g.Keeps a.scene.size := Or.inr hafter
  have hsize : b.scene.size = g.shift a.scene.size := by
    rw [h.size, Gap.shift_of_le hafter]
    omega
  -- the new node has the next number on both sides, and the shift takes one to the other
  have hnewIff : ∀ {i : Nat}, g.Keeps i → (g.shift i = b.scene.size ↔ i = a.scene.size) := by
    intro i hi
    rw [hsize]
    exact Gap.shift_inj hi hnew
  have hparent' : ∀ p, parent.map g.shift = some p → p < b.scene.size := by
    intro p hp
    obtain ⟨q, hq, rfl⟩ := Option.map_eq_some_iff.mp hp
    rw [hsize]
    exact (Gap.shift_lt_shift_iff (hparent q hq).2 hnew).mpr (hparent q hq).1
  refine ⟨h.sound.addNode node svg fun p hp => (hparent p hp).1, h.sound'.addNode node svg hparent',
    ?_, ?_, ?_, ?_, ?_, ?_, ?_, ?_⟩
  · rw [size_addNode]
    exact Nat.le_succ_of_le h.start_le
  · have hold := h.size
    rw [size_addNode, size_addNode]
    omega
  · intro i hi
    simp only [get?_addNode, hnewIff hi, h.nodes hi]
  · intro i hi
    simp only [parentId?_addNode, hnewIff hi, h.parents hi]
    split
    · cases parent with
      | none => rfl
      | some p =>
        have hlt := (hparent p rfl).1
        have hlt' := hparent' (g.shift p) rfl
        simp [Option.filter_some, hlt, hlt']
    · rfl
  · intro i p hi hp
    rw [parentId?_addNode] at hp
    split at hp
    · exact (hparent p (Option.filter_eq_some_iff.mp hp).1).2
    · exact h.keeps_parent hi hp
  · intro i hi
    have hcond : (parent.map g.shift = some (g.shift i) ∧ g.shift i ≤ b.scene.size) ↔
        (parent = some i ∧ i ≤ a.scene.size) := by
      have hle : g.shift i ≤ b.scene.size ↔ i ≤ a.scene.size := by
        rw [hsize, ← Nat.not_lt, ← Nat.not_lt, Gap.shift_lt_shift_iff hnew hi]
      rw [hle]
      cases parent with
      | none => simp
      | some p => simp [Gap.shift_inj (hparent p rfl).2 hi]
    simp only [childIds_addNode, hcond, h.children hi]
    split
    · simp [List.filter_append, hnew, hsize]
    · rfl
  · intro i child hi hc hgone
    -- a child in the gap was there before, since the new node is kept
    have hne : child ≠ a.scene.size := by
      rintro rfl
      exact hgone hnew
    have hold : child ∈ a.scene.childIds i := by
      rw [childIds_addNode] at hc
      split at hc
      · simpa [hne] using hc
      · exact hc
    obtain ⟨hvisible, owner, hget, hkind⟩ := h.hidden hi hold hgone
    have hi' : i ≠ a.scene.size := Nat.ne_of_lt (Nat.lt_trans (h.sound.forest.child_lt hold).1
      (h.sound.forest.child_lt hold).2)
    refine ⟨?_, owner, ?_, hkind⟩
    · rw [Scene.isVisible, get?_addNode, if_neg hne]
      exact hvisible
    · rw [get?_addNode, if_neg hi']
      exact hget
  · intro i hi
    simp only [lookup_artwork_addNode, hnewIff hi, h.artwork hi]

/-- Inside the gap the first snapshot grows alone. -/
theorem addHidden (h : Skips g a b) (hinside : a.scene.size < g.start + g.size) {parent : Nat}
    (hparent : parent < a.scene.size) {node : Node}
    (hhidden : g.Keeps parent → node.visible = false ∧
      ∃ owner, a.scene.get? parent = some owner ∧ owner.kind.conceals = true)
    (svg : Option String) : Skips g (a.addNode (some parent) node svg) b := by
  have hstart := h.start_le
  -- the new node falls into the gap, so nothing that is kept gets its number
  have hnew : ¬ g.Keeps a.scene.size := by
    unfold Gap.Keeps
    omega
  have hne : ∀ {i : Nat}, g.Keeps i → i ≠ a.scene.size := by
    rintro i hi rfl
    exact hnew hi
  refine ⟨h.sound.addNode node svg fun p hp => Option.some.inj hp ▸ hparent, h.sound', ?_, ?_, ?_,
    ?_, ?_, ?_, ?_, ?_⟩
  · rw [size_addNode]
    exact Nat.le_succ_of_le hstart
  · have hold := h.size
    rw [size_addNode]
    omega
  · intro i hi
    rw [get?_addNode, if_neg (hne hi), h.nodes hi]
  · intro i hi
    rw [parentId?_addNode, if_neg (hne hi), h.parents hi]
  · intro i p hi hp
    rw [parentId?_addNode, if_neg (hne hi)] at hp
    exact h.keeps_parent hi hp
  · intro i hi
    rw [childIds_addNode, h.children hi]
    split
    · simp [List.filter_append, hnew]
    · rfl
  · intro i child hi hc hgone
    rw [childIds_addNode] at hc
    rw [Scene.isVisible, get?_addNode, get?_addNode, if_neg (hne hi)]
    by_cases hchild : child = a.scene.size
    · rw [if_pos hchild]
      -- the new node is listed below its parent only
      have howner : some parent = some i := by
        by_contra hother
        rw [if_neg fun hboth => hother hboth.1] at hc
        exact absurd (h.sound.forest.child_lt hc).2 (hchild ▸ Nat.lt_irrefl _)
      cases howner
      exact hhidden hi
    · rw [if_neg hchild]
      refine h.hidden hi ?_ hgone
      split at hc
      · simpa [hchild] using hc
      · exact hc
  · intro i hi
    rw [lookup_artwork_addNode, if_neg (hne hi), h.artwork hi]

mutual

/-- Step: behind the gap, a spec is added to both snapshots. -/
theorem addSpec {parent : Option Nat} :
    (spec : Spec) → {a b : Snapshot} → Skips g a b → g.start + g.size ≤ a.scene.size →
      (∀ p, parent = some p → p < a.scene.size ∧ g.Keeps p) →
      Skips g (addSpec parent spec a) (addSpec (parent.map g.shift) spec b)
  | .mk node svg children, a, b, h, hafter, hparent => by
      have hsize : b.scene.size = g.shift a.scene.size := by
        rw [h.size, Gap.shift_of_le hafter]
        omega
      have hadded := size_addNode a parent node svg
      rw [Snapshot.addSpec, Snapshot.addSpec, hsize]
      refine addSpecs children (h.addNode hafter hparent node svg) (by omega) fun p hp => ?_
      rw [← Option.some.inj hp]
      exact ⟨by omega, Or.inr hafter⟩

/-- Several specs behind the gap are added to both snapshots. -/
theorem addSpecs {parent : Option Nat} :
    (specs : List Spec) → {a b : Snapshot} → Skips g a b → g.start + g.size ≤ a.scene.size →
      (∀ p, parent = some p → p < a.scene.size ∧ g.Keeps p) →
      Skips g (addSpecs parent specs a) (addSpecs (parent.map g.shift) specs b)
  | [], a, b, h, hafter, hparent => h
  | spec :: specs, a, b, h, hafter, hparent => by
      have hadded := size_addSpec parent spec a
      rw [Snapshot.addSpecs, Snapshot.addSpecs]
      refine addSpecs specs (addSpec spec h hafter hparent) (by omega) fun p hp => ?_
      exact ⟨by have := (hparent p hp).1; omega, (hparent p hp).2⟩

end

mutual

/-- Step: inside of the gap, a spec is added to the first snapshot only. -/
theorem addSpec_gone {parent : Nat} :
    (spec : Spec) → {a b : Snapshot} → Skips g a b → a.scene.size + spec.size ≤ g.start + g.size →
      parent < a.scene.size →
      (g.Keeps parent → spec.node.visible = false ∧
        ∃ owner, a.scene.get? parent = some owner ∧ owner.kind.conceals = true) →
      Skips g (Snapshot.addSpec (some parent) spec a) b
  | .mk node svg children, a, b, h, hinside, hparent, hhidden => by
      have hstart := h.start_le
      have hadded := size_addNode a (some parent) node svg
      rw [Spec.size] at hinside
      rw [Snapshot.addSpec]
      refine addSpecs_gone children (h.addHidden (by omega) hparent hhidden svg) (by omega)
        (by omega) ?_
      unfold Gap.Keeps
      omega

/-- Several specs inside of the gap are added to the first snapshot only. -/
theorem addSpecs_gone {parent : Nat} :
    (specs : List Spec) → {a b : Snapshot} → Skips g a b →
      a.scene.size + Spec.sizeAll specs ≤ g.start + g.size →
      parent < a.scene.size → ¬ g.Keeps parent →
      Skips g (Snapshot.addSpecs (some parent) specs a) b
  | [], a, b, h, _, _, _ => h
  | spec :: specs, a, b, h, hinside, hparent, hgone => by
      have hadded := size_addSpec (some parent) spec a
      rw [Spec.sizeAll] at hinside
      rw [Snapshot.addSpecs]
      exact addSpecs_gone specs
        (addSpec_gone spec h (by omega) hparent fun hkeeps => absurd hkeeps hgone)
        (by omega) (by omega) hgone

end

/-- A parent before the gap keeps its number. -/
theorem addSpecs_of_parent_lt (h : Skips g a b) (hafter : g.start + g.size ≤ a.scene.size)
    {parent : Option Nat} (hparent : ∀ p, parent = some p → p < g.start) (specs : List Spec) :
    Skips g (Snapshot.addSpecs parent specs a) (Snapshot.addSpecs parent specs b) := by
  have hshift : parent.map g.shift = parent := by
    cases parent with
    | none => rfl
    | some p => rw [Option.map_some, Gap.shift_of_lt (hparent p rfl)]
  have hboth :
      Skips g (Snapshot.addSpecs parent specs a) (Snapshot.addSpecs (parent.map g.shift) specs b) :=
    h.addSpecs specs hafter fun p hp =>
      ⟨Nat.lt_of_lt_of_le (hparent p hp) h.start_le, Or.inl (hparent p hp)⟩
  rw [hshift] at hboth
  exact hboth

end Skips

end Snapshot

/-! ### Documents -/

namespace Spec.Omits

open Snapshot

variable {gone : Spec} {concealed : Bool} {k : Nat} {specs specs' : List Spec}

/-- The omitted spec lies inside of the document. -/
theorem add_size_le (h : Omits gone concealed k specs specs') : k + gone.size ≤ sizeAll specs := by
  induction h with
  | here rest =>
    rw [sizeAll]
    omega
  | later first h ih =>
    rw [sizeAll]
    omega
  | inside svg h rest ih =>
    rw [sizeAll, Spec.size]
    omega

/-- The number of the omitted spec is that of its node. -/
theorem get?_addSpecs (h : Omits gone concealed k specs specs') (parent : Option Nat)
    (a : Snapshot) : (addSpecs parent specs a).scene.get? (a.scene.size + k) = some gone.node := by
  induction h generalizing parent a with
  | here rest =>
    obtain ⟨node, svg, children⟩ := gone
    have hadded := size_addNode a parent node svg
    have hspec := size_addSpec parent (.mk node svg children) a
    rw [Spec.size] at hspec
    rw [addSpecs, Snapshot.get?_addSpecs _ _ _ (by omega), addSpec,
      Snapshot.get?_addSpecs _ _ _ (by omega), get?_addNode, if_pos (Nat.add_zero _)]
    rfl
  | later first h ih =>
    rw [addSpecs, ← Nat.add_assoc, ← size_addSpec parent first a]
    exact ih parent _
  | @inside concealed k node children children' svg h rest ih =>
    have hsize := size_addSpec parent (.mk node svg children) a
    have hle := h.add_size_le
    have hchild := ih (some a.scene.size) (a.addNode parent node svg)
    have hpositive := gone.size_pos
    rw [Spec.size] at hsize
    rw [size_addNode, Nat.add_right_comm, Nat.add_assoc] at hchild
    rw [addSpecs, Snapshot.get?_addSpecs _ _ _ (by omega), addSpec]
    exact hchild

/-- A list that omits a hidden spec, where it is concealed, gives a snapshot that skips its
nodes. -/
theorem skips (h : Omits gone concealed k specs specs') (hhidden : gone.node.visible = false)
    (parent : Option Nat) {a : Snapshot} (ha : a.Sound)
    (hparent : ∀ p, parent = some p → p < a.scene.size)
    (hconcealed : concealed = true → ∃ p owner, parent = some p ∧ a.scene.get? p = some owner ∧
      owner.kind.conceals = true) :
    Skips ⟨a.scene.size + k, gone.size⟩ (addSpecs parent specs a) (addSpecs parent specs' a) := by
  induction h generalizing parent a with
  | here rest =>
    obtain ⟨p, owner, rfl, howner, hkind⟩ := hconcealed rfl
    have hgone := (Skips.refl (g := ⟨a.scene.size, gone.size⟩) ha rfl).addSpec_gone gone
      (Nat.le_refl _) (hparent p rfl) fun _ => ⟨hhidden, owner, howner, hkind⟩
    exact hgone.addSpecs_of_parent_lt
      (Nat.le_of_eq (size_addSpec (some p) gone a).symm) hparent rest
  | later first h ih =>
    have hadded := size_addSpec parent first a
    rw [addSpecs, addSpecs, ← Nat.add_assoc, ← hadded]
    refine ih parent (Sound.addSpec first ha hparent) (fun p hp => ?_) fun htrue => ?_
    · rw [hadded]
      exact Nat.lt_add_right _ (hparent p hp)
    · obtain ⟨p, owner, hp, howner, hkind⟩ := hconcealed htrue
      exact ⟨p, owner, hp, (get?_addSpec parent first a (hparent p hp)).trans howner, hkind⟩
  | @inside concealed k node children children' svg h rest ih =>
    have hadded := size_addNode a parent node svg
    have hspec := size_addSpec parent (.mk node svg children) a
    have hle := h.add_size_le
    rw [Spec.size] at hspec
    -- the omitted spec stands below the new node, so the children are compared first
    have hbelow := ih (some a.scene.size) (ha.addNode node svg hparent) (fun p hp => by
        rw [← Option.some.inj hp]
        omega) fun hkind => ⟨_, node, rfl, by rw [get?_addNode, if_pos rfl], hkind⟩
    rw [hadded, Nat.add_assoc, Nat.add_comm 1 k] at hbelow
    rw [addSpecs, addSpecs, addSpec, addSpec]
    refine hbelow.addSpecs_of_parent_lt ?_ (fun p hp => ?_) rest
    · rw [addSpec] at hspec
      show a.scene.size + (k + 1) + gone.size ≤ _
      omega
    · exact Nat.lt_add_right _ (hparent p hp)

end Spec.Omits

/-! ### Compilations -/

namespace Snapshot.Skips

variable {g : Gap} {a b : Snapshot}

/-- Snapshots that differ in a gap still do with other images. -/
theorem withImages (h : Skips g a b) (images : List (String × List UInt8)) :
    Skips g { a with images } { b with images } :=
  ⟨⟨h.sound.forest, h.sound.artwork⟩, ⟨h.sound'.forest, h.sound'.artwork⟩, h.start_le,
    h.size, h.nodes, h.parents, h.keeps_parent, h.children, h.hidden, h.artwork⟩

/-- Of the children of a node that is kept, only hidden ones are left out, and only if these are
concealed. -/
theorem thins (h : Skips g a b) {i : Nat} (hi : g.Keeps i) {node : Node}
    (hget : a.scene.get? i = some node) {ids : List Nat}
    (hids : ∀ id ∈ ids, id ∈ a.scene.childIds i) :
    a.scene.Thins (fun i j => g.Keeps i ∧ i < a.scene.size ∧ j = g.shift i) node.kind.conceals ids
      ((ids.filter (g.Keeps ·)).map g.shift) := by
  induction ids with
  | nil => exact .nil
  | cons id ids ih =>
    have hid : id ∈ a.scene.childIds i := hids id List.mem_cons_self
    have hrest := ih fun other hm => hids other (List.mem_cons_of_mem _ hm)
    by_cases hkeeps : g.Keeps id
    · rw [List.filter_cons_of_pos (by simpa using hkeeps), List.map_cons]
      exact .keep ⟨hkeeps, (h.sound.forest.child_lt hid).2, rfl⟩ hrest
    · rw [List.filter_cons_of_neg (by simpa using hkeeps)]
      obtain ⟨hvisible, owner, howner, hkind⟩ := h.hidden hi hid hkeeps
      rw [hget] at howner
      cases howner
      exact .drop hkind hvisible hrest

/-- A node outside of the gap belongs to the same set of variants. -/
theorem variantSet (h : Skips g a b) {i : Nat} (hi : g.Keeps i) :
    a.scene.variantSet? i = b.scene.variantSet? (g.shift i) := by
  have hparent : a.scene.parent? i = b.scene.parent? (g.shift i) := by
    unfold Scene.parent?
    rw [h.parents hi]
    cases hp : a.scene.parentId? i with
    | none => rfl
    | some p => exact (h.nodes (h.keeps_parent hi hp)).symm
  unfold Scene.variantSet?
  rw [hparent]

/-- A selection that is kept is trimmed. -/
theorem trims (h : Skips g a b) (himages : a.images = b.images) {root : Nat} (hroot : g.Keeps root)
    (hlt : root < a.scene.size) :
    a.scene.Trims root a.source b.scene (g.shift root) b.source
      fun i j => g.Keeps i ∧ i < a.scene.size ∧ j = g.shift i where
  related := ⟨hroot, hlt, rfl⟩
  variantSet := h.variantSet hroot
  nodes := by
    rintro i j ⟨hi, hlt, rfl⟩
    have hslot : a.scene.slot? i = some a.scene.slots[i] := Array.getElem?_eq_getElem hlt
    have hget : a.scene.get? i = some a.scene.slots[i].node := by
      rw [Scene.get?, hslot]
      rfl
    exact ⟨_, hget, (h.nodes hi).trans hget⟩
  children := by
    rintro i j node ⟨hi, hlt, rfl⟩ hget
    rw [h.children hi]
    exact h.thins hi hget fun id hid => hid
  artwork := by
    rintro i j ⟨hi, hlt, rfl⟩
    unfold source
    dsimp only
    rw [h.artwork hi]
    cases a.artwork.lookup i <;> rfl
  image := by
    intro hash
    unfold source
    rw [himages]

end Snapshot.Skips

namespace Compiler

/-- **Hidden nodes.** Let a hidden node of a document be the child of a frame, a component or an
instance. Without it and all that is below it the document still has a snapshot. Every node outside
of that part is found in it, with its number shifted, and if it is selected the result of the
compilation is the same. -/
theorem compile_eq_of_omits (c : Compiler) (d : Document) (snapshot : Snapshot) (gone : Spec)
    (nodes : List Spec) (k root : Nat) (h : Snapshot.ofDocument d = .ok snapshot)
    (homits : Spec.Omits gone false k d.nodes nodes) (hhidden : gone.node.visible = false)
    (hroot : root < snapshot.scene.size) (hkeeps : Gap.Keeps ⟨k, gone.size⟩ root) :
    snapshot.scene.get? k = some gone.node ∧
      ∃ snapshot', Snapshot.ofDocument { d with nodes } = .ok snapshot' ∧
        snapshot'.scene.get? (Gap.shift ⟨k, gone.size⟩ root) = snapshot.scene.get? root ∧
        (c.compile snapshot'.scene (Gap.shift ⟨k, gone.size⟩ root) snapshot'.source).1.result =
          (c.compile snapshot.scene root snapshot.source).1.result := by
  unfold Snapshot.ofDocument at h ⊢
  cases himages : Snapshot.decodeImages d.images with
  | error e =>
    rw [himages] at h
    cases h
  | ok images =>
    rw [himages] at h
    cases h
    have hget := homits.get?_addSpecs none {}
    have hsound : Snapshot.Sound {} := ⟨Scene.isForest_empty, fun i _ => rfl⟩
    have hskips := homits.skips hhidden none hsound nofun nofun
    have hstart : ({} : Snapshot).scene.size + k = k := Nat.zero_add k
    rw [hstart] at hget hskips
    have hskips := hskips.withImages images
    exact ⟨hget, _, rfl, hskips.nodes hkeeps, ((hskips.trims rfl hkeeps hroot).compile_eq
      hskips.sound.forest hskips.sound'.forest c).symm⟩

/-- A hidden badge of two layers. -/
def badge : Spec :=
  .mk { kind := .group, name := "badge", visible := false } none
    [.mk { kind := .vector, name := "icon" } (some "<svg/>") []]

/-- A title. -/
def title : Spec := .mk { kind := .rectangle, name := "title", width := 80, height := 20 } none []

/-- A card with the given layers. -/
def card (children : List Spec) : Document where
  nodes := [.mk { kind := .frame, name := "card", width := 100, height := 50 } none children]

/-- The badge is the node 1 of a card, and the title is the node 3. Without the badge the title is
the node 1. The card is compiled to the same module with the hidden badge inside of it and without
it, and so is the title. -/
theorem compile_eq_of_omits_badge :
    ∃ (snapshot snapshot' : Snapshot) (whole part : Compiled),
      Snapshot.ofDocument (card [badge, title]) = .ok snapshot ∧
      Snapshot.ofDocument (card [title]) = .ok snapshot' ∧
      snapshot.scene.get? 1 = some badge.node ∧
      snapshot'.scene.get? 1 = some title.node ∧
      (({} : Compiler).compile snapshot.scene 0 snapshot.source).1.result = .ok whole ∧
      (({} : Compiler).compile snapshot'.scene 0 snapshot'.source).1.result = .ok whole ∧
      (({} : Compiler).compile snapshot.scene 3 snapshot.source).1.result = .ok part ∧
      (({} : Compiler).compile snapshot'.scene 1 snapshot'.source).1.result = .ok part := by
  have hcard : (Snapshot.ofDocument (card [badge, title])).toOption.map (fun snapshot =>
      (snapshot.scene.size, [0, 3].map fun root =>
        (({} : Compiler).compile snapshot.scene root snapshot.source).1.result.isOk)) =
      some (4, [true, true]) := by
    decide +kernel
  have hnode : (Snapshot.ofDocument (card [badge, title])).toOption.bind (·.scene.get? 3) =
      some title.node := rfl
  cases hs : Snapshot.ofDocument (card [badge, title]) with
  | error e => cases hs
  | ok snapshot =>
    rw [hs] at hcard hnode
    obtain ⟨hsize, hok⟩ := Prod.mk.inj (Option.some.inj hcard)
    obtain ⟨hwhole, hpart⟩ := List.cons.inj hok
    have homits : Spec.Omits badge false 1 (card [badge, title]).nodes (card [title]).nodes :=
      .inside none (.here _) []
    obtain ⟨hbadge, snapshot', hs', -, heq⟩ :=
      compile_eq_of_omits {} (card [badge, title]) snapshot badge (card [title]).nodes 1 0 hs homits
        rfl (by omega) (Or.inl (by decide))
    obtain ⟨-, other, hother, hget, heq'⟩ :=
      compile_eq_of_omits {} (card [badge, title]) snapshot badge (card [title]).nodes 1 3 hs homits
        rfl (by omega) (Or.inr (by decide))
    obtain rfl : snapshot' = other := Except.ok.inj (hs'.symm.trans hother)
    obtain ⟨whole, hw⟩ := Except.exists_of_isOk hwhole
    obtain ⟨part, hp⟩ := Except.exists_of_isOk (List.cons.inj hpart).1
    exact ⟨snapshot, snapshot', whole, part, rfl, hs', hbadge, hget.trans hnode, hw, heq.trans hw,
      hp, heq'.trans hp⟩

end Compiler

end Viewsmith
