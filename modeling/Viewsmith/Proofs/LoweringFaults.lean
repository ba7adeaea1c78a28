import Viewsmith.Proofs.LoweringOutcome

/-!
# When a lowering fails

A lowering fails for reasons that lie in the scene: the root is unknown or cannot be selected, or a
reached node cannot be lowered. Of several such nodes the one that is visited first decides the
error. Exports and images that are missing, that cannot be fetched or that are of no known kind
never do.

## Main definitions

* `Scene.Fault`: the error of a root that cannot be lowered.

## Main statements

* `Scene.exists_fault_iff`: which roots have a fault.
* `Scene.lower_error_iff_fault`: a lowering fails exactly with the fault of the root.
-/

namespace Viewsmith

namespace Scene

/-- The error of a root that cannot be lowered. -/
inductive Fault (s : Scene) (root : Nat) : CompileError → Prop
  /-- There is no such node. -/
  | unknown (h : s.get? root = none) : Fault s root (.unknownNode root)
  /-- The root is a set of variants. -/
  | variants {node : Node} (h : s.get? root = some node) (hk : node.kind = .componentSet) :
      Fault s root (.componentSet node.name)
  /-- The root is of a kind that cannot stand alone. -/
  | unsupported {node : Node} (h : s.get? root = some node)
      (hk : node.kind = .text ∨ node.kind.isVectorLike = true ∨ ∃ tag, node.kind = .other tag) :
      Fault s root (.unsupportedRoot node.kind)
  /-- The first reached node with a fault. -/
  | reached {node : Node} {before after : List Nat} {id : Nat} {e : CompileError}
      (h : s.get? root = some node) (hk : node.kind ∈ selectable)
      (hv : s.visits root = before ++ id :: after) (hb : ∀ n ∈ before, s.fault? n = none)
      (he : s.fault? id = some e) : Fault s root e

variable {s : Scene} {root : Nat} {node : Node}

/-- Every kind that cannot be selected is a set of variants or cannot stand alone. -/
theorem not_selectable_iff (kind : Kind) :
    kind ∉ selectable ↔
      kind = .componentSet ∨ kind = .text ∨ kind.isVectorLike = true ∨
        ∃ tag, kind = .other tag := by
  cases kind <;> simp [selectable, Kind.isVectorLike]

/-- The only fault of a number without a node is that there is none. -/
theorem fault_iff_of_unknown (h : s.get? root = none) (e : CompileError) :
    s.Fault root e ↔ .unknownNode root = e := by
  constructor
  · rintro (h' | ⟨h', -⟩ | ⟨h', -⟩ | ⟨h', -, -, -, -⟩)
    · rfl
    all_goals
      rw [h] at h'
      cases h'
  · rintro rfl
    exact .unknown h

/-- Texts, artwork and nodes of unknown kinds cannot be selected. -/
theorem checkRoot_of_unsupported {kind : Kind} (name : String)
    (h : kind = .text ∨ kind.isVectorLike = true ∨ ∃ tag, kind = .other tag) :
    kind.checkRoot name = .error (.unsupportedRoot kind) := by
  cases kind <;> simp_all [Kind.checkRoot, Kind.isVectorLike]

/-- What is not selectable is refused. -/
theorem exists_checkRoot_error {kind : Kind} (name : String) (h : kind ∉ selectable) :
    ∃ e, kind.checkRoot name = .error e := by
  rcases (not_selectable_iff kind).mp h with rfl | hother
  · exact ⟨.componentSet name, rfl⟩
  · exact ⟨_, checkRoot_of_unsupported name hother⟩

/-- The fault of a root that cannot be selected is found by looking at its kind. -/
theorem fault_iff_of_not_selectable (h : s.get? root = some node) (hk : node.kind ∉ selectable)
    (e : CompileError) : s.Fault root e ↔ node.kind.checkRoot node.name = .error e := by
  constructor
  · intro hf
    cases hf with
    | unknown h' =>
      rw [h] at h'
      cases h'
    | variants h' hk' =>
      cases h.symm.trans h'
      rw [hk']
      rfl
    | unsupported h' hk' =>
      cases h.symm.trans h'
      exact checkRoot_of_unsupported node.name hk'
    | reached h' hk' =>
      cases h.symm.trans h'
      exact absurd hk' hk
  · intro he
    rcases (not_selectable_iff node.kind).mp hk with hset | hother
    · rw [hset] at he
      cases he
      exact .variants h hset
    · rw [checkRoot_of_unsupported node.name hother] at he
      cases he
      exact .unsupported h hother

/-- The fault of a root that can be selected is that of the first reached node with one. -/
theorem fault_iff_of_selectable (h : s.get? root = some node) (hk : node.kind ∈ selectable)
    (e : CompileError) : s.Fault root e ↔ (s.visits root).findSome? s.fault? = some e := by
  rw [List.findSome?_eq_some_iff]
  constructor
  · intro hf
    cases hf with
    | unknown h' =>
      rw [h] at h'
      cases h'
    | variants h' hk' =>
      cases h.symm.trans h'
      exact absurd hk ((not_selectable_iff _).mpr (Or.inl hk'))
    | unsupported h' hk' =>
      cases h.symm.trans h'
      exact absurd hk ((not_selectable_iff _).mpr (Or.inr hk'))
    | @reached _ before after id _ _ _ hv hb he => exact ⟨before, id, after, hv, he, hb⟩
  · rintro ⟨before, id, after, hv, he, hb⟩
    exact .reached h hk hv hb he

/-- Whatever the source and the store answer, a lowering ends, and its error is the fault of the
root. -/
theorem lower_ends_with_fault (hs : s.IsForest) (root : Nat) (source : Source) (mode : ImageFills) :
    (s.lower root source mode).Ends fun r => ∀ e, r = .error e ↔ s.Fault root e := by
  cases h : s.get? root with
  | none =>
    rw [lower_of_unknown source mode h]
    intro e
    rw [fault_iff_of_unknown h, Except.error.injEq]
  | some node =>
    by_cases hk : node.kind ∈ selectable
    · refine (lower_ends source mode hs h hk).imp fun r hr e => ?_
      rw [fault_iff_of_selectable h hk]
      cases r with
      | ok tree =>
        rw [hr.1]
        exact ⟨nofun, nofun⟩
      | error e' =>
        have he : (s.visits root).findSome? s.fault? = some e' := hr
        rw [he, Except.error.injEq, Option.some.injEq]
    · obtain ⟨o, -, hl⟩ := lower_of_known source mode hs h
      obtain ⟨e', he'⟩ := exists_checkRoot_error node.name hk
      rw [hl, he']
      intro e
      rw [fault_iff_of_not_selectable h hk, he', Except.error.injEq, Except.error.injEq]

/-- Some fault is met first if and only if some reached node has one. -/
theorem exists_findSome?_visits_iff (hs : s.IsForest) :
    (∃ e, (s.visits root).findSome? s.fault? = some e) ↔
      ∃ id, s.Reached root id ∧ (s.fault? id).isSome = true := by
  rw [← Option.isSome_iff_exists, List.findSome?_isSome_iff]
  refine exists_congr fun id => ?_
  rw [mem_visits_iff hs]

/-- A root cannot be lowered if and only if it is unknown or cannot be selected, or a reached node
has a fault. -/
theorem exists_fault_iff (hs : s.IsForest) :
    (∃ e, s.Fault root e) ↔ s.get? root = none ∨ ∃ node, s.get? root = some node ∧
      ((node.kind = .componentSet ∨ node.kind = .text ∨ node.kind.isVectorLike = true ∨
          ∃ tag, node.kind = .other tag) ∨
        ∃ id, s.Reached root id ∧ (s.fault? id).isSome = true) := by
  cases h : s.get? root with
  | none => exact ⟨fun _ => Or.inl rfl, fun _ => ⟨_, .unknown h⟩⟩
  | some node =>
    by_cases hk : node.kind ∈ selectable
    · rw [exists_congr (fault_iff_of_selectable h hk), exists_findSome?_visits_iff hs]
      constructor
      · exact fun hid => Or.inr ⟨node, rfl, Or.inr hid⟩
      · rintro (hnone | ⟨node', hnode, hkind | hid⟩)
        · cases hnone
        · cases hnode
          exact absurd hk ((not_selectable_iff _).mpr hkind)
        · exact hid
    · constructor
      · exact fun _ => Or.inr ⟨node, rfl, Or.inl ((not_selectable_iff _).mp hk)⟩
      · intro _
        obtain ⟨e, he⟩ := exists_checkRoot_error node.name hk
        exact ⟨e, (fault_iff_of_not_selectable h hk e).mpr he⟩

/-- **Failure.** Whatever the source and the store answer, a lowering fails with an error if and
only if that is the fault of the root, and succeeds if the root has none. A root has a fault when it
is unknown or cannot be selected, or when a reached node has one; then the first reached node
decides. -/
theorem lower_error_iff_fault (s : Scene) (hs : s.IsForest) (root : Nat) (source : Source)
    (mode : ImageFills) (log : List Warning) (assets : Assets) :
    (∀ e, ((s.lower root source mode).run log assets).1 = .error e ↔ s.Fault root e) ∧
      ((∃ tree, ((s.lower root source mode).run log assets).1 = .ok tree) ↔ ¬ ∃ e, s.Fault root e) ∧
      ((∃ e, s.Fault root e) ↔ s.get? root = none ∨ ∃ node, s.get? root = some node ∧
        ((node.kind = .componentSet ∨ node.kind = .text ∨ node.kind.isVectorLike = true ∨
            ∃ tag, node.kind = .other tag) ∨
          ∃ id, s.Reached root id ∧ (s.fault? id).isSome = true)) := by
  have herror := (lower_ends_with_fault hs root source mode).run log assets
  refine ⟨herror, ?_, exists_fault_iff hs⟩
  cases hr : ((s.lower root source mode).run log assets).1 with
  | ok tree =>
    rw [hr] at herror
    refine ⟨?_, fun _ => ⟨tree, rfl⟩⟩
    rintro - ⟨e, he⟩
    cases (herror e).mpr he
  | error e =>
    rw [hr] at herror
    exact ⟨nofun, fun hn => absurd ⟨e, (herror e).mp rfl⟩ hn⟩

/-- A frame with a hidden set of variants, a node of an unknown kind, and a box with mixed fills:
the hidden node is passed over, and the first of the other two decides. -/
theorem lower_error_first_fault :
    let s := ((((({} : Scene).addRoot { kind := .frame }).addChild 0
      { kind := .componentSet, visible := false }).addChild 0 { kind := .other "SLICE" }).addChild 0
      { kind := .rectangle, fills := .mixed })
    s.IsForest ∧ ∀ source mode log assets,
      ((s.lower 0 source mode).run log assets).1 = .error (.invalidKind (.other "SLICE")) := by
  intro s
  have hs : s.IsForest :=
    ((((Built.empty.addRoot _).addChild (by decide) _).addChild (by decide) _).addChild
      (by decide) _).isForest
  have hleaf : s.reachedChildren 2 = [] ∧ s.reachedChildren 3 = [] := ⟨rfl, rfl⟩
  have hroot : s.reachedChildren 0 = [2, 3] := rfl
  have hvisits : s.visits 0 = [0] ++ 2 :: [3] := by
    rw [visits_eq hs, hroot]
    simp [visits_eq hs 2, visits_eq hs 3, hleaf]
  have hfault : s.Fault 0 (.invalidKind (.other "SLICE")) := by
    refine .reached (rfl : s.get? 0 = some { kind := .frame }) (by decide) hvisits ?_ rfl
    intro n hn
    cases List.mem_singleton.mp hn
    rfl
  refine ⟨hs, fun source mode log assets => ?_⟩
  exact ((lower_error_iff_fault s hs 0 source mode log assets).1 _).mpr hfault

end Scene

end Viewsmith
