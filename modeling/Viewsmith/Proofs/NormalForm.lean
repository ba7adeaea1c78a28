import Mathlib.Tactic.ByContra
import Viewsmith.Proofs.SimplifyRules

/-!
# Simplified styles are in normal form

A style is normal when no rule of simplification applies to it. One pass over the rules reaches a
normal style, although each rule is tried only once: no rule makes one that was tried before it
apply again (`Rule.all_spares`), because it neither writes a property that an earlier rule needs nor
removes one that bars an earlier rule. A normal style is left as it is, entry by entry, whatever its
values are.

## Main definitions

* `Style.Normal`: nothing is left to fold or to drop.
* `Rule.Spares`: a rule cannot make another one apply.

## Main statements

* `Style.normal_iff_not_applies`: a style is normal if and only if no rule applies.
* `Style.normal_simplify`, `Style.simplify_of_normal`: the two halves of the main theorem.
* `Style.simplify_fixed_iff_normal`: the simplified styles are the normal ones, and simplification
  changes no other style twice.
-/

namespace Viewsmith

namespace Style

/-- Nothing is left to fold or to drop. -/
structure Normal (s : Style) : Prop where
  /-- No property holds its initial value. -/
  noInitial : ∀ initial ∈ initialValues, ∀ v, s.get? initial.1 = some v → v.same initial.2 = false
  /-- No two opposite edges, and no two axes, are present with equal values. -/
  noPair : ∀ pair ∈ Shorthand.cascades, ∀ first second, pair.parts = [first, second] →
    ∀ v w, s.get? first = some v → s.get? second = some w → w.same v = false
  /-- No four edges or corners are present with values equal to that of the first. -/
  noGroup : ∀ group ∈ Shorthand.fourWay, ∀ first rest, group.parts = first :: rest →
    ∀ v, s.get? first = some v → ∃ key ∈ rest, ∀ w, s.get? key = some w → w.same v = false
  /-- A distance of zero to the top stands beside one to the bottom. -/
  noTop : ∀ v, s.get? "top" = some v → v.isNumber 0 = true → (s.get? "bottom").isSome = true
  /-- A distance of zero to the left stands beside one to the right. -/
  noLeft : ∀ v, s.get? "left" = some v → v.isNumber 0 = true → (s.get? "right").isSome = true

end Style

namespace Rule

/-! ### One rule after another -/

/-- A rule cannot make another one apply: it writes nothing that the other needs, and removes
nothing that bars the other. -/
def Spares (later earlier : Rule) : Prop :=
  (∀ key ∈ later.writes, key ∉ earlier.needs) ∧ (∀ key ∈ later.needs, key ∉ earlier.bars)

instance (later earlier : Rule) : Decidable (later.Spares earlier) :=
  inferInstanceAs (Decidable (_ ∧ _))

/-- Every rule spares itself and those before it. -/
theorem all_spares :
    all.Pairwise (fun earlier later => later.Spares earlier) ∧ ∀ r ∈ all, r.Spares r := by
  decide

variable {s : Style} {r r' : Rule}

/-- A property that a rule does not write and that is present after it was there before. -/
theorem get?_of_apply {key : String} {v : Value} (hw : key ∉ r.writes)
    (h : (r.apply s).get? key = some v) : s.get? key = some v := by
  rcases get?_apply_cases r s key with he | ⟨hm, -⟩ | ⟨-, hn⟩
  · rw [← he, h]
  · exact absurd hm hw
  · rw [hn] at h
    cases h

/-- A property that a rule does not need and that is absent after it was absent before. -/
theorem get?_eq_none_of_apply {key : String} (hr : key ∉ r.needs)
    (h : (r.apply s).get? key = none) : s.get? key = none := by
  rcases get?_apply_cases r s key with he | ⟨-, hs⟩ | ⟨hm, -⟩
  · rw [← he, h]
  · rw [h] at hs
    cases hs
  · exact absurd hm hr

/-- Step: a rule does not make one apply that it spares. -/
theorem applies_of_applies_apply (h : r'.Spares r) (ha : r.Applies (r'.apply s)) : r.Applies s := by
  have hback : ∀ key ∈ r.needs, ∀ v, (r'.apply s).get? key = some v → s.get? key = some v :=
    fun key hk v hv => get?_of_apply (fun hm => h.1 key hm hk) hv
  cases r with
  | fold shorthand =>
    obtain ⟨v, hv⟩ := ha
    refine ⟨v, hv.congr fun key hk => ?_⟩
    obtain ⟨w, hw, -⟩ := hv.get? hk
    rw [hw, hback key hk w hw]
  | drop initial =>
    obtain ⟨v, hv, hs⟩ := ha
    exact ⟨v, hback _ List.mem_cons_self v hv, hs⟩
  | settle near far =>
    obtain ⟨⟨v, hv, hs⟩, hfar⟩ := ha
    refine ⟨⟨v, hback _ List.mem_cons_self v hv, hs⟩, get?_eq_none_of_apply ?_ hfar⟩
    exact fun hm => h.2 far hm List.mem_cons_self

/-- A rule that was tried does not apply again: what it needs is gone. -/
theorem not_applies_apply (h : r.Spares r) : ¬ r.Applies (r.apply s) := by
  intro ha
  have hs : r.Applies s := applies_of_applies_apply h ha
  have hgone : ∀ key ∈ r.needs, (r.apply s).get? key = none :=
    fun key hk => get?_apply_of_mem_needs hs hk fun hm => h.1 key hm hk
  cases r with
  | fold shorthand =>
    obtain ⟨v, hv⟩ := ha
    cases hp : shorthand.parts with
    | nil => rw [hp] at hv; exact hv
    | cons first rest =>
      rw [hp] at hv
      have hnone := hgone first (by simp [needs, hp])
      rw [hv.1] at hnone
      cases hnone
  | drop initial =>
    obtain ⟨v, hv, -⟩ := ha
    rw [hgone _ List.mem_cons_self] at hv
    cases hv
  | settle near far =>
    obtain ⟨⟨v, hv, -⟩, -⟩ := ha
    rw [hgone _ List.mem_cons_self] at hv
    cases hv

/-- Run: rules that spare a rule do not make it apply, however many are tried. -/
theorem not_applies_foldl {rules : List Rule} (hs : ∀ r' ∈ rules, r'.Spares r) (h : ¬ r.Applies s) :
    ¬ r.Applies (rules.foldl apply s) := by
  induction rules generalizing s with
  | nil => exact h
  | cons r' rules ih =>
    apply ih (fun r'' hr => hs r'' (List.mem_cons_of_mem _ hr))
    exact fun ha => h (applies_of_applies_apply (hs r' List.mem_cons_self) ha)

/-- Run: after a list of rules, each of which spares itself and those before it, none applies. -/
theorem not_applies_of_mem_foldl {rules : List Rule}
    (hp : rules.Pairwise fun earlier later => later.Spares earlier)
    (hself : ∀ r ∈ rules, r.Spares r)
    (s : Style) : ∀ r ∈ rules, ¬ r.Applies (rules.foldl apply s) := by
  induction rules generalizing s with
  | nil => exact fun r hr => absurd hr List.not_mem_nil
  | cons r₀ rules ih =>
    obtain ⟨hlater, hp'⟩ := List.pairwise_cons.mp hp
    intro r hr
    rcases List.mem_cons.mp hr with rfl | hr
    · rw [List.foldl_cons]
      exact not_applies_foldl hlater (not_applies_apply (hself r List.mem_cons_self))
    · exact ih hp' (fun r' hr' => hself r' (List.mem_cons_of_mem _ hr')) (r₀.apply s) r hr

/-- Run: rules that do not apply leave the style as it is. -/
theorem foldl_of_not_applies {rules : List Rule} (h : ∀ r ∈ rules, ¬ r.Applies s) :
    rules.foldl apply s = s := by
  induction rules with
  | nil => rfl
  | cons r rules ih =>
    rw [List.foldl_cons, apply_of_not_applies (h r List.mem_cons_self)]
    exact ih fun r' hr => h r' (List.mem_cons_of_mem _ hr)

end Rule

namespace Style

/-! ### Normal styles -/

/-- Properties do not agree if one of them is absent or differs from the first. -/
theorem not_agree_cons_iff (s : Style) (first : String) (rest : List String) :
    (¬ ∃ v, s.Agree (first :: rest) v) ↔ ∀ v, s.get? first = some v →
      ∃ key ∈ rest, ∀ w, s.get? key = some w → w.same v = false := by
  constructor
  · intro h v hv
    by_contra hall
    refine h ⟨v, hv, fun key hk => ?_⟩
    by_contra hnone
    refine hall ⟨key, hk, fun w hw => ?_⟩
    rw [← Bool.not_eq_true]
    exact fun hs => hnone ⟨w, hw, hs⟩
  · rintro h ⟨v, hv, hrest⟩
    obtain ⟨key, hk, hdiffer⟩ := h v hv
    obtain ⟨w, hw, hs⟩ := hrest key hk
    rw [hdiffer w hw] at hs
    cases hs

/-- Two properties do not agree if one is absent or they differ. -/
theorem not_agree_pair_iff (s : Style) (first second : String) :
    (¬ ∃ v, s.Agree [first, second] v) ↔
      ∀ v w, s.get? first = some v → s.get? second = some w → w.same v = false := by
  rw [not_agree_cons_iff]
  constructor
  · intro h v w hv hw
    obtain ⟨key, hk, hdiffer⟩ := h v hv
    rw [List.mem_singleton] at hk
    exact hdiffer w (hk ▸ hw)
  · exact fun h v hv => ⟨second, List.mem_singleton_self _, fun w hw => h v w hv hw⟩

/-- Nothing is dropped where a property is absent or differs from its initial value. -/
theorem not_applies_drop_iff (s : Style) (initial : String × Value) :
    ¬ (Rule.drop initial).Applies s ↔
      ∀ v, s.get? initial.1 = some v → v.same initial.2 = false := by
  constructor
  · intro h v hv
    rw [← Bool.not_eq_true]
    exact fun hs => h ⟨v, hv, hs⟩
  · rintro h ⟨v, hv, hs⟩
    rw [h v hv] at hs
    cases hs

/-- An offset of zero stays only if there is one to the opposite edge. -/
theorem not_applies_settle_iff (s : Style) (near far : String) :
    ¬ (Rule.settle near far).Applies s ↔
      ∀ v, s.get? near = some v → v.isNumber 0 = true → (s.get? far).isSome = true := by
  constructor
  · intro h v hv hz
    rw [Option.isSome_iff_ne_none]
    exact fun hfar => h ⟨⟨v, hv, hz⟩, hfar⟩
  · rintro h ⟨⟨v, hv, hz⟩, hfar⟩
    have hsome := h v hv hz
    rw [hfar] at hsome
    cases hsome

/-- A style is normal if and only if no rule applies to it. -/
theorem normal_iff_not_applies (s : Style) : s.Normal ↔ ∀ r ∈ Rule.all, ¬ r.Applies s := by
  -- the clauses of a normal style name the parts of each shorthand one by one
  have hpairs : ∀ pair ∈ Shorthand.cascades, ∃ first second, pair.parts = [first, second] := by
    simp [Shorthand.cascades]
  have hgroups : ∀ group ∈ Shorthand.fourWay, ∃ first rest, group.parts = first :: rest := by
    simp [Shorthand.fourWay]
  rw [Rule.forall_mem_all]
  constructor
  · intro h
    refine ⟨fun pair hp => ?_, fun group hg => ?_, fun initial hi => ?_, ?_, ?_⟩
    · obtain ⟨first, second, hparts⟩ := hpairs pair hp
      show ¬ ∃ v, s.Agree pair.parts v
      rw [hparts, not_agree_pair_iff]
      exact h.noPair pair hp first second hparts
    · obtain ⟨first, rest, hparts⟩ := hgroups group hg
      show ¬ ∃ v, s.Agree group.parts v
      rw [hparts, not_agree_cons_iff]
      exact h.noGroup group hg first rest hparts
    · rw [not_applies_drop_iff]
      exact h.noInitial initial hi
    · rw [not_applies_settle_iff]
      exact h.noTop
    · rw [not_applies_settle_iff]
      exact h.noLeft
  · rintro ⟨hpair, hgroup, hinitial, htop, hleft⟩
    rw [not_applies_settle_iff] at htop hleft
    refine ⟨fun initial hi => ?_, fun pair hp first second hparts => ?_,
      fun group hg first rest hparts => ?_, htop, hleft⟩
    · exact (not_applies_drop_iff s initial).mp (hinitial initial hi)
    · have hnot : ¬ ∃ v, s.Agree pair.parts v := hpair pair hp
      rwa [hparts, not_agree_pair_iff] at hnot
    · have hnot : ¬ ∃ v, s.Agree group.parts v := hgroup group hg
      rwa [hparts, not_agree_cons_iff] at hnot

/-- One pass over the rules reaches a normal style. -/
theorem normal_simplify (s : Style) : s.simplify.Normal := by
  rw [normal_iff_not_applies, simplify_eq_foldl]
  exact Rule.not_applies_of_mem_foldl Rule.all_spares.1 Rule.all_spares.2 s

/-- A normal style is left as it is. -/
theorem simplify_of_normal {s : Style} (h : s.Normal) : s.simplify = s := by
  rw [simplify_eq_foldl]
  exact Rule.foldl_of_not_applies ((normal_iff_not_applies s).mp h)

/-- **Normal form.** Every simplified style is normal, the styles that simplification leaves as they
are (the same entries in the same order) are exactly the normal ones, and so a second simplification
changes nothing. -/
theorem simplify_fixed_iff_normal :
    (∀ s : Style, s.simplify.Normal) ∧ (∀ t : Style, t.simplify = t ↔ t.Normal) ∧
      ∀ s : Style, s.simplify.simplify = s.simplify := by
  refine ⟨normal_simplify, fun t => ⟨fun h => ?_, simplify_of_normal⟩, fun s => ?_⟩
  · rw [← h]
    exact normal_simplify t
  · exact simplify_of_normal (normal_simplify s)

end Style

end Viewsmith
