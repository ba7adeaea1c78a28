import Viewsmith.Style.Simplify

/-!
# The rules of simplification

A style is simplified by thirty-two rules that are tried once each, in a fixed order: fourteen fold
a shorthand, sixteen drop an initial value, two drop a default offset. This module says what one
rule does to the look-up of a style, once for all rules, so that what is kept or reached by a whole
simplification follows by induction on the list of rules.

## Main definitions

* `Style.Agree`: some properties are present with values equal to that of the first.
* `Rule`, `Rule.apply`, `Rule.all`: the rules in order.
* `Rule.Applies`: the condition under which a rule changes the style.

## Main statements

* `Style.simplify_eq_foldl`: simplification tries all rules in order.
* `Rule.apply_of_not_applies`: a rule that does not apply leaves the style as it is.
* `Rule.get?_apply_cases`: what a rule can do to one property.
* `Style.get?_simplify_of_untouched`: a property that no rule writes or needs.
-/

namespace Viewsmith

namespace Style

/-! ### Look-up after the operations -/

/-- A property is present if and only if it has a value. -/
theorem contains_eq_isSome (s : Style) (key : String) : s.contains key = (s.get? key).isSome := by
  rw [Bool.eq_iff_iff, ← mem_keys_iff]
  exact isSome_lookup_iff_mem_keys.symm

/-- Erasing a property leaves the others. -/
theorem get?_erase_of_ne {s : Style} {key other : String} (h : other ≠ key) :
    (s.erase key).get? other = s.get? other := by
  rw [get?_erase, if_neg h]

/-- A property that is absent can be written at any position, and reads back. -/
theorem get?_insertAt? {s : Style} {key : String} (h : s.get? key = none) (index : Nat)
    (v : Value) :
    ∃ t, s.insertAt? index key v = some t ∧
      ∀ other, t.get? other = if other = key then some v else s.get? other := by
  have hc : s.contains key = false := by rw [contains_eq_isSome, h]; rfl
  refine ⟨_, by unfold insertAt?; rw [hc]; rfl, fun other => ?_⟩
  unfold get?
  rw [lookup_place index v (not_mem_without key s.entries), lookup_without]
  by_cases ho : other = key
  · rw [if_pos ho, if_pos ho]
  · rw [if_neg ho, if_neg ho, if_neg ho]

/-- Exactly the properties of the list are removed. -/
theorem get?_eraseAll (s : Style) (keys : List String) (other : String) :
    (s.eraseAll keys).get? other = if other ∈ keys then none else s.get? other := by
  unfold eraseAll
  induction keys generalizing s with
  | nil => simp
  | cons key keys ih =>
    rw [List.foldl_cons, ih, get?_erase]
    by_cases hk : other = key
    · subst hk; simp
    · simp [hk]

/-! ### Properties that agree -/

/-- All properties of the list are present, the first one with the value `v`, and the others with
values equal to it. -/
def Agree (s : Style) : List String → Value → Prop
  | [], _ => False
  | first :: rest, v =>
    s.get? first = some v ∧ ∀ key ∈ rest, ∃ w, s.get? key = some w ∧ w.same v = true

/-- The common value of properties is the one that they agree on. -/
theorem common?_eq_some_iff (s : Style) (keys : List String) (v : Value) :
    s.common? keys = some v ↔ s.Agree keys v := by
  cases keys with
  | nil => simp [common?, Agree]
  | cons first rest => simp [common?, Agree, Option.filter_eq_some_iff, Option.any_eq_true]

/-- The value of a property that agrees with others is that of the first, or equal to it. -/
theorem Agree.get? {s : Style} {keys : List String} {v : Value} (h : s.Agree keys v) {key : String}
    (hk : key ∈ keys) : ∃ w, s.get? key = some w ∧ (w = v ∨ w.same v = true) := by
  cases keys with
  | nil => exact absurd hk List.not_mem_nil
  | cons first rest =>
    rcases List.mem_cons.mp hk with rfl | hk
    · exact ⟨v, h.1, Or.inl rfl⟩
    · obtain ⟨w, hw, hs⟩ := h.2 key hk
      exact ⟨w, hw, Or.inr hs⟩

/-- Agreement carries over to a style that holds the same values for the properties of the list. -/
theorem Agree.congr {s t : Style} {keys : List String} {v : Value} (h : s.Agree keys v)
    (hst : ∀ key ∈ keys, t.get? key = s.get? key) : t.Agree keys v := by
  cases keys with
  | nil => exact h
  | cons first rest =>
    refine ⟨?_, fun key hk => ?_⟩
    · rw [hst first List.mem_cons_self, h.1]
    · rw [hst key (List.mem_cons_of_mem _ hk)]
      exact h.2 key hk

/-! ### Single rules -/

/-- Where the parts do not agree, merging changes nothing. -/
theorem merge_of_not_agree {s : Style} {shorthand : Shorthand}
    (h : ∀ v, ¬ s.Agree shorthand.parts v) : s.merge shorthand = s := by
  have hc : s.common? shorthand.parts = none := by
    rw [Option.eq_none_iff_forall_ne_some]
    exact fun v hv => h v ((common?_eq_some_iff s shorthand.parts v).mp hv)
  unfold merge
  rw [hc]

/-- Where the parts agree, the whole takes their value and the parts are removed. The whole is never
refused its position, since it was erased before. -/
theorem get?_merge_of_agree {s : Style} {shorthand : Shorthand} {v : Value}
    (h : s.Agree shorthand.parts v) (key : String) :
    (s.merge shorthand).get? key =
      if key = shorthand.whole then some v
      else if key ∈ shorthand.parts then none
      else s.get? key := by
  have hw : ((s.erase shorthand.whole).eraseAll shorthand.parts).get? shorthand.whole = none := by
    rw [get?_eraseAll, get?_erase]
    simp
  obtain ⟨t, ht, hget⟩ :=
    get?_insertAt? hw ((s.erase shorthand.whole).firstIndex shorthand.parts) v
  have hm : s.merge shorthand = t := by
    unfold merge
    rw [(common?_eq_some_iff s shorthand.parts v).mpr h]
    simp only [ht, Option.getD_some]
  rw [hm, hget, get?_eraseAll, get?_erase]
  by_cases hk : key = shorthand.whole
  · rw [if_pos hk, if_pos hk]
  · rw [if_neg hk, if_neg hk, if_neg hk]

end Style

/-- A rule of simplification. -/
inductive Rule where
  /-- Replace the parts of a shorthand by the whole when they agree. -/
  | fold (shorthand : Shorthand)
  /-- Drop a property that holds its initial value. -/
  | drop (initial : String × Value)
  /-- Drop a near offset of zero when there is no far one. -/
  | settle (near far : String)

namespace Rule

/-- Try a rule. -/
def apply (s : Style) : Rule → Style
  | fold shorthand => s.merge shorthand
  | drop initial => s.dropInitial initial
  | settle near far => s.dropOffset near far

/-- The rules in the order in which they are tried. -/
def all : List Rule :=
  (Shorthand.cascades ++ Shorthand.fourWay).map fold ++ Style.initialValues.map drop
    ++ [settle "top" "bottom", settle "left" "right"]

/-- The condition under which a rule changes a style. -/
def Applies (s : Style) : Rule → Prop
  | fold shorthand => ∃ v, s.Agree shorthand.parts v
  | drop initial => ∃ v, s.get? initial.1 = some v ∧ v.same initial.2 = true
  | settle near far => (∃ v, s.get? near = some v ∧ v.isNumber 0 = true) ∧ s.get? far = none

/-- The properties that a rule can write. -/
def writes : Rule → List String
  | fold shorthand => [shorthand.whole]
  | _ => []

/-- The properties that must be present for a rule to apply. It removes them, unless it writes
them. -/
def needs : Rule → List String
  | fold shorthand => shorthand.parts
  | drop initial => [initial.1]
  | settle near _ => [near]

/-- The properties that must be absent for a rule to apply. -/
def bars : Rule → List String
  | settle _ far => [far]
  | _ => []

/-- What holds of all rules, said of each kind of rule. -/
theorem forall_mem_all {p : Rule → Prop} :
    (∀ r ∈ all, p r) ↔
      (∀ shorthand ∈ Shorthand.cascades, p (fold shorthand)) ∧
      (∀ shorthand ∈ Shorthand.fourWay, p (fold shorthand)) ∧
      (∀ initial ∈ Style.initialValues, p (drop initial)) ∧
      p (settle "top" "bottom") ∧ p (settle "left" "right") := by
  simp only [all, List.map_append, List.forall_mem_append, List.forall_mem_map,
    List.forall_mem_cons, List.not_mem_nil, false_imp_iff, implies_true, and_true, and_assoc]

end Rule

/-- Simplification tries all rules in order. -/
theorem Style.simplify_eq_foldl (s : Style) : s.simplify = Rule.all.foldl Rule.apply s := by
  unfold simplify
  simp only [Rule.all, List.map_append, List.foldl_append, List.foldl_map, List.foldl_cons,
    List.foldl_nil, Rule.apply]

namespace Rule

variable {s : Style} {r : Rule}

/-- A rule that does not apply changes nothing. -/
theorem apply_of_not_applies (h : ¬ r.Applies s) : r.apply s = s := by
  cases r with
  | fold shorthand => exact Style.merge_of_not_agree fun v hv => h ⟨v, hv⟩
  | drop initial =>
    show s.dropInitial initial = s
    unfold Style.dropInitial
    cases hv : s.get? initial.1 with
    | none => rfl
    | some v => exact if_neg fun hs => h ⟨v, hv, hs⟩
  | settle near far =>
    show s.dropOffset near far = s
    unfold Style.dropOffset
    apply if_neg
    rw [Bool.and_eq_true, Option.any_eq_true, Bool.not_eq_true', Style.contains_eq_isSome,
      Option.isSome_eq_false_iff, Option.isNone_iff_eq_none]
    exact h

/-- A rule that drops a property erases it and does nothing else. -/
theorem apply_drop {initial : String × Value} (h : (drop initial).Applies s) :
    (drop initial).apply s = s.erase initial.1 := by
  obtain ⟨v, hv, hs⟩ := h
  show s.dropInitial initial = s.erase initial.1
  unfold Style.dropInitial
  rw [hv]
  exact if_pos hs

/-- A rule that drops a near offset erases it and does nothing else. -/
theorem apply_settle {near far : String} (h : (settle near far).Applies s) :
    (settle near far).apply s = s.erase near := by
  show s.dropOffset near far = s.erase near
  unfold Style.dropOffset
  apply if_pos
  rw [Bool.and_eq_true, Option.any_eq_true, Bool.not_eq_true', Style.contains_eq_isSome,
    Option.isSome_eq_false_iff, Option.isNone_iff_eq_none]
  exact h

/-- What a rule does to one property: it stays as it is, or the rule writes it, or the rule needs it
and removes it. -/
theorem get?_apply_cases (r : Rule) (s : Style) (key : String) :
    (r.apply s).get? key = s.get? key ∨
      (key ∈ r.writes ∧ ((r.apply s).get? key).isSome = true) ∨
      (key ∈ r.needs ∧ (r.apply s).get? key = none) := by
  by_cases h : r.Applies s
  · cases r with
    | fold shorthand =>
      obtain ⟨v, hv⟩ := h
      have hget : ((fold shorthand).apply s).get? key = _ := Style.get?_merge_of_agree hv key
      rw [hget]
      by_cases hw : key = shorthand.whole
      · exact Or.inr (Or.inl ⟨by simp [writes, hw], by simp [hw]⟩)
      · by_cases hp : key ∈ shorthand.parts
        · exact Or.inr (Or.inr ⟨hp, by simp [hw, hp]⟩)
        · exact Or.inl (by simp [hw, hp])
    | drop initial =>
      rw [apply_drop h, Style.get?_erase]
      by_cases hk : key = initial.1
      · exact Or.inr (Or.inr ⟨by simp [needs, hk], if_pos hk⟩)
      · exact Or.inl (if_neg hk)
    | settle near far =>
      rw [apply_settle h, Style.get?_erase]
      by_cases hk : key = near
      · exact Or.inr (Or.inr ⟨by simp [needs, hk], if_pos hk⟩)
      · exact Or.inl (if_neg hk)
  · rw [apply_of_not_applies h]
    exact Or.inl rfl

/-- A rule that applies removes what it needs, unless it writes it. -/
theorem get?_apply_of_mem_needs (h : r.Applies s) {key : String} (hn : key ∈ r.needs)
    (hw : key ∉ r.writes) : (r.apply s).get? key = none := by
  cases r with
  | fold shorthand =>
    obtain ⟨v, hv⟩ := h
    have hk : key ≠ shorthand.whole := by simpa [writes] using hw
    have hget : ((fold shorthand).apply s).get? key = _ := Style.get?_merge_of_agree hv key
    rw [hget, if_neg hk]
    exact if_pos hn
  | drop initial =>
    rw [apply_drop h, Style.get?_erase]
    exact if_pos (by simpa [needs] using hn)
  | settle near far =>
    rw [apply_settle h, Style.get?_erase]
    exact if_pos (by simpa [needs] using hn)

end Rule

namespace Style

/-! ### Properties that simplification leaves alone -/

/-- A property that no rule of a list writes or needs stays as it is. -/
theorem get?_foldl_of_untouched {rules : List Rule} {key : String}
    (h : ∀ r ∈ rules, key ∉ r.writes ∧ key ∉ r.needs) (s : Style) :
    (rules.foldl Rule.apply s).get? key = s.get? key := by
  induction rules generalizing s with
  | nil => rfl
  | cons r rules ih =>
    obtain ⟨⟨hw, hn⟩, hrest⟩ := List.forall_mem_cons.mp h
    rw [List.foldl_cons, ih hrest]
    rcases Rule.get?_apply_cases r s key with heq | ⟨hm, -⟩ | ⟨hm, -⟩
    · exact heq
    · exact absurd hm hw
    · exact absurd hm hn

/-- A property that no rule writes or needs is not simplified. -/
theorem get?_simplify_of_untouched {key : String}
    (h : ∀ r ∈ Rule.all, key ∉ r.writes ∧ key ∉ r.needs) (s : Style) :
    s.simplify.get? key = s.get? key := by
  rw [simplify_eq_foldl]
  exact get?_foldl_of_untouched h s

/-- A property that is dropped when it holds its initial value, and that no other rule writes or
needs. -/
theorem get?_simplify_of_initial {before after : List Rule} {initial : String × Value}
    (hall : Rule.all = before ++ Rule.drop initial :: after)
    (hbefore : ∀ r ∈ before, initial.1 ∉ r.writes ∧ initial.1 ∉ r.needs)
    (hafter : ∀ r ∈ after, initial.1 ∉ r.writes ∧ initial.1 ∉ r.needs) (s : Style) :
    s.simplify.get? initial.1 = (s.get? initial.1).filter fun v => !v.same initial.2 := by
  rw [simplify_eq_foldl, hall, List.foldl_append, List.foldl_cons, get?_foldl_of_untouched hafter]
  generalize hs : before.foldl Rule.apply s = t
  have hget : t.get? initial.1 = s.get? initial.1 := hs ▸ get?_foldl_of_untouched hbefore s
  rw [← hget]
  show (t.dropInitial initial).get? initial.1 = _
  unfold dropInitial
  cases hv : t.get? initial.1 with
  | none => simp [hv]
  | some v =>
    dsimp only
    by_cases hsame : v.same initial.2 = true
    · rw [if_pos hsame, get?_erase, if_pos rfl, Option.filter_some]
      simp [hsame]
    · rw [if_neg hsame, hv, Option.filter_some]
      simp [hsame]

end Style

end Viewsmith
