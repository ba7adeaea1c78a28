import Mathlib.Logic.Relation
import Viewsmith.Proofs.SimplifyRules

/-!
# Simplification keeps the effective values

A longhand takes its value from the first property of its cascade that is present: the margin at the
top from `marginTop`, else from `marginVertical`, else from `margin`, and else it is zero.
Simplification moves values along these cascades and drops what the end of a cascade says anyway, so
every longhand keeps its effective value, up to steps from a value to an equal one.

## Main definitions

* `Longhand`, `Longhand.of`: the cascade of a property, its initial value, and what takes that away.
* `Style.effective`: the effective value of a longhand.
* `Value.Linked`: a chain of equal values leads from one value to the other.

## Main statements

* `Rule.value_apply`: a rule that respects a longhand keeps its effective value.
* `Longhand.of_respected`: all rules respect all longhands.
* `Style.effective_simplify`: simplification keeps every effective value.
-/

namespace Viewsmith

/-- The value `v` is `w`, or a chain of values, each equal to the next, leads from `v` to `w`. -/
def Value.Linked (v w : Value) : Prop := Relation.ReflTransGen (fun a b => a.same b = true) v w

/-- Where a longhand takes its value from. -/
structure Longhand where
  /-- The properties that give the value, the first one present counts. -/
  keys : List String
  /-- The value when none is present. -/
  initial : Option Value := none
  /-- A property that takes the initial value away when it is present. -/
  opposite : Option String := none

namespace Longhand

/-- The four edges of a box: through the axis to the shorthand. -/
def edges (top bottom left right vertical horizontal whole : String) (initial : Value) :
    List Longhand :=
  [⟨[top, vertical, whole], initial, none⟩, ⟨[bottom, vertical, whole], initial, none⟩,
   ⟨[left, horizontal, whole], initial, none⟩, ⟨[right, horizontal, whole], initial, none⟩]

/-- The longhands with a shorthand, an initial value or both. -/
def table : List Longhand :=
  edges "marginTop" "marginBottom" "marginLeft" "marginRight" "marginVertical" "marginHorizontal"
    "margin" (.number 0)
  ++ edges "paddingTop" "paddingBottom" "paddingLeft" "paddingRight" "paddingVertical"
    "paddingHorizontal" "padding" (.number 0)
  ++ edges "borderTopStyle" "borderBottomStyle" "borderLeftStyle" "borderRightStyle"
    "borderVerticalStyle" "borderHorizontalStyle" "borderStyle" (.text "solid")
  ++ edges "borderTopColor" "borderBottomColor" "borderLeftColor" "borderRightColor"
    "borderVerticalColor" "borderHorizontalColor" "borderColor" (.text "transparent")
  ++ ["borderTopWidth", "borderRightWidth", "borderBottomWidth", "borderLeftWidth"].map
    (fun key => ⟨[key, "borderWidth"], some (.number 0), none⟩)
  ++ ["borderTopLeftRadius", "borderTopRightRadius", "borderBottomRightRadius",
    "borderBottomLeftRadius"].map (fun key => ⟨[key, "borderRadius"], some (.number 0), none⟩)
  ++ [⟨["background"], some (.text "transparent"), none⟩, ⟨["display"], some (.text "flex"), none⟩,
    ⟨["position"], some (.text "relative"), none⟩, ⟨["flexGrow"], some (.number 0), none⟩,
    ⟨["flexBasis"], some (.text "auto"), none⟩, ⟨["flexWrap"], some (.text "nowrap"), none⟩,
    ⟨["flexDirection"], some (.text "column"), none⟩, ⟨["alignSelf"], some (.text "auto"), none⟩,
    ⟨["alignItems"], some (.text "flex-start"), none⟩,
    ⟨["justifyContent"], some (.text "flex-start"), none⟩]
  ++ [⟨["top"], some (.number 0), some "bottom"⟩, ⟨["left"], some (.number 0), some "right"⟩]

/-- The properties that only give values to longhands. -/
def shorthands : List String := (Shorthand.cascades ++ Shorthand.fourWay).map Shorthand.whole

/-- The longhand of a property. One that is not in the table has its own value or none. -/
def of (key : String) : Longhand :=
  (table.find? (·.keys.head? == some key)).getD { keys := [key] }

end Longhand

namespace Style

/-- The value that a style gives to a longhand. -/
def value (s : Style) (l : Longhand) : Option Value :=
  (l.keys.findSome? s.get?).or (if l.opposite.any s.contains then none else l.initial)

/-- The effective value of a property that is no shorthand. -/
def effective (s : Style) (key : String) : Option Value := s.value (Longhand.of key)

end Style

/-! ### Linked values -/

namespace Value

/-- Every value is linked to itself. -/
theorem Linked.refl (v : Value) : v.Linked v := Relation.ReflTransGen.refl

/-- Equal values are linked. -/
theorem Linked.of_same {v w : Value} (h : v.same w = true) : v.Linked w :=
  Relation.ReflTransGen.single h

/-- A value that may be absent is linked to itself. -/
theorem Linked.option_refl (v : Option Value) : Option.Rel Linked v v := by
  cases v with
  | none => exact .none
  | some v => exact .some (.refl v)

/-- Links between values that may be absent can be put together. -/
theorem Linked.option_trans {u v w : Option Value} (h : Option.Rel Linked u v)
    (h' : Option.Rel Linked v w) : Option.Rel Linked u w := by
  cases h with
  | none => exact h'
  | some h =>
    cases h' with
    | some h' => exact .some (Relation.ReflTransGen.trans h h')

/-- Values that are linked stay so with the same fallback. -/
theorem Linked.option_or {v w : Option Value} (h : Option.Rel Linked v w) (u : Option Value) :
    Option.Rel Linked (v.or u) (w.or u) := by
  cases h with
  | none => exact option_refl u
  | some h => exact .some h

/-- A value that counts as the number zero equals it. -/
theorem same_zero_of_isNumber {v : Value} (h : v.isNumber 0 = true) :
    v.same (.number 0) = true := by
  cases v with
  | number x => exact h
  | text _ => cases h
  | list _ => cases h
  | record _ => cases h

end Value

/-! ### The steps -/

namespace Style

variable {s t : Style} {l : Longhand}

/-- The first value among some properties depends on these properties only. -/
theorem findSome?_get?_congr {keys : List String} (h : ∀ key ∈ keys, t.get? key = s.get? key) :
    keys.findSome? t.get? = keys.findSome? s.get? := by
  induction keys with
  | nil => rfl
  | cons key keys ih =>
    rw [List.findSome?_cons, List.findSome?_cons, h key List.mem_cons_self,
      ih fun k hm => h k (List.mem_cons_of_mem _ hm)]

/-- Whether an opposite property is present depends on the opposite properties only. -/
theorem opposite_any_congr (h : ∀ key ∈ l.opposite, t.get? key = s.get? key) :
    l.opposite.any t.contains = l.opposite.any s.contains := by
  cases hl : l.opposite with
  | none => rfl
  | some key =>
    rw [Option.any_some, Option.any_some, contains_eq_isSome, contains_eq_isSome, h key hl]

/-- The value of a longhand depends only on its cascade and on the presence of the opposite. -/
theorem value_congr (hk : ∀ key ∈ l.keys, t.get? key = s.get? key)
    (ho : ∀ key ∈ l.opposite, t.get? key = s.get? key) : t.value l = s.value l := by
  unfold value
  rw [findSome?_get?_congr hk, opposite_any_congr ho]

/-- Erasing a property that is neither in the cascade nor the opposite changes nothing. -/
theorem value_erase_of_not_mem {key : String} (hk : key ∉ l.keys) (ho : l.opposite ≠ some key) :
    (s.erase key).value l = s.value l := by
  apply value_congr
  · exact fun other hm => get?_erase_of_ne fun he => hk (he ▸ hm)
  · exact fun other hm => get?_erase_of_ne fun he => ho (he ▸ hm)

/-- Erasing the last property of a cascade: the initial value steps in for one that is equal to
it. -/
theorem value_erase_last {key : String} {v initial : Value} (hk : l.keys.getLast? = some key)
    (hb : key ∉ l.keys.dropLast) (hv : s.get? key = some v)
    (hi : l.initial = some initial) (hs : v.same initial = true)
    (ho : ∀ other ∈ l.opposite, s.get? other = none) :
    Option.Rel Value.Linked (s.value l) ((s.erase key).value l) := by
  have hsplit : l.keys = l.keys.dropLast ++ [key] := by
    obtain ⟨before, hbefore⟩ := List.getLast?_eq_some_iff.mp hk
    rw [hbefore, List.dropLast_concat]
  have hbefore : l.keys.dropLast.findSome? (s.erase key).get?
      = l.keys.dropLast.findSome? s.get? := by
    apply findSome?_get?_congr
    exact fun other hm => get?_erase_of_ne fun he => hb (he ▸ hm)
  have hkey : (s.erase key).get? key = none := by rw [get?_erase]; exact if_pos rfl
  have hopp : l.opposite.any (s.erase key).contains = false := by
    cases hl : l.opposite with
    | none => rfl
    | some other =>
      rw [Option.any_some, contains_eq_isSome, get?_erase, ho other hl]
      split <;> rfl
  unfold value
  rw [hsplit, hopp, hi, List.findSome?_append, List.findSome?_append, hbefore]
  cases l.keys.dropLast.findSome? s.get? with
  | some u => exact .some (.refl u)
  | none =>
    simp only [List.findSome?_cons, List.findSome?_nil, hv, hkey, Option.none_or, Option.some_or]
    exact .some (.of_same hs)

end Style

namespace Shorthand

/-- Along a cascade, the first property that a shorthand concerns is a part, and the whole follows
it. -/
def follows (shorthand : Shorthand) : List String → Bool
  | [] => true
  | key :: keys =>
    if key ∈ shorthand.parts then keys.head? == some shorthand.whole
    else key != shorthand.whole && shorthand.follows keys

end Shorthand

namespace Style

/-- Folding a shorthand: the whole, next in the cascade, steps in for a part. -/
theorem findSome?_merge {s : Style} {shorthand : Shorthand} {v : Value}
    (h : s.Agree shorthand.parts v) {keys : List String} (hk : shorthand.follows keys = true) :
    Option.Rel Value.Linked (keys.findSome? s.get?) (keys.findSome? (s.merge shorthand).get?) := by
  have hget := get?_merge_of_agree h
  induction keys with
  | nil => exact .none
  | cons key keys ih =>
    rw [List.findSome?_cons, List.findSome?_cons]
    unfold Shorthand.follows at hk
    by_cases hp : key ∈ shorthand.parts
    · -- the value of the part goes, and that of the whole is the next one met
      rw [if_pos hp, beq_iff_eq] at hk
      obtain ⟨w, hw, hlink⟩ := h.get? hp
      have hwv : Option.Rel Value.Linked (some w) (some v) := by
        rcases hlink with rfl | hs
        · exact .some (.refl w)
        · exact .some (.of_same hs)
      obtain ⟨rest, rfl⟩ : ∃ rest, keys = shorthand.whole :: rest := by
        cases keys with
        | nil => cases hk
        | cons whole rest => cases hk; exact ⟨rest, rfl⟩
      have hnext : (shorthand.whole :: rest).findSome? (s.merge shorthand).get? = some v := by
        rw [List.findSome?_cons, hget shorthand.whole, if_pos rfl]
      rw [hw, hnext, hget key]
      by_cases hkw : key = shorthand.whole
      · rw [if_pos hkw]
        exact hwv
      · rw [if_neg hkw, if_pos hp]
        exact hwv
    · rw [if_neg hp, Bool.and_eq_true, bne_iff_ne] at hk
      have hsame : (s.merge shorthand).get? key = s.get? key := by
        rw [hget key, if_neg hk.1, if_neg hp]
      rw [hsame]
      cases s.get? key with
      | some u => exact .some (.refl u)
      | none => exact ih hk.2

end Style

namespace Rule

/-- What keeps a rule from changing the value of a longhand: a shorthand lies along the cascade;
what is dropped is outside the cascade, or ends it and holds what the longhand falls back to; the
opposite is left alone. -/
def Respects (l : Longhand) : Rule → Prop
  | fold shorthand => shorthand.follows l.keys = true ∧
      ∀ key ∈ l.opposite, key ∉ shorthand.whole :: shorthand.parts
  | drop initial => l.opposite ≠ some initial.1 ∧ (initial.1 ∉ l.keys ∨
      l.keys.getLast? = some initial.1 ∧ initial.1 ∉ l.keys.dropLast ∧ l.initial = some initial.2 ∧
        l.opposite = none)
  | settle near far => l.opposite ≠ some near ∧ (near ∉ l.keys ∨
      l.keys = [near] ∧ l.initial = some (.number 0) ∧ l.opposite = some far)

variable {r : Rule} {l : Longhand}

/-- Step: a rule that respects a longhand keeps its value. -/
theorem value_apply (s : Style) (h : r.Respects l) :
    Option.Rel Value.Linked (s.value l) ((r.apply s).value l) := by
  by_cases ha : r.Applies s
  · cases r with
    | fold shorthand =>
      obtain ⟨v, hv⟩ := ha
      -- the opposite edge is neither the whole nor a part
      have hopp : l.opposite.any (s.merge shorthand).contains = l.opposite.any s.contains := by
        apply Style.opposite_any_congr
        intro key hm
        have hout := h.2 key hm
        rw [List.mem_cons, not_or] at hout
        rw [Style.get?_merge_of_agree hv, if_neg hout.1, if_neg hout.2]
      show Option.Rel Value.Linked (s.value l) ((s.merge shorthand).value l)
      unfold Style.value
      rw [hopp]
      exact Value.Linked.option_or (Style.findSome?_merge hv h.1) _
    | drop initial =>
      rw [apply_drop ha]
      obtain ⟨v, hv, hs⟩ := ha
      obtain ⟨ho, hout | ⟨hk, hb, hi, hn⟩⟩ := h
      · rw [Style.value_erase_of_not_mem hout ho]
        exact Value.Linked.option_refl _
      · apply Style.value_erase_last hk hb hv hi hs
        rw [hn]
        nofun
    | settle near far =>
      rw [apply_settle ha]
      obtain ⟨⟨v, hv, hz⟩, hfar⟩ := ha
      obtain ⟨ho, hout | ⟨hk, hi, hn⟩⟩ := h
      · rw [Style.value_erase_of_not_mem hout ho]
        exact Value.Linked.option_refl _
      · have hlast : l.keys.getLast? = some near := by rw [hk]; rfl
        have hfirst : near ∉ l.keys.dropLast := by rw [hk]; exact List.not_mem_nil
        apply Style.value_erase_last hlast hfirst hv hi (Value.same_zero_of_isNumber hz)
        intro other hm
        rw [hn] at hm
        cases hm
        exact hfar
  · rw [apply_of_not_applies ha]
    exact Value.Linked.option_refl _

/-- Run: rules that respect a longhand keep its value. -/
theorem value_foldl {rules : List Rule} (h : ∀ r ∈ rules, r.Respects l) (s : Style) :
    Option.Rel Value.Linked (s.value l) ((rules.foldl apply s).value l) := by
  induction rules generalizing s with
  | nil => exact Value.Linked.option_refl _
  | cons r rules ih =>
    apply Value.Linked.option_trans (value_apply s (h r List.mem_cons_self))
    exact ih (fun r' hr => h r' (List.mem_cons_of_mem _ hr)) (r.apply s)

end Rule

/-! ### All rules and all longhands -/

namespace Longhand

/-- All rules respect the longhands of the table. -/
theorem table_respected {l : Longhand} (hl : l ∈ table) : ∀ r ∈ Rule.all, r.Respects l := by
  have hfold : ∀ l ∈ table, ∀ shorthand ∈ Shorthand.cascades ++ Shorthand.fourWay,
      shorthand.follows l.keys = true ∧
        ∀ key ∈ l.opposite, key ∉ shorthand.whole :: shorthand.parts := by
    decide +kernel
  have hdrop : ∀ l ∈ table, ∀ initial ∈ Style.initialValues, (Rule.drop initial).Respects l := by
    simp [table, edges, Style.initialValues, Rule.Respects]
  have hsettle : ∀ l ∈ table, (Rule.settle "top" "bottom").Respects l ∧
      (Rule.settle "left" "right").Respects l := by
    simp [table, edges, Rule.Respects]
  rw [Rule.forall_mem_all]
  refine ⟨fun shorthand hm => ?_, fun shorthand hm => ?_, hdrop l hl, hsettle l hl⟩
  · exact hfold l hl shorthand (List.mem_append_left _ hm)
  · exact hfold l hl shorthand (List.mem_append_right _ hm)

/-- A property that a rule writes is a shorthand, and one that a rule removes is a shorthand or in
the table. -/
theorem mem_of_concerned : ∀ r ∈ Rule.all, (∀ key ∈ r.writes, key ∈ shorthands) ∧
    ∀ key ∈ r.needs, key ∈ shorthands ∨ ∃ l ∈ table, l.keys.head? = some key := by
  decide +kernel

/-- A cascade of one property that a shorthand does not concern has its parts in order. -/
theorem follows_singleton {shorthand : Shorthand} {key : String} (hw : key ≠ shorthand.whole)
    (hp : key ∉ shorthand.parts) : shorthand.follows [key] = true := by
  simp [Shorthand.follows, hw, hp]

/-- All rules respect a property that is on its own. -/
theorem own_respected {key : String} (hs : key ∉ shorthands)
    (ht : ∀ l ∈ table, l.keys.head? ≠ some key) : ∀ r ∈ Rule.all, r.Respects { keys := [key] } := by
  intro r hr
  obtain ⟨hwrites, hneeds⟩ := mem_of_concerned r hr
  have hw : key ∉ r.writes := fun hm => hs (hwrites key hm)
  have hn : key ∉ r.needs := by
    intro hm
    rcases hneeds key hm with h | ⟨l, hl, h⟩
    · exact hs h
    · exact ht l hl h
  cases r with
  | fold shorthand =>
    refine ⟨follows_singleton ?_ hn, nofun⟩
    exact fun he => hw (he ▸ List.mem_singleton_self _)
  | drop initial =>
    refine ⟨nofun, Or.inl fun hm => hn ?_⟩
    exact List.mem_singleton.mp hm ▸ List.mem_singleton_self _
  | settle near far =>
    refine ⟨nofun, Or.inl fun hm => hn ?_⟩
    exact List.mem_singleton.mp hm ▸ List.mem_singleton_self _

/-- All rules respect the longhand of a property that is no shorthand. -/
theorem of_respected {key : String} (hs : key ∉ shorthands) :
    ∀ r ∈ Rule.all, r.Respects (of key) := by
  unfold of
  cases hf : table.find? (·.keys.head? == some key) with
  | some l => exact table_respected (List.mem_of_find?_eq_some hf)
  | none =>
    apply own_respected hs
    intro l hl he
    exact List.find?_eq_none.mp hf l hl (beq_iff_eq.mpr he)

end Longhand

namespace Style

/-- **Simplification keeps the meaning of a style.** Whatever a style holds, every property that is
no shorthand has the same effective value after simplification, or one that a chain of equal values
leads to. -/
theorem effective_simplify (s : Style) (key : String) (h : key ∉ Longhand.shorthands) :
    Option.Rel Value.Linked (s.effective key) (s.simplify.effective key) := by
  unfold effective
  rw [simplify_eq_foldl]
  exact Rule.value_foldl (Longhand.of_respected h) s

/-- The effective margin at the top of a style that holds a shorthand beside two edges. -/
theorem effective_simplify_marginTop :
    "marginTop" ∉ Longhand.shorthands ∧
      let s := ofList [("marginVertical", .text "auto"), ("marginTop", .text "1%"),
        ("marginBottom", .text "1%"), ("marginHorizontal", .text "1%")]
      s.effective "marginTop" = some (.text "1%") ∧
        Option.Rel Value.Linked (s.effective "marginTop") (s.simplify.effective "marginTop") :=
  ⟨by decide, rfl, effective_simplify _ _ (by decide)⟩

end Style

end Viewsmith
