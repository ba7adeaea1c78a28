import Viewsmith.Proofs.SimplifyRules

/-!
# The order of a simplified style

A rule that folds a shorthand erases the whole, looks for the first of its parts, removes all of
them, and writes the whole where the first part stood. This module follows the entries through these
steps. What stands before the first part stays where it is, so that the position is within the
bounds, and the whole was erased, so that it is absent: the style never refuses it.

For the order, every property gets an origin: its position in the style that is simplified, or, when
it was written by a rule, the least origin of the parts that it replaces. One rule turns the list of
origins into a sublist of itself (`Rule.map_origins_sublist`), hence so do all rules one after the
other, and the list that they start from is `0, 1, 2, …`.

## Main definitions

* `Style.Insertion`, `Rule.insertions`: the requests to write a property at a position.
* `Rule.attempt?`: a rule that fails when its request is refused.
* `Style.origin?`: where a property of the simplified style comes from.
* `Style.isListed`: the properties that the tables of simplification name.

## Main statements

* `Style.entries_merge`: what a merge does to the entries.
* `Rule.map_origins_foldl_sublist`: the origins after several rules.
* `Style.simplify_in_origin_order`: no request is refused, the properties come in the order of their
  origins, and those that no table names stay, up to default offsets.
-/

namespace Viewsmith

namespace Style

/-! ### Requests -/

/-- A request to write a property at a position of a style. -/
structure Insertion where
  into : Style
  index : Nat
  key : String
  value : Value

namespace Insertion

/-- The style with the property, unless the request is refused. -/
def perform? (i : Insertion) : Option Style := i.into.insertAt? i.index i.key i.value

/-- The property is absent, and the position lies in the style or at its end. -/
def InBounds (i : Insertion) : Prop := i.key ∉ i.into.keys ∧ i.index ≤ i.into.size

end Insertion

/-- The request of a merge, if the parts agree. -/
def insertion? (s : Style) (shorthand : Shorthand) : Option Insertion :=
  (s.common? shorthand.parts).map fun v =>
    { into := (s.erase shorthand.whole).eraseAll shorthand.parts
      index := (s.erase shorthand.whole).firstIndex shorthand.parts
      key := shorthand.whole
      value := v }

/-- A merge makes its request and nothing else. -/
theorem merge_eq_perform (s : Style) (shorthand : Shorthand) :
    s.merge shorthand = ((s.insertion? shorthand).map fun i => i.perform?.getD s).getD s := by
  unfold merge insertion?
  cases s.common? shorthand.parts <;> rfl

/-- Where the parts do not agree, nothing is requested. -/
theorem insertion?_of_not_agree {s : Style} {shorthand : Shorthand}
    (h : ∀ v, ¬ s.Agree shorthand.parts v) : s.insertion? shorthand = none := by
  unfold insertion?
  rw [Option.map_eq_none_iff, Option.eq_none_iff_forall_ne_some]
  exact fun v hv => h v ((common?_eq_some_iff s shorthand.parts v).mp hv)

/-- Where the parts agree, the whole is requested at the place of the first of them. -/
theorem insertion?_of_agree {s : Style} {shorthand : Shorthand} {v : Value}
    (h : s.Agree shorthand.parts v) :
    s.insertion? shorthand = some
      { into := (s.erase shorthand.whole).eraseAll shorthand.parts
        index := (s.erase shorthand.whole).firstIndex shorthand.parts
        key := shorthand.whole
        value := v } := by
  unfold insertion?
  rw [(common?_eq_some_iff s shorthand.parts v).mpr h, Option.map_some]

/-! ### The entries -/

/-- A property that has a value is one of the keys. -/
theorem mem_keys_of_get? {s : Style} {key : String} {v : Value} (h : s.get? key = some v) :
    key ∈ s.keys := by
  rw [mem_keys_iff, contains_eq_isSome, h]
  rfl

/-- An entry is what is found for its key. -/
theorem get?_of_mem_entries (s : Style) {e : String × Value} (h : e ∈ s.entries) :
    s.get? e.1 = some e.2 := by
  obtain ⟨l, m, hs⟩ := List.append_of_mem h
  have hnodup := s.nodup
  rw [hs, List.map_append, List.map_cons] at hnodup
  rw [get?, List.lookup_eq_some_iff]
  refine ⟨l, m, hs, fun e' he' => bne_iff_ne.mpr fun heq => ?_⟩
  exact (List.nodup_append.mp hnodup).2.2 e'.1
    (List.mem_map_of_mem he') e.1 List.mem_cons_self heq.symm

/-- The properties of a style are at the positions that are counted from zero. -/
theorem map_indexOf?_keys (s : Style) : s.keys.map s.indexOf? = (List.range s.size).map some := by
  have hlength : s.keys.length = s.size := List.length_map _
  apply List.ext_getElem
  · rw [List.length_map, List.length_map, List.length_range, hlength]
  · intro i hi hi'
    rw [List.getElem_map, List.getElem_map, List.getElem_range, indexOf?, List.idxOf?_eq_some_iff]
    have hbound : i < s.keys.length := by simpa using hi
    exact ⟨hbound, rfl,
      fun j hj => List.pairwise_iff_getElem.mp s.nodup j i (Nat.lt_trans hj hbound) hbound hj⟩

/-- Erasing several properties leaves the other entries, in order. -/
theorem entries_eraseAll (s : Style) (keys : List String) :
    (s.eraseAll keys).entries = s.entries.filter fun e => !keys.contains e.1 := by
  unfold eraseAll
  induction keys generalizing s with
  | nil => exact (List.filter_eq_self.mpr fun _ _ => rfl).symm
  | cons key keys ih =>
    rw [List.foldl_cons, ih]
    show (s.entries.filter fun e => e.1 ≠ key).filter _ = _
    rw [List.filter_filter]
    refine List.filter_congr fun e _ => ?_
    by_cases h : e.1 = key <;> simp [h]

/-- A property that is absent is written at any position. -/
theorem insertAt?_of_not_mem {s : Style} {key : String} (h : key ∉ s.keys) (index : Nat)
    (v : Value) :
    ∃ t, s.insertAt? index key v = some t ∧ t.entries = place index (key, v) s.entries := by
  have hcontains : s.contains key = false := by
    rw [← Bool.not_eq_true, ← mem_keys_iff]
    exact h
  have hwithout : without key s.entries = s.entries := by
    refine List.filter_eq_self.mpr fun e he => ?_
    have hne : e.1 ≠ key := fun hkey => h (hkey ▸ List.mem_map_of_mem he)
    simpa using hne
  refine ⟨_, by unfold insertAt?; rw [hcontains]; rfl, ?_⟩
  show place index (key, v) (without key s.entries) = _
  rw [hwithout]

/-- The first of some properties stands behind all that stands before it. -/
theorem firstIndex_of_split {s : Style} {keys : List String} {before after : List (String × Value)}
    {first : String × Value} (hs : s.entries = before ++ first :: after) (hfirst : first.1 ∈ keys)
    (hbefore : ∀ e ∈ before, e.1 ∉ keys) : s.firstIndex keys = before.length := by
  have hkeys : s.keys = before.map Prod.fst ++ first.1 :: after.map Prod.fst := by
    rw [Style.keys, hs, List.map_append, List.map_cons]
  have hnot : ∀ key ∈ keys, key ∉ before.map Prod.fst := by
    rintro key hk hm
    obtain ⟨e, he, rfl⟩ := List.mem_map.mp hm
    exact hbefore e he hk
  have hmin : (keys.filterMap s.indexOf?).min? = some before.length := by
    rw [List.min?_eq_some_iff]
    refine ⟨List.mem_filterMap.mpr ⟨first.1, hfirst, ?_⟩, fun i hi => ?_⟩
    · rw [indexOf?, List.idxOf?_eq_some_iff, hkeys]
      refine ⟨by simp, by simp, fun j hj hjkey => hnot first.1 hfirst ?_⟩
      rw [List.getElem_append_left (by simpa using hj)] at hjkey
      exact hjkey ▸ List.getElem_mem _
    · -- a part that stands earlier would be one of those before the first
      obtain ⟨key, hk, hi⟩ := List.mem_filterMap.mp hi
      rw [indexOf?, List.idxOf?_eq_some_iff, hkeys] at hi
      obtain ⟨hlt, hkey, -⟩ := hi
      refine Nat.not_lt.mp fun hbound => hnot key hk ?_
      rw [List.getElem_append_left (by simpa using hbound)] at hkey
      exact hkey ▸ List.getElem_mem _
  rw [firstIndex, hmin, Option.getD_some]

/-- Parts that agree are present without the whole, so that one of them comes first. -/
theorem exists_split_of_agree {s : Style} {shorthand : Shorthand} {v : Value}
    (h : s.Agree shorthand.parts v) (hwhole : shorthand.whole ∉ shorthand.parts) :
    ∃ before first after, (s.erase shorthand.whole).entries = before ++ first :: after ∧
      first.1 ∈ shorthand.parts ∧ ∀ e ∈ before, e.1 ∉ shorthand.parts := by
  obtain ⟨part, hpart⟩ : ∃ part, part ∈ shorthand.parts := by
    cases hp : shorthand.parts with
    | nil =>
      rw [hp] at h
      exact h.elim
    | cons part parts => exact ⟨part, List.mem_cons_self⟩
  obtain ⟨w, hw, -⟩ := h.get? hpart
  have hne : part ≠ shorthand.whole := fun heq => hwhole (heq ▸ hpart)
  have hget : (s.erase shorthand.whole).get? part = some w := by
    rw [get?_erase_of_ne hne, hw]
  obtain ⟨e, he, hkey⟩ := List.mem_map.mp (mem_keys_of_get? hget)
  have hfind :
      ((s.erase shorthand.whole).entries.find? fun e => shorthand.parts.contains e.1).isSome := by
    rw [List.find?_isSome]
    exact ⟨e, he, by simpa [hkey] using hpart⟩
  obtain ⟨first, hfirst⟩ := Option.isSome_iff_exists.mp hfind
  obtain ⟨hp, before, after, hsplit, hbefore⟩ := List.find?_eq_some_iff_append.mp hfirst
  exact ⟨before, first, after, hsplit, by simpa using hp, fun e he => by simpa using hbefore e he⟩

section Split

variable {s : Style} {shorthand : Shorthand} {v : Value} {before after : List (String × Value)}
  {first : String × Value}

/-- The entries without the whole and the parts. -/
theorem entries_eraseAll_of_split
    (hs : (s.erase shorthand.whole).entries = before ++ first :: after)
    (hfirst : first.1 ∈ shorthand.parts) (hbefore : ∀ e ∈ before, e.1 ∉ shorthand.parts) :
    ((s.erase shorthand.whole).eraseAll shorthand.parts).entries =
      before ++ after.filter fun e => !shorthand.parts.contains e.1 := by
  have hkeep : before.filter (fun e => !shorthand.parts.contains e.1) = before :=
    List.filter_eq_self.mpr fun e he => by simpa using hbefore e he
  rw [entries_eraseAll, hs, List.filter_append, hkeep,
    List.filter_cons_of_neg (by simpa using hfirst)]

/-- The request of a merge is in bounds. -/
theorem inBounds_of_split (hs : (s.erase shorthand.whole).entries = before ++ first :: after)
    (hfirst : first.1 ∈ shorthand.parts) (hbefore : ∀ e ∈ before, e.1 ∉ shorthand.parts) :
    shorthand.whole ∉ ((s.erase shorthand.whole).eraseAll shorthand.parts).keys ∧
      (s.erase shorthand.whole).firstIndex shorthand.parts ≤
        ((s.erase shorthand.whole).eraseAll shorthand.parts).size := by
  constructor
  · rw [mem_keys_iff, contains_eq_isSome, get?_eraseAll, get?_erase, if_pos rfl, ite_self]
    exact Bool.false_ne_true
  · rw [firstIndex_of_split hs hfirst hbefore, size, entries_eraseAll_of_split hs hfirst hbefore,
      List.length_append]
    exact Nat.le_add_right _ _

/-- Where the parts agree, the whole takes the place of the first of them, and the others are
removed. -/
theorem entries_merge (h : s.Agree shorthand.parts v)
    (hs : (s.erase shorthand.whole).entries = before ++ first :: after)
    (hfirst : first.1 ∈ shorthand.parts) (hbefore : ∀ e ∈ before, e.1 ∉ shorthand.parts) :
    (s.merge shorthand).entries =
      before ++ (shorthand.whole, v) :: after.filter fun e => !shorthand.parts.contains e.1 := by
  obtain ⟨t, ht, hentries⟩ := insertAt?_of_not_mem (inBounds_of_split hs hfirst hbefore).1
    ((s.erase shorthand.whole).firstIndex shorthand.parts) v
  rw [merge_eq_perform, insertion?_of_agree h, Option.map_some, Option.getD_some,
    Insertion.perform?, ht, Option.getD_some, hentries, firstIndex_of_split hs hfirst hbefore,
    entries_eraseAll_of_split hs hfirst hbefore, place, List.take_left, List.drop_left]

end Split

end Style

/-! ### Rules -/

namespace Rule

/-- The request of a rule. Only shorthands are written. -/
def insertion? (s : Style) : Rule → Option Style.Insertion
  | fold shorthand => s.insertion? shorthand
  | _ => none

/-- The requests of several rules that are tried one after the other. -/
def insertions : List Rule → Style → List Style.Insertion
  | [], _ => []
  | r :: rules, s => (r.insertion? s).toList ++ insertions rules (r.apply s)

/-- Try a rule; fail if its request is refused. -/
def attempt? (s : Style) (r : Rule) : Option Style :=
  match r.insertion? s with
  | some i => i.perform?
  | none => some (r.apply s)

/-- The origins after a rule: what it writes has the least origin of the properties that it
needs. -/
def origins (s : Style) (origin : String → Option Nat) (r : Rule) (key : String) : Option Nat :=
  match r.insertion? s with
  | some i => if key = i.key then (r.needs.filterMap origin).min? else origin key
  | none => origin key

/-- The origins after several rules. -/
def originsAfter : List Rule → Style → (String → Option Nat) → String → Option Nat
  | [], _, origin => origin
  | r :: rules, s, origin => originsAfter rules (r.apply s) (r.origins s origin)

/-- A rule does not need what it writes. -/
def Proper (r : Rule) : Prop := ∀ key ∈ r.writes, key ∉ r.needs

instance (r : Rule) : Decidable r.Proper := inferInstanceAs (Decidable (∀ key ∈ r.writes, _))

/-- No rule needs what it writes. -/
theorem all_proper : ∀ r ∈ all, r.Proper := by
  decide

variable {s : Style} {r : Rule} {origin : String → Option Nat}

/-- A rule that does not apply requests nothing. -/
theorem insertion?_of_not_applies (h : ¬ r.Applies s) : r.insertion? s = none := by
  cases r with
  | fold shorthand => exact Style.insertion?_of_not_agree fun v hv => h ⟨v, hv⟩
  | drop initial => rfl
  | settle near far => rfl

/-- Without a request the origins stay. -/
theorem origins_of_insertion?_eq_none (h : r.insertion? s = none) :
    r.origins s origin = origin := by
  funext key
  unfold origins
  rw [h]

/-- Step: the request of a rule is in bounds, and is not refused. -/
theorem inBounds_of_insertion? (hr : r.Proper) {i : Style.Insertion}
    (hi : r.insertion? s = some i) : i.InBounds ∧ i.perform? = some (r.apply s) := by
  cases r with
  | drop initial => cases hi
  | settle near far => cases hi
  | fold shorthand =>
    by_cases h : (fold shorthand).Applies s
    · obtain ⟨v, hv⟩ := h
      have hwhole : shorthand.whole ∉ shorthand.parts := hr _ List.mem_cons_self
      obtain ⟨before, first, after, hs, hfirst, hbefore⟩ := Style.exists_split_of_agree hv hwhole
      have hbounds := Style.inBounds_of_split hs hfirst hbefore
      have hrequest := Style.insertion?_of_agree hv
      obtain ⟨t, ht, -⟩ := Style.insertAt?_of_not_mem hbounds.1
        ((s.erase shorthand.whole).firstIndex shorthand.parts) v
      cases hrequest.symm.trans hi
      refine ⟨hbounds, ht.trans ?_⟩
      show some t = some (s.merge shorthand)
      rw [Style.merge_eq_perform, hrequest, Option.map_some, Option.getD_some,
        Style.Insertion.perform?, ht, Option.getD_some]
    · rw [insertion?_of_not_applies h] at hi
      cases hi

/-- No request of a proper rule is refused. -/
theorem attempt?_eq (hr : r.Proper) (s : Style) : attempt? s r = some (r.apply s) := by
  unfold attempt?
  cases hi : r.insertion? s with
  | none => rfl
  | some i => exact (inBounds_of_insertion? hr hi).2

/-- Run: no rule fails. -/
theorem foldlM_attempt? {rules : List Rule} (h : ∀ r ∈ rules, r.Proper) (s : Style) :
    rules.foldlM attempt? s = some (rules.foldl apply s) := by
  induction rules generalizing s with
  | nil => rfl
  | cons r rules ih =>
    obtain ⟨hr, hrules⟩ := List.forall_mem_cons.mp h
    rw [List.foldlM_cons, attempt?_eq hr]
    exact ih hrules (r.apply s)

/-- Run: every request is in bounds. -/
theorem inBounds_of_mem_insertions {rules : List Rule} (h : ∀ r ∈ rules, r.Proper) (s : Style) :
    ∀ i ∈ insertions rules s, i.InBounds := by
  induction rules generalizing s with
  | nil => exact fun i hi => absurd hi List.not_mem_nil
  | cons r rules ih =>
    obtain ⟨hr, hrules⟩ := List.forall_mem_cons.mp h
    intro i hi
    rcases List.mem_append.mp hi with hi | hi
    · exact (inBounds_of_insertion? hr (Option.mem_toList.mp hi)).1
    · exact ih hrules (r.apply s) i hi

/-! ### Origins -/

/-- The properties have origins, and come in their order. -/
def Ordered (origin : String → Option Nat) (keys : List String) : Prop :=
  ∃ positions : List Nat, keys.map origin = positions.map some ∧ positions.Pairwise (· < ·)

/-- Properties whose origins are some of those of ordered ones, in order, are ordered. -/
theorem Ordered.of_sublist {origin origin' : String → Option Nat} {keys keys' : List String}
    (h : Ordered origin keys) (hsub : (keys'.map origin').Sublist (keys.map origin)) :
    Ordered origin' keys' := by
  obtain ⟨positions, hmap, hpairwise⟩ := h
  rw [hmap] at hsub
  obtain ⟨positions', hsub', hmap'⟩ := List.sublist_map_iff.mp hsub
  exact ⟨positions', hmap', hpairwise.sublist hsub'⟩

/-- Of several properties that have origins in their order, the first one has the least. -/
theorem min?_filterMap_of_ordered {keys parts : List String} {first : String}
    (h : Ordered origin (first :: keys)) (hfirst : first ∈ parts)
    (hparts : ∀ part ∈ parts, part ∈ first :: keys) :
    (parts.filterMap origin).min? = origin first := by
  obtain ⟨positions, hmap, hpairwise⟩ := h
  obtain ⟨p, positions, rfl⟩ : ∃ p ps, positions = p :: ps := by
    cases positions with
    | nil => cases hmap
    | cons p ps => exact ⟨p, ps, rfl⟩
  obtain ⟨hp, hrest⟩ := List.cons.inj hmap
  rw [hp, List.min?_eq_some_iff]
  refine ⟨List.mem_filterMap.mpr ⟨first, hfirst, hp⟩, fun q hq => ?_⟩
  obtain ⟨part, hpart, hq⟩ := List.mem_filterMap.mp hq
  rcases List.mem_cons.mp (hparts part hpart) with rfl | hmem
  · exact Nat.le_of_eq (Option.some.inj (hp.symm.trans hq))
  · have hmem' : some q ∈ positions.map some := hrest ▸ hq ▸ List.mem_map_of_mem hmem
    obtain ⟨q', hq', heq⟩ := List.mem_map.mp hmem'
    exact Option.some.inj heq ▸ Nat.le_of_lt ((List.pairwise_cons.mp hpairwise).1 q' hq')

/-- The whole of a shorthand gets the least origin of its parts. -/
theorem origins_fold {shorthand : Shorthand} {v : Value} (h : s.Agree shorthand.parts v)
    (key : String) :
    (fold shorthand).origins s origin key =
      if key = shorthand.whole then (shorthand.parts.filterMap origin).min? else origin key := by
  have hrequest : (fold shorthand).insertion? s = _ := Style.insertion?_of_agree h
  unfold origins
  rw [hrequest]
  rfl

/-- Parts that agree are not removed with the whole. -/
theorem mem_keys_erase_of_agree {shorthand : Shorthand} {v : Value} (h : s.Agree shorthand.parts v)
    (hwhole : shorthand.whole ∉ shorthand.parts) {part : String} (hpart : part ∈ shorthand.parts) :
    part ∈ (s.erase shorthand.whole).keys := by
  obtain ⟨w, hw, -⟩ := h.get? hpart
  have hne : part ≠ shorthand.whole := fun heq => hwhole (heq ▸ hpart)
  exact Style.mem_keys_of_get? ((Style.get?_erase_of_ne hne).trans hw)

section Fold

variable {shorthand : Shorthand} {v : Value}

/-- The whole has the origin of the first part, since all other parts stand behind it. -/
theorem origins_whole_of_split {before after : List (String × Value)} {first : String × Value}
    (hv : s.Agree shorthand.parts v) (hwhole : shorthand.whole ∉ shorthand.parts)
    (h : Ordered origin (s.erase shorthand.whole).keys)
    (hs : (s.erase shorthand.whole).entries = before ++ first :: after)
    (hfirst : first.1 ∈ shorthand.parts) (hbefore : ∀ e ∈ before, e.1 ∉ shorthand.parts) :
    (fold shorthand).origins s origin shorthand.whole = origin first.1 := by
  have hkeys :
      (s.erase shorthand.whole).keys = before.map Prod.fst ++ first.1 :: after.map Prod.fst := by
    rw [Style.keys, hs, List.map_append, List.map_cons]
  have hbehind : Ordered origin (first.1 :: after.map Prod.fst) := by
    refine h.of_sublist (List.Sublist.map origin ?_)
    rw [hkeys]
    exact List.sublist_append_right _ _
  rw [origins_fold hv, if_pos rfl]
  refine min?_filterMap_of_ordered hbehind hfirst fun part hpart => ?_
  have hmem := mem_keys_erase_of_agree hv hwhole hpart
  rw [hkeys, List.mem_append] at hmem
  refine hmem.resolve_left fun hm => ?_
  obtain ⟨e, he, rfl⟩ := List.mem_map.mp hm
  exact hbefore e he hpart

/-- What was there before keeps its origin. -/
theorem map_origins_of_subset {keys : List String} (hv : s.Agree shorthand.parts v)
    (hkeys : keys ⊆ (s.erase shorthand.whole).keys) :
    keys.map ((fold shorthand).origins s origin) = keys.map origin := by
  refine List.map_congr_left fun key hkey => ?_
  have hne : key ≠ shorthand.whole := by
    rintro rfl
    exact Style.not_mem_without _ _ (hkeys hkey)
  rw [origins_fold hv, if_neg hne]

/-- Step: a shorthand that is folded inherits the origin of the first of its parts, and the origins
of the others are left out. -/
theorem map_origins_fold_sublist (hv : s.Agree shorthand.parts v)
    (hwhole : shorthand.whole ∉ shorthand.parts) (h : Ordered origin s.keys) :
    ((s.merge shorthand).keys.map ((fold shorthand).origins s origin)).Sublist
      (s.keys.map origin) := by
  obtain ⟨before, first, after, hs, hfirst, hbefore⟩ := Style.exists_split_of_agree hv hwhole
  have hkeys :
      (s.erase shorthand.whole).keys = before.map Prod.fst ++ first.1 :: after.map Prod.fst := by
    rw [Style.keys, hs, List.map_append, List.map_cons]
  have hsub : ((s.erase shorthand.whole).keys.map origin).Sublist (s.keys.map origin) := by
    rw [Style.keys_erase]
    exact List.filter_sublist.map origin
  have hleast := origins_whole_of_split hv hwhole (h.of_sublist hsub) hs hfirst hbefore
  have hafter : ((after.filter fun e => !shorthand.parts.contains e.1).map Prod.fst).Sublist
      (after.map Prod.fst) := List.filter_sublist.map Prod.fst
  rw [Style.keys, Style.entries_merge hv hs hfirst hbefore, List.map_append, List.map_cons,
    List.map_append, List.map_cons, hleast, map_origins_of_subset hv ?_,
    map_origins_of_subset hv ?_]
  · rw [hkeys, List.map_append, List.map_cons] at hsub
    exact (List.Sublist.append_left ((hafter.map origin).cons_cons _) _).trans hsub
  · rw [hkeys]
    exact fun key hkey => List.mem_append_right _ (List.mem_cons_of_mem _ (hafter.subset hkey))
  · rw [hkeys]
    exact List.subset_append_left _ _

end Fold

/-- Step: a rule turns the list of origins into a sublist. -/
theorem map_origins_sublist (hr : r.Proper) (h : Ordered origin s.keys) :
    ((r.apply s).keys.map (r.origins s origin)).Sublist (s.keys.map origin) := by
  by_cases happlies : r.Applies s
  · cases r with
    | fold shorthand =>
      obtain ⟨v, hv⟩ := happlies
      exact map_origins_fold_sublist hv (hr _ List.mem_cons_self) h
    | drop initial =>
      rw [origins_of_insertion?_eq_none rfl, apply_drop happlies, Style.keys_erase]
      exact List.filter_sublist.map origin
    | settle near far =>
      rw [origins_of_insertion?_eq_none rfl, apply_settle happlies, Style.keys_erase]
      exact List.filter_sublist.map origin
  · simp only [origins_of_insertion?_eq_none (insertion?_of_not_applies happlies),
      apply_of_not_applies happlies, List.Sublist.refl]

/-- Run: several rules turn the list of origins into a sublist. -/
theorem map_origins_foldl_sublist {rules : List Rule} (hrules : ∀ r ∈ rules, r.Proper)
    (h : Ordered origin s.keys) :
    ((rules.foldl apply s).keys.map (originsAfter rules s origin)).Sublist (s.keys.map origin) := by
  induction rules generalizing s origin with
  | nil => exact List.Sublist.refl _
  | cons r rules ih =>
    obtain ⟨hr, hrest⟩ := List.forall_mem_cons.mp hrules
    have hstep := map_origins_sublist hr h
    exact (ih hrest (h.of_sublist hstep)).trans hstep

/-! ### Entries that rules do not touch -/

/-- Entries of a sort that has no entry of one key are not touched by erasing this key. -/
theorem filter_entries_erase {p : String × Value → Bool} {key : String}
    (h : ∀ v, p (key, v) = false) (s : Style) :
    (s.erase key).entries.filter p = s.entries.filter p := by
  show (s.entries.filter fun e => e.1 ≠ key).filter p = _
  rw [List.filter_filter]
  refine List.filter_congr fun e _ => ?_
  obtain ⟨k, v⟩ := e
  by_cases hk : k = key
  · rw [hk, h v, Bool.false_and]
  · simp [hk]

/-- Entries of a sort that has neither the whole nor the parts of a shorthand stay when it is
folded. -/
theorem filter_entries_merge {p : String × Value → Bool} {shorthand : Shorthand} {v : Value}
    (hv : s.Agree shorthand.parts v) (hproper : shorthand.whole ∉ shorthand.parts)
    (hwhole : ∀ v, p (shorthand.whole, v) = false)
    (hpart : ∀ e, e.1 ∈ shorthand.parts → p e = false) :
    (s.merge shorthand).entries.filter p = s.entries.filter p := by
  obtain ⟨before, first, after, hs, hfirst, hbefore⟩ := Style.exists_split_of_agree hv hproper
  have hafter :
      (after.filter fun e => !shorthand.parts.contains e.1).filter p = after.filter p := by
    rw [List.filter_filter]
    refine List.filter_congr fun e _ => ?_
    by_cases he : e.1 ∈ shorthand.parts
    · rw [hpart e he, Bool.false_and]
    · simp [he]
  calc (s.merge shorthand).entries.filter p = before.filter p ++ after.filter p := by
        rw [Style.entries_merge hv hs hfirst hbefore, List.filter_append,
          List.filter_cons_of_neg (by rw [hwhole v]; exact Bool.false_ne_true), hafter]
    _ = (s.erase shorthand.whole).entries.filter p := by
        rw [hs, List.filter_append,
          List.filter_cons_of_neg (by rw [hpart first hfirst]; exact Bool.false_ne_true)]
    _ = s.entries.filter p := filter_entries_erase hwhole s

/-- Step: entries of a sort that a rule neither writes nor needs stay, in their order. -/
theorem filter_entries_apply {p : String × Value → Bool} (hr : r.Proper)
    (h : ∀ key ∈ r.writes ++ r.needs, ∀ v, p (key, v) = false) (s : Style) :
    (r.apply s).entries.filter p = s.entries.filter p := by
  by_cases happlies : r.Applies s
  · cases r with
    | fold shorthand =>
      obtain ⟨v, hv⟩ := happlies
      exact filter_entries_merge hv (hr _ List.mem_cons_self)
        (h _ (List.mem_append_left _ List.mem_cons_self))
        fun e he => h e.1 (List.mem_append_right _ he) e.2
    | drop initial =>
      rw [apply_drop happlies]
      exact filter_entries_erase (h _ List.mem_cons_self) s
    | settle near far =>
      rw [apply_settle happlies]
      exact filter_entries_erase (h _ List.mem_cons_self) s
  · rw [apply_of_not_applies happlies]

/-- Run: entries of a sort that no rule writes or needs stay, in their order. -/
theorem filter_entries_foldl {p : String × Value → Bool} {rules : List Rule}
    (hrules : ∀ r ∈ rules, r.Proper)
    (h : ∀ r ∈ rules, ∀ key ∈ r.writes ++ r.needs, ∀ v, p (key, v) = false) (s : Style) :
    (rules.foldl apply s).entries.filter p = s.entries.filter p := by
  induction rules generalizing s with
  | nil => rfl
  | cons r rules ih =>
    obtain ⟨hr, hproper⟩ := List.forall_mem_cons.mp hrules
    obtain ⟨hkeys, hrest⟩ := List.forall_mem_cons.mp h
    rw [List.foldl_cons, ih hproper hrest, filter_entries_apply hr hkeys]

/-- A near offset of zero is dropped when there is no far one, and nothing else. -/
theorem entries_apply_settle (near far : String) (s : Style) :
    ((settle near far).apply s).entries =
      s.entries.filter fun e => !(e.1 == near && e.2.isNumber 0 && !s.contains far) := by
  have hget : ∀ e ∈ s.entries, s.get? e.1 = some e.2 := fun _ => s.get?_of_mem_entries
  by_cases happlies : (settle near far).Applies s
  · rw [apply_settle happlies]
    obtain ⟨⟨v, hv, hzero⟩, hfar⟩ := happlies
    refine List.filter_congr fun e he => ?_
    rw [Style.contains_eq_isSome, hfar]
    by_cases hk : e.1 = near
    · have hvalue : e.2 = v := Option.some.inj ((hget e he).symm.trans (hk ▸ hv))
      simp [hk, hvalue, hzero]
    · simp [hk]
  · rw [apply_of_not_applies happlies]
    refine (List.filter_eq_self.mpr fun e he => ?_).symm
    rw [Bool.not_eq_true', ← Bool.not_eq_true]
    intro hdefault
    simp only [Bool.and_eq_true, beq_iff_eq, Bool.not_eq_true'] at hdefault
    refine happlies ⟨⟨e.2, hdefault.1.1 ▸ hget e he, hdefault.1.2⟩, ?_⟩
    rw [← Option.isNone_iff_eq_none, ← Option.isSome_eq_false_iff, ← Style.contains_eq_isSome]
    exact hdefault.2

end Rule

namespace Style

/-- The properties that the tables of simplification name: shorthands, their parts, and those that
have an initial value. -/
def listedKeys : List String :=
  (Shorthand.cascades ++ Shorthand.fourWay).flatMap
    (fun shorthand => shorthand.whole :: shorthand.parts) ++
    initialValues.map Prod.fst

/-- Whether the tables of simplification name a property. -/
def isListed (key : String) : Bool := listedKeys.contains key

/-- Whether an entry of a style is a distance of zero to the top or to the left, without one to the
opposite edge. -/
def isDefaultOffset (s : Style) (e : String × Value) : Bool :=
  e.2.isNumber 0 && (e.1 == "top" && !s.contains "bottom" || e.1 == "left" && !s.contains "right")

/-- The origin of a property of the simplified style: its position if it was there before, else the
least origin of the properties that were folded into it. -/
def origin? (s : Style) : String → Option Nat := Rule.originsAfter Rule.all s s.indexOf?

/-- The rules before the last two need and write listed properties only. -/
theorem isListed_of_mem_take :
    ∀ r ∈ Rule.all.take 30, ∀ key ∈ r.writes ++ r.needs, isListed key = true := by
  decide +kernel

/-- Up to the two rules that settle offsets, a property that no table names stays present or
absent. -/
theorem contains_foldl_of_not_isListed (s : Style) {key : String} (h : isListed key = false) :
    ((Rule.all.take 30).foldl Rule.apply s).contains key = s.contains key := by
  have hnot : ∀ r ∈ Rule.all.take 30, key ∉ r.writes ++ r.needs := by
    intro r hr hm
    rw [isListed_of_mem_take r hr key hm] at h
    cases h
  have huntouched : ∀ r ∈ Rule.all.take 30, key ∉ r.writes ∧ key ∉ r.needs :=
    fun r hr => not_or.mp fun hm => hnot r hr (List.mem_append.mpr hm)
  rw [contains_eq_isSome, contains_eq_isSome, get?_foldl_of_untouched huntouched]

/-- Simplification keeps the entries that no table names, in their order, up to default offsets. -/
theorem filter_entries_simplify (s : Style) :
    (s.simplify.entries.filter fun e => !isListed e.1) =
      s.entries.filter fun e => !isListed e.1 && !s.isDefaultOffset e := by
  -- all rules but the last two touch listed properties only
  have hall : Rule.all = Rule.all.take 30 ++ [.settle "top" "bottom", .settle "left" "right"] := rfl
  have hproper : ∀ r ∈ Rule.all.take 30, r.Proper :=
    fun r hr => Rule.all_proper r (List.mem_of_mem_take hr)
  generalize ht : (Rule.all.take 30).foldl Rule.apply s = t
  have hkept :
      (t.entries.filter fun e => !isListed e.1) = s.entries.filter fun e => !isListed e.1 := by
    rw [← ht]
    refine Rule.filter_entries_foldl hproper (fun r hr key hkey v => ?_) s
    rw [isListed_of_mem_take r hr key hkey]
    rfl
  have hcontains : ∀ key, isListed key = false → t.contains key = s.contains key :=
    fun _ hkey => ht ▸ s.contains_foldl_of_not_isListed hkey
  have hright : ((Rule.settle "top" "bottom").apply t).contains "right" = t.contains "right" := by
    have huntouched :
        ∀ r ∈ [Rule.settle "top" "bottom"], "right" ∉ r.writes ∧ "right" ∉ r.needs := by decide
    rw [contains_eq_isSome, contains_eq_isSome]
    exact congrArg Option.isSome (get?_foldl_of_untouched huntouched t)
  rw [simplify_eq_foldl, hall, List.foldl_append, ht, List.foldl_cons, List.foldl_cons,
    List.foldl_nil, Rule.entries_apply_settle, hright, Rule.entries_apply_settle,
    hcontains "bottom" (by decide +kernel), hcontains "right" (by decide +kernel)]
  calc _ = (t.entries.filter fun e => !isListed e.1).filter fun e => !s.isDefaultOffset e := by
        simp only [List.filter_filter]
        refine List.filter_congr fun e _ => ?_
        unfold isDefaultOffset
        cases isListed e.1 <;> cases e.2.isNumber 0 <;> simp [Bool.and_comm]
    _ = _ := by
        rw [hkept, List.filter_filter]
        exact List.filter_congr fun e _ => Bool.and_comm _ _

/-- **Simplification keeps the order of origins.** Every request to write a property at a position
is for an absent property and a position within the bounds, so that none is refused. The properties
of the simplified style come in strictly increasing order of their origins. The entries that no
table names keep their values and their order, except that a distance of zero to the top or to the
left is dropped without one to the opposite edge. -/
theorem simplify_in_origin_order (s : Style) :
    (∀ i ∈ Rule.insertions Rule.all s, i.key ∉ i.into.keys ∧ i.index ≤ i.into.size) ∧
      Rule.all.foldlM Rule.attempt? s = some s.simplify ∧
      (∃ positions : List Nat, s.simplify.keys.map s.origin? = positions.map some ∧
        positions.Pairwise (· < ·)) ∧
      (s.simplify.entries.filter fun e => !isListed e.1) =
        s.entries.filter fun e => !isListed e.1 && !s.isDefaultOffset e := by
  have hstart : Rule.Ordered s.indexOf? s.keys := ⟨_, s.map_indexOf?_keys, List.pairwise_lt_range⟩
  refine ⟨Rule.inBounds_of_mem_insertions Rule.all_proper s, ?_, ?_, s.filter_entries_simplify⟩
  · rw [simplify_eq_foldl]
    exact Rule.foldlM_attempt? Rule.all_proper s
  · rw [simplify_eq_foldl]
    exact hstart.of_sublist (Rule.map_origins_foldl_sublist Rule.all_proper hstart)

/-- A distance of zero to the top, which no table names, is not kept. -/
theorem zero_top_not_kept :
    let s := ofList [("top", .number 0)]
    isListed "top" = false ∧ s.keys = ["top"] ∧ s.simplify.keys = [] ∧
      (s.simplify.entries.filter fun e => !isListed e.1) ≠
        s.entries.filter fun e => !isListed e.1 := by
  intro s
  have hkeys : s.simplify.keys = [] := by decide +kernel
  refine ⟨by decide +kernel, by decide +kernel, hkeys, ?_⟩
  rw [List.map_eq_nil_iff.mp hkeys]
  intro h
  have hlength : (s.entries.filter fun e => !isListed e.1).length = 1 := by decide +kernel
  rw [← h] at hlength
  cases hlength

end Style

end Viewsmith
