import Viewsmith.Style.Value

/-!
# Styles

A style is a record of properties in the order in which they were first written. A property that is
absent differs from one that holds zero.

## Main definitions

* `Style`: an insertion-ordered record with distinct keys.
* `Style.get?`, `Style.indexOf?`, `Style.keys`: the views of a style.
* `Style.insert`, `Style.erase`, `Style.insertAt?`: the operations.

## Main statements

* `Style.get?_insert`, `Style.get?_erase`: what the operations do to the look-up.
* `Style.keys_insert`, `Style.keys_erase`: what they do to the order of the keys.
-/

namespace Viewsmith

/-- A record of properties in insertion order, each key once. -/
@[ext]
structure Style where
  entries : List (String × Value)
  nodup : (entries.map Prod.fst).Nodup

namespace Style

/-- The style without properties. -/
def empty : Style := ⟨[], by simp⟩

instance : EmptyCollection Style := ⟨empty⟩

instance : Inhabited Style := ⟨empty⟩

/-- The keys in insertion order. -/
def keys (s : Style) : List String := s.entries.map Prod.fst

/-- The number of properties. -/
def size (s : Style) : Nat := s.entries.length

/-- Whether there is no property. -/
def isEmpty (s : Style) : Bool := s.entries.isEmpty

/-- The value of a property. -/
def get? (s : Style) (key : String) : Option Value := s.entries.lookup key

/-- Whether the property is present. -/
def contains (s : Style) (key : String) : Bool := s.keys.contains key

/-- The number that a property holds. -/
def getNumber? (s : Style) (key : String) : Option Float := (s.get? key).bind Value.number?

/-- The text that a property holds. -/
def getText? (s : Style) (key : String) : Option String := (s.get? key).bind Value.text?

/-- The position of a key. -/
def indexOf? (s : Style) (key : String) : Option Nat := s.keys.idxOf? key

/-- Equality of styles: the same properties with equal values, in any order. -/
def same (s t : Style) : Bool := Value.same (.record s.entries) (.record t.entries)

/-! ### Entries -/

/-- Give `key` the value `v` wherever it stands. -/
def overwrite (key : String) (v : Value) (entries : List (String × Value)) :
    List (String × Value) :=
  entries.map fun e => if e.1 = key then (key, v) else e

/-- Overwriting a value changes no key. -/
theorem map_fst_overwrite (key : String) (v : Value) (l : List (String × Value)) :
    (overwrite key v l).map Prod.fst = l.map Prod.fst := by
  induction l with
  | nil => rfl
  | cons e l ih =>
    have ih' : List.map Prod.fst (l.map fun e => if e.1 = key then (key, v) else e)
        = l.map Prod.fst := ih
    by_cases h : e.1 = key <;> simp [overwrite, h, ih']

/-- The entries other than that of `key`. -/
def without (key : String) (entries : List (String × Value)) : List (String × Value) :=
  entries.filter fun e => e.1 ≠ key

/-- Removing an entry removes its key. -/
theorem map_fst_without (key : String) (l : List (String × Value)) :
    (without key l).map Prod.fst = (l.map Prod.fst).filter (· ≠ key) := by
  simp [without, List.filter_map, Function.comp_def]

/-- Put an entry at a position. -/
def place (index : Nat) (entry : String × Value) (entries : List (String × Value)) :
    List (String × Value) :=
  entries.take index ++ entry :: entries.drop index

/-- An entry that is put at a position has its key there. -/
theorem map_fst_place (index : Nat) (entry : String × Value) (l : List (String × Value)) :
    (place index entry l).map Prod.fst
      = (l.map Prod.fst).take index ++ entry.1 :: (l.map Prod.fst).drop index := by
  simp [place, List.map_take, List.map_drop]

/-- A new key can be put at any position without a key occurring twice. -/
theorem nodup_place (index : Nat) {entry : String × Value} {l : List (String × Value)}
    (hl : (l.map Prod.fst).Nodup) (he : entry.1 ∉ l.map Prod.fst) :
    ((place index entry l).map Prod.fst).Nodup := by
  rw [map_fst_place]
  have h : (entry.1 :: ((l.map Prod.fst).take index ++ (l.map Prod.fst).drop index)).Nodup := by
    rw [List.take_append_drop]
    exact List.nodup_cons.mpr ⟨he, hl⟩
  exact (List.perm_middle.nodup_iff).mpr h

/-- A key that is removed is gone. -/
theorem not_mem_without (key : String) (l : List (String × Value)) :
    key ∉ (without key l).map Prod.fst := by
  simp [map_fst_without]

/-- Removing an entry makes no key occur twice. -/
theorem nodup_without (key : String) {l : List (String × Value)} (hl : (l.map Prod.fst).Nodup) :
    ((without key l).map Prod.fst).Nodup := by
  rw [map_fst_without]
  exact hl.sublist (List.filter_sublist ..)

/-! ### Operations -/

/-- Write a property. One that is present keeps its position, a new one comes last. -/
def insert (s : Style) (key : String) (v : Value) : Style :=
  if h : key ∈ s.keys then
    ⟨overwrite key v s.entries, by rw [map_fst_overwrite]; exact s.nodup⟩
  else
    ⟨place s.entries.length (key, v) s.entries, nodup_place _ s.nodup h⟩

/-- Write a property if there is a value for it. -/
def set (s : Style) (key : String) : Option Value → Style
  | some v => s.insert key v
  | none => s

/-- Remove a property; the others keep their order. -/
def erase (s : Style) (key : String) : Style :=
  ⟨without key s.entries, nodup_without key s.nodup⟩

/-- Write a property at a position, counted no further than the end. One that is present moves
there; it cannot move behind the last position, and then the operation is refused. -/
def insertAt? (s : Style) (index : Nat) (key : String) (v : Value) : Option Style :=
  if s.contains key && s.size ≤ index then none
  else some ⟨place index (key, v) (without key s.entries),
    nodup_place _ (nodup_without key s.nodup) (not_mem_without key s.entries)⟩

/-- Write several properties in order. -/
def insertAll (s : Style) (entries : List (String × Value)) : Style :=
  entries.foldl (fun s e => s.insert e.1 e.2) s

/-- The style of the given entries; a repeated key keeps its first position and its last value. -/
def ofList (entries : List (String × Value)) : Style := empty.insertAll entries

/-! ### The views of the operations -/

/-- The keys are the properties that are present. -/
theorem mem_keys_iff (s : Style) (key : String) : key ∈ s.keys ↔ s.contains key = true := by
  simp [contains]

/-- Writing a property that is present overwrites its entry. -/
theorem entries_insert_of_mem {s : Style} {key : String} (h : key ∈ s.keys) (v : Value) :
    (s.insert key v).entries = overwrite key v s.entries := by
  simp [insert, h]

/-- Writing a property that is absent adds an entry at the end. -/
theorem entries_insert_of_not_mem {s : Style} {key : String} (h : key ∉ s.keys) (v : Value) :
    (s.insert key v).entries = s.entries ++ [(key, v)] := by
  simp [insert, h, place]

/-- A present key keeps its position, a new one comes last. -/
theorem keys_insert (s : Style) (key : String) (v : Value) :
    (s.insert key v).keys = if key ∈ s.keys then s.keys else s.keys ++ [key] := by
  by_cases h : key ∈ s.keys
  · rw [if_pos h, keys, entries_insert_of_mem h, map_fst_overwrite, keys]
  · rw [if_neg h, keys, entries_insert_of_not_mem h]
    simp [keys]

/-- Erasing a property takes its key out, and the others keep their order. -/
@[simp] theorem keys_erase (s : Style) (key : String) :
    (s.erase key).keys = s.keys.filter (· ≠ key) :=
  map_fst_without key s.entries

/-- Overwriting a key that is there changes what is found for it, and nothing else. -/
theorem lookup_overwrite (key other : String) (v : Value) (l : List (String × Value)) :
    (overwrite key v l).lookup other
      = if other = key then (l.lookup key).map fun _ => v else l.lookup other := by
  induction l with
  | nil => by_cases h : other = key <;> simp [overwrite, h]
  | cons e l ih =>
    obtain ⟨k, w⟩ := e
    have hc : overwrite key v ((k, w) :: l)
        = (if k = key then (key, v) else (k, w)) :: overwrite key v l := rfl
    rw [hc]
    by_cases hk : k = key
    · subst hk
      by_cases ho : other = k
      · subst ho; simp
      · have hb : (other == k) = false := by simpa using ho
        simp only [if_true, List.lookup_cons, hb]
        rw [ih]
        simp [ho]
    · by_cases ho : other = k
      · subst ho
        simp [hk]
      · have hb : (other == k) = false := by simpa using ho
        simp only [hk, if_false, List.lookup_cons, hb]
        rw [ih]
        by_cases h : other = key
        · subst h
          simp [hb]
        · simp [h]

/-- A look-up finds something if and only if the key is there. -/
theorem isSome_lookup_iff_mem_keys {l : List (String × Value)} {key : String} :
    (l.lookup key).isSome ↔ key ∈ l.map Prod.fst := by
  rw [List.lookup_isSome_iff]
  simp [@eq_comm _ key]

/-- A look-up finds nothing if and only if the key is not there. -/
theorem lookup_eq_none_iff_not_mem_keys {l : List (String × Value)} {key : String} :
    l.lookup key = none ↔ key ∉ l.map Prod.fst := by
  rw [← isSome_lookup_iff_mem_keys, Option.not_isSome_iff_eq_none]

/-- An entry with a new key reads back from any position, and the others are untouched. -/
theorem lookup_place (index : Nat) {key : String} (v : Value) {l : List (String × Value)}
    (h : key ∉ l.map Prod.fst) (other : String) :
    (place index (key, v) l).lookup other = if other = key then some v else l.lookup other := by
  have hsplit :
      l.lookup other = ((l.take index).lookup other).or ((l.drop index).lookup other) := by
    rw [← List.lookup_append, List.take_append_drop]
  unfold place
  rw [List.lookup_append]
  by_cases ho : other = key
  · subst ho
    have hnone : (l.take index).lookup other = none := by
      rw [lookup_eq_none_iff_not_mem_keys, List.map_take]
      exact fun hm => h (List.mem_of_mem_take hm)
    rw [hnone]
    simp
  · have hb : (other == key) = false := by simpa using ho
    rw [if_neg ho, hsplit, List.lookup_cons, hb]

/-- A written property reads back, and the others are untouched. -/
theorem get?_insert (s : Style) (key other : String) (v : Value) :
    (s.insert key v).get? other = if other = key then some v else s.get? other := by
  by_cases h : key ∈ s.keys
  · rw [get?, entries_insert_of_mem h, lookup_overwrite]
    by_cases ho : other = key
    · obtain ⟨w, hw⟩ := Option.isSome_iff_exists.mp (isSome_lookup_iff_mem_keys.mpr h)
      simp [ho, hw]
    · simp [ho, get?]
  · rw [insert, dif_neg h]
    exact lookup_place s.entries.length v h other

/-- Without the entry of a key nothing is found for it, and the rest is as before. -/
theorem lookup_without (key other : String) (l : List (String × Value)) :
    (without key l).lookup other = if other = key then none else l.lookup other := by
  induction l with
  | nil => simp [without]
  | cons e l ih =>
    obtain ⟨k, w⟩ := e
    by_cases hk : k = key
    · subst hk
      have hw : without k ((k, w) :: l) = without k l := by simp [without]
      rw [hw, ih]
      by_cases ho : other = k
      · simp [ho]
      · have hb : (other == k) = false := by simpa using ho
        simp [ho, List.lookup_cons, hb]
    · have hw : without key ((k, w) :: l) = (k, w) :: without key l := by simp [without, hk]
      rw [hw]
      by_cases ho : other = k
      · subst ho
        simp [hk]
      · have hb : (other == k) = false := by simpa using ho
        simp only [List.lookup_cons, hb]
        exact ih

/-- An erased property is absent, and the others are untouched. -/
theorem get?_erase (s : Style) (key other : String) :
    (s.erase key).get? other = if other = key then none else s.get? other :=
  lookup_without key other s.entries

end Style

end Viewsmith
