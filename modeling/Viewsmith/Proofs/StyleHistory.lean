import Mathlib.Data.List.Nodup
import Viewsmith.Proofs.OriginOrder

/-!
# Styles under any use

A style is used through four operations: a property is set if there is a value for it, written,
written at a position, or removed. Whatever is done with a style, it stays a record in insertion
order. One operation changes the place or the value of the property that it names and of no other
(`filter_entries_step`, `get?_step`), and so a whole history leaves alone what it does not name, and
a property holds what was last written to it.

Writing at a position is the one operation that can be refused: a property that is present cannot be
moved behind the last position (`insertAt?_eq_none_iff`). A style that refuses an operation stays as
it is.

## Main definitions

* `Style.Operation`, `Style.step`, `Style.after`: the operations, one step and a history.
* `Style.Operation.Refused`: the operations that are refused.
* `Style.writes`: what a history writes to a property.

## Main statements

* `Style.get?_step`, `Style.filter_entries_step`: what one operation does to the look-up and to the
  order.
* `Style.get?_after`, `Style.filter_entries_after`: what a history does.
* `Style.insertion_ordered_after`: a style is an insertion-ordered record after any history.
-/

namespace Viewsmith.Style

/-- What can be done with a style. -/
inductive Operation where
  /-- Write a property if there is a value for it. -/
  | set (key : String) (value : Option Value)
  | insert (key : String) (value : Value)
  | insertAt (index : Nat) (key : String) (value : Value)
  | erase (key : String)

namespace Operation

/-- The property that an operation names. -/
def key : Operation → String
  | .set key _ => key
  | .insert key _ => key
  | .insertAt _ key _ => key
  | .erase key => key

/-- The style that an operation makes of another, unless it is refused. -/
def perform? (s : Style) : Operation → Option Style
  | .set key value => some (s.set key value)
  | .insert key v => some (s.insert key v)
  | .insertAt index key v => s.insertAt? index key v
  | .erase key => some (s.erase key)

/-- A property that is present cannot be moved behind the last position. -/
def Refused (s : Style) : Operation → Prop
  | .insertAt index key _ => key ∈ s.keys ∧ s.size ≤ index
  | _ => False

instance (s : Style) : DecidablePred (Refused s)
  | .set _ _ => inferInstanceAs (Decidable False)
  | .insert _ _ => inferInstanceAs (Decidable False)
  | .insertAt index key _ => inferInstanceAs (Decidable (key ∈ s.keys ∧ s.size ≤ index))
  | .erase _ => inferInstanceAs (Decidable False)

/-- What an operation writes to the property that it names: a value, or nothing where the property
is removed. -/
def written? : Operation → Option (Option Value)
  | .set _ value => value.map some
  | .insert _ v => some (some v)
  | .insertAt _ _ v => some (some v)
  | .erase _ => some none

end Operation

/-- The style after an operation. One that is refused leaves it as it is. -/
def step (s : Style) (o : Operation) : Style := (o.perform? s).getD s

/-- The style after a history of operations. -/
def after (s : Style) (history : List Operation) : Style := history.foldl step s

/-- What a history writes to a property, in order: operations that name another property write
nothing to it, and neither do those that are refused. -/
def writes (key : String) : Style → List Operation → List (Option Value)
  | _, [] => []
  | s, o :: history =>
    (if o.key = key ∧ ¬ o.Refused s then o.written?.toList else []) ++ writes key (s.step o) history

/-! ### Positions -/

/-- The position of a key is where it stands among the keys. -/
theorem indexOf?_eq_some_iff (s : Style) (key : String) (i : Nat) :
    s.indexOf? key = some i ↔ s.keys[i]? = some key := by
  rw [indexOf?, List.idxOf?_eq_some_iff]
  constructor
  · rintro ⟨hi, hkey, -⟩
    rw [List.getElem?_eq_getElem hi, hkey]
  · intro h
    obtain ⟨hi, rfl⟩ := List.getElem?_eq_some_iff.mp h
    exact ⟨hi, rfl, fun j hj => List.pairwise_iff_getElem.mp s.nodup j i (Nat.lt_trans hj hi) hi hj⟩

/-- There are as many keys as properties. -/
theorem length_keys (s : Style) : s.keys.length = s.size := List.length_map _

/-- A property that is written at a position stands there, and nowhere else. -/
theorem entries_insertAt? {s t : Style} {index : Nat} {key : String} {v : Value}
    (h : s.insertAt? index key v = some t) :
    t.entries = place index (key, v) (without key s.entries) := by
  unfold insertAt? at h
  split at h
  · cases h
  · obtain rfl := Option.some.inj h
    rfl

/-- Writing at a position is refused only if the property is present and the position is behind the
last. -/
theorem insertAt?_eq_none_iff (s : Style) (index : Nat) (key : String) (v : Value) :
    s.insertAt? index key v = none ↔ key ∈ s.keys ∧ s.size ≤ index := by
  unfold insertAt?
  rw [mem_keys_iff]
  split
  case isTrue h => simpa using h
  case isFalse h => simpa using h

/-- The keys other than a given one. -/
theorem length_filter_keys (s : Style) (key : String) :
    (s.keys.filter (· ≠ key)).length = if key ∈ s.keys then s.size - 1 else s.size := by
  have hnodup : s.keys.Nodup := s.nodup
  have hfilter : s.keys.filter (· ≠ key) = s.keys.erase key := by
    rw [hnodup.erase_eq_filter]
    exact List.filter_congr fun other _ => Bool.eq_iff_iff.mpr (by simp)
  rw [hfilter, List.length_erase, length_keys]

/-- A property that is written at a position stands there, or last if the position is behind the
end. -/
theorem indexOf?_insertAt? {s t : Style} {index : Nat} {key : String} {v : Value}
    (h : s.insertAt? index key v = some t) : t.indexOf? key = some (min index s.size) := by
  have hkeys : t.keys = (s.keys.filter (· ≠ key)).take index ++
      key :: (s.keys.filter (· ≠ key)).drop index := by
    rw [keys, entries_insertAt? h, map_fst_place, map_fst_without]
    rfl
  have hallowed : ¬ (key ∈ s.keys ∧ s.size ≤ index) := by
    rw [← insertAt?_eq_none_iff s index key v, h]
    exact fun hnone => by cases hnone
  have hbefore : ((s.keys.filter (· ≠ key)).take index).length = min index s.size := by
    rw [List.length_take, length_filter_keys]
    split
    case isTrue hmem =>
      have : ¬ s.size ≤ index := fun hle => hallowed ⟨hmem, hle⟩
      omega
    case isFalse => rfl
  rw [indexOf?_eq_some_iff, hkeys, ← hbefore]
  simp

/-! ### One operation -/

/-- An operation gives no style if and only if it is refused. -/
theorem perform?_eq_none_iff (s : Style) (o : Operation) : o.perform? s = none ↔ o.Refused s := by
  cases o with
  | insertAt index key v => exact insertAt?_eq_none_iff s index key v
  | _ => exact iff_of_false (fun h => by cases h) id

/-- A refused operation leaves the style as it is. -/
theorem step_of_refused {s : Style} {o : Operation} (h : o.Refused s) : s.step o = s := by
  rw [step, (perform?_eq_none_iff s o).mpr h]
  rfl

/-- Writing at a position that is not refused gives the new style. -/
theorem step_insertAt {s t : Style} {index : Nat} {key : String} {v : Value}
    (h : s.insertAt? index key v = some t) : s.step (.insertAt index key v) = t := by
  rw [step, Operation.perform?, h]
  rfl

/-- A property that is written at a position reads back, and the others are untouched. -/
theorem get?_of_insertAt? {s t : Style} {index : Nat} {key : String} {v : Value}
    (h : s.insertAt? index key v = some t) (other : String) :
    t.get? other = if other = key then some v else s.get? other := by
  rw [get?, entries_insertAt? h, lookup_place index v (not_mem_without key s.entries),
    lookup_without]
  split
  · rfl
  · rfl

/-- A look-up that was changed at one name only. -/
theorem eq_getD_of_eq_ite {name key : String} {found new old : Option Value}
    (h : found = if key = name then new else old) :
    found = (if name = key then some new else none).getD old := by
  by_cases hname : name = key
  · rw [h, if_pos hname.symm, if_pos hname]
    rfl
  · rw [h, if_neg (Ne.symm hname), if_neg hname]
    rfl

/-- An operation writes to the property that it names, unless it is refused. -/
theorem get?_step (s : Style) (o : Operation) (key : String) :
    (s.step o).get? key =
      (if o.key = key ∧ ¬ o.Refused s then o.written? else none).getD (s.get? key) := by
  by_cases hrefused : o.Refused s
  · rw [step_of_refused hrefused, if_neg fun h => h.2 hrefused]
    rfl
  · simp only [hrefused, not_false_eq_true, and_true]
    cases o with
    | set name value =>
      cases value with
      | none =>
        have hnothing : (Operation.set name none).written? = none := rfl
        rw [hnothing, ite_self]
        rfl
      | some v => exact eq_getD_of_eq_ite (get?_insert s name key v)
    | insert name v => exact eq_getD_of_eq_ite (get?_insert s name key v)
    | insertAt index name v =>
      obtain ⟨t, ht⟩ :=
        Option.ne_none_iff_exists'.mp (mt (insertAt?_eq_none_iff s index name v).mp hrefused)
      rw [step_insertAt ht]
      exact eq_getD_of_eq_ite (get?_of_insertAt? ht key)
    | erase name => exact eq_getD_of_eq_ite (get?_erase s name key)

/-- Entries that do not count can be put anywhere. -/
theorem filter_place {p : String × Value → Bool} {entry : String × Value} (h : p entry = false)
    (index : Nat) (l : List (String × Value)) : (place index entry l).filter p = l.filter p := by
  rw [place, List.filter_append, List.filter_cons_of_neg (by simp [h]), ← List.filter_append,
    List.take_append_drop]

/-- Entries that do not count can be overwritten. -/
theorem filter_overwrite {p : String × Value → Bool} {key : String} (h : ∀ v, p (key, v) = false)
    (v : Value) (l : List (String × Value)) : (overwrite key v l).filter p = l.filter p := by
  induction l with
  | nil => rfl
  | cons e l ih =>
    obtain ⟨k, w⟩ := e
    by_cases hk : k = key
    · have hhead : overwrite key v ((k, w) :: l) = (key, v) :: overwrite key v l := by
        simp [overwrite, hk]
      rw [hhead, List.filter_cons_of_neg (by simp [h]),
        List.filter_cons_of_neg (by simp [hk, h]), ih]
    · have hhead : overwrite key v ((k, w) :: l) = (k, w) :: overwrite key v l := by
        simp [overwrite, hk]
      rw [hhead, List.filter_cons, List.filter_cons, ih]

/-- Writing a property that does not count keeps the entries that do. -/
theorem filter_entries_insert {p : String × Value → Bool} {key : String}
    (h : ∀ v, p (key, v) = false) (v : Value) (s : Style) :
    (s.insert key v).entries.filter p = s.entries.filter p := by
  by_cases hmem : key ∈ s.keys
  · rw [entries_insert_of_mem hmem, filter_overwrite h]
  · rw [entries_insert_of_not_mem hmem, List.filter_append, List.filter_cons_of_neg (by simp [h])]
    simp

/-- An operation leaves the other properties as they are, in their order. -/
theorem filter_entries_step {p : String × Value → Bool} {o : Operation}
    (h : ∀ v, p (o.key, v) = false) (s : Style) :
    (s.step o).entries.filter p = s.entries.filter p := by
  cases o with
  | set key value =>
    cases value with
    | none => rfl
    | some v => exact filter_entries_insert h v s
  | insert key v => exact filter_entries_insert h v s
  | insertAt index key v =>
    cases ht : s.insertAt? index key v with
    | none => rw [step_of_refused ((perform?_eq_none_iff s (.insertAt index key v)).mp ht)]
    | some t =>
      rw [step_insertAt ht, entries_insertAt? ht]
      exact (filter_place (h v) index _).trans (Rule.filter_entries_erase h s)
  | erase key => exact Rule.filter_entries_erase h s

/-! ### Histories -/

/-- A property holds what was last written to it. -/
theorem get?_after (s : Style) (history : List Operation) (key : String) :
    (s.after history).get? key = ((writes key s history).getLast?).getD (s.get? key) := by
  induction history generalizing s with
  | nil => rfl
  | cons o history ih =>
    show ((s.step o).after history).get? key = _
    rw [ih, get?_step, writes, List.getLast?_append]
    cases (writes key (s.step o) history).getLast? with
    | some value => rfl
    | none =>
      rw [Option.none_or]
      split
      · cases o.written? <;> rfl
      · rfl

/-- A history leaves the properties that it does not name as they are, in their order. -/
theorem filter_entries_after {p : String × Value → Bool} {history : List Operation}
    (h : ∀ o ∈ history, ∀ v, p (o.key, v) = false) (s : Style) :
    (s.after history).entries.filter p = s.entries.filter p := by
  induction history generalizing s with
  | nil => rfl
  | cons o history ih =>
    obtain ⟨ho, hhistory⟩ := List.forall_mem_cons.mp h
    show ((s.step o).after history).entries.filter p = _
    rw [ih hhistory, filter_entries_step ho]

/-- After any history of operations, on any style: the keys are distinct; a property holds what was
last written to it, or nothing if it was removed since, or what it held at the start if nothing was
written to it; the position of a key is where it stands among the keys; and the properties that the
history does not name are as they were, in their order. On the style that was reached, every
operation leaves the properties that it does not name as they are, in their order; a written
property keeps its position, or comes last if it is new; one that is written at a position stands
there, or last if that is behind the end; this is refused, and changes nothing, if and only if the
property is present and the position is not before the end; a removed property is gone; and setting
a value writes it, while setting no value changes nothing. -/
theorem insertion_ordered_after (s : Style) (history : List Operation) :
    let t := s.after history
    t.keys.Nodup ∧
      (∀ key, t.get? key = ((writes key s history).getLast?).getD (s.get? key)) ∧
      (∀ key i, t.indexOf? key = some i ↔ t.keys[i]? = some key) ∧
      (t.entries.filter fun e => e.1 ∉ history.map Operation.key)
        = (s.entries.filter fun e => e.1 ∉ history.map Operation.key) ∧
      (∀ o : Operation,
        ((t.step o).entries.filter fun e => e.1 ≠ o.key) = t.entries.filter fun e => e.1 ≠ o.key) ∧
      (∀ key v, (t.insert key v).keys = if key ∈ t.keys then t.keys else t.keys ++ [key]) ∧
      (∀ index key v,
        (t.insertAt? index key v = none ↔ key ∈ t.keys ∧ t.size ≤ index) ∧
        (t.insertAt? index key v = none → t.step (.insertAt index key v) = t) ∧
        ∀ u, t.insertAt? index key v = some u →
          t.step (.insertAt index key v) = u ∧ u.indexOf? key = some (min index t.size)) ∧
      (∀ key, (t.erase key).keys = t.keys.filter (· ≠ key)) ∧
      ∀ key, (∀ v, t.set key (some v) = t.insert key v) ∧ t.set key none = t := by
  intro t
  refine ⟨t.nodup, get?_after s history, indexOf?_eq_some_iff t, filter_entries_after ?_ s,
    fun o => ?_, keys_insert t, fun index key v =>
      ⟨insertAt?_eq_none_iff t index key v, fun h => ?_, fun u h => ?_⟩,
    keys_erase t, fun key => ⟨fun v => rfl, rfl⟩⟩
  · intro o ho v
    simpa using ⟨o, ho, rfl⟩
  · exact filter_entries_step (fun v => by simp) t
  · exact step_of_refused ((insertAt?_eq_none_iff t index key v).mp h)
  · exact ⟨step_insertAt h, indexOf?_insertAt? h⟩

end Viewsmith.Style
