import Mathlib.Data.List.Forall2
import Mathlib.Data.List.Nodup
import Mathlib.Data.List.Perm.Subperm
import Mathlib.Data.Nat.Find
import Mathlib.Data.Set.Operations
import Mathlib.Order.Bounds.Defs
import Viewsmith.Element.Names

/-!
# The names of a tree after they are made distinct

Names are given in one pass over the elements of a tree, each before those below it. Every element
that is written gets the least rename of its name: as few underscores as make it differ from all
names given before. A free name is always found, since the names given before are finitely many and
every further underscore gives a new name.

The pass is first described on lists of elements (`Assigns`); `rename_assigns` ties the traversal of
a tree to it, and everything else is read off the list.

## Main definitions

* `Element.LeastFree`: the name with the fewest underscores that is free.
* `Element.Assigns`: one pass over a list of elements.
* `Element.anonymous`: a tree without the names that a pass can change.

## Main statements

* `Element.freshName_leastFree`: the search for a free name ends at the least one.
* `Element.rename_assigns`: the traversal of a tree is a pass over its elements.
* `Element.distinct_leastFree`: names are distinct afterwards, and as close to the old ones as
  possible.
-/

namespace Viewsmith.Element

/-- A name with `k` underscores before it. -/
def underscored (k : Nat) (name : String) : String := String.ofList (List.replicate k '_') ++ name

/-- The name `new` is `name` with the fewest underscores before it that make it free. -/
def LeastFree (taken : List String) (name new : String) : Prop :=
  ∃ k, IsLeast {j | underscored j name ∉ taken} k ∧ new = underscored k name

/-- The names of the elements of a list that are written. -/
def writtenNames (l : List Element) : List String := (l.filter (!·.isBlank)).map name

mutual

/-- A tree without the names of the elements that are written. -/
def anonymous : Element → Element
  | .mk name content style children =>
    .mk (if content.isBlank then name else "") content style (anonymousAll children)

/-- Several trees without the names of the elements that are written. -/
def anonymousAll : List Element → List Element
  | [] => []
  | e :: es => e.anonymous :: anonymousAll es

end

/-! ### The search for a free name -/

/-- No underscore before a name leaves the name. -/
theorem underscored_zero (name : String) : underscored 0 name = name := by
  simp [underscored]

/-- The last of several underscores can be counted to the name. -/
theorem underscored_succ (k : Nat) (name : String) :
    underscored (k + 1) name = underscored k ("_" ++ name) := by
  apply String.toList_inj.mp
  simp [underscored, List.replicate_succ']

/-- Names with different numbers of underscores differ. -/
theorem underscored_injective (name : String) : Function.Injective (underscored · name) := by
  intro j k h
  have hlength : (underscored j name).toList.length = (underscored k name).toList.length :=
    congrArg (fun s : String => s.toList.length) h
  simp only [underscored, String.toList_append, String.toList_ofList, List.length_append,
    List.length_replicate] at hlength
  omega

/-- Among one more candidates than there are taken names, one is free. -/
theorem exists_free (taken : List String) (name : String) :
    ∃ k ≤ taken.length, underscored k name ∉ taken := by
  by_contra hall
  have hmem : ∀ k ≤ taken.length, underscored k name ∈ taken := by
    intro k hk
    by_contra hfree
    exact hall ⟨k, hk, hfree⟩
  have hnodup : ((List.range (taken.length + 1)).map (underscored · name)).Nodup :=
    List.nodup_range.map (underscored_injective name)
  have hsubset : (List.range (taken.length + 1)).map (underscored · name) ⊆ taken := by
    intro candidate hc
    obtain ⟨k, hk, rfl⟩ := List.mem_map.mp hc
    exact hmem k (Nat.le_of_lt_succ (List.mem_range.mp hk))
  have hle := (hnodup.subperm hsubset).length_le
  rw [List.length_map, List.length_range] at hle
  omega

/-- Some least number of underscores makes a name free, and there are no more than taken names. -/
theorem exists_isLeast_free (taken : List String) (name : String) :
    ∃ k ≤ taken.length, IsLeast {j | underscored j name ∉ taken} k := by
  obtain ⟨bound, hbound, hfree⟩ := exists_free taken name
  have hex : ∃ k, underscored k name ∉ taken := ⟨bound, hfree⟩
  refine ⟨Nat.find hex, ?_, Nat.find_spec hex, fun j hj => Nat.find_min' hex hj⟩
  exact Nat.le_trans (Nat.find_min' hex hfree) hbound

/-- The search stops at the least free name if it is allowed as many underscores. -/
theorem freshWithin_of_isLeast {taken : List String} {steps k : Nat} {name : String}
    (hk : IsLeast {j | underscored j name ∉ taken} k) (hs : k ≤ steps) :
    freshWithin taken steps name = underscored k name := by
  induction steps generalizing k name with
  | zero =>
    rw [Nat.le_zero.mp hs, underscored_zero]
    rfl
  | succ steps ih =>
    unfold freshWithin
    cases k with
    | zero =>
      have hfree : name ∉ taken := underscored_zero name ▸ hk.1
      rw [if_neg hfree, underscored_zero]
    | succ k =>
      have htaken : name ∈ taken := by
        by_contra hfree
        have hle : k + 1 ≤ 0 := hk.2 (by rw [← underscored_zero name] at hfree; exact hfree)
        omega
      rw [if_pos htaken, underscored_succ]
      refine ih ⟨?_, fun j hj => ?_⟩ (Nat.le_of_succ_le_succ hs)
      · have hfree := hk.1
        rw [Set.mem_ofPred_eq, underscored_succ] at hfree
        exact hfree
      · rw [Set.mem_ofPred_eq, ← underscored_succ] at hj
        exact Nat.le_of_succ_le_succ (hk.2 hj)

/-- The search for a free name ends at the least one. -/
theorem freshName_leastFree (taken : List String) (name : String) :
    LeastFree taken name (freshName taken name) := by
  obtain ⟨k, hle, hk⟩ := exists_isLeast_free taken name
  exact ⟨k, hk, freshWithin_of_isLeast hk hle⟩

/-- The free name is not taken. -/
theorem LeastFree.not_mem {taken : List String} {name new : String}
    (h : LeastFree taken name new) : new ∉ taken := by
  obtain ⟨k, hk, rfl⟩ := h
  exact hk.1

/-- Only which names are taken matters, not their order. -/
theorem LeastFree.congr {taken others : List String} {name new : String}
    (h : LeastFree taken name new) (hmem : ∀ n, n ∈ taken ↔ n ∈ others) :
    LeastFree others name new := by
  obtain ⟨k, hk, rfl⟩ := h
  refine ⟨k, ?_, rfl⟩
  simpa only [hmem] using hk

/-- A free name is kept. -/
theorem freshName_of_not_mem {taken : List String} {name : String} (h : name ∉ taken) :
    freshName taken name = name := by
  unfold freshName
  cases taken.length with
  | zero => rfl
  | succ steps => exact if_neg h

/-! ### One pass over a list -/

/-- One pass over a list of elements, with the names taken so far: blank elements keep their names
and take none, and all others get the least rename of theirs. -/
inductive Assigns : List String → List Element → List Element → Prop
  | nil {taken : List String} : Assigns taken [] []
  | blank {taken : List String} {old new : Element} {olds news : List Element}
      (hold : old.isBlank = true) (hnew : new.isBlank = true) (hname : new.name = old.name)
      (h : Assigns taken olds news) : Assigns taken (old :: olds) (new :: news)
  | written {taken : List String} {old new : Element} {olds news : List Element}
      (hold : old.isBlank = false) (hnew : new.isBlank = false)
      (hname : LeastFree taken old.name new.name) (h : Assigns (new.name :: taken) olds news) :
      Assigns taken (old :: olds) (new :: news)

/-- The written names of two lists in a row. -/
theorem writtenNames_append (l m : List Element) :
    writtenNames (l ++ m) = writtenNames l ++ writtenNames m := by
  simp [writtenNames]

/-- A blank element adds no name. -/
theorem writtenNames_cons_of_blank {e : Element} (h : e.isBlank = true) (l : List Element) :
    writtenNames (e :: l) = writtenNames l := by
  simp [writtenNames, h]

/-- An element that is written adds its name. -/
theorem writtenNames_cons_of_written {e : Element} (h : e.isBlank = false) (l : List Element) :
    writtenNames (e :: l) = e.name :: writtenNames l := by
  simp [writtenNames, h]

namespace Assigns

variable {taken : List String} {olds news : List Element}

/-- A pass goes on with the names that were given before. -/
theorem append {olds' news' : List Element} (h : Assigns taken olds news)
    (h' : Assigns ((writtenNames news).reverse ++ taken) olds' news') :
    Assigns taken (olds ++ olds') (news ++ news') := by
  induction h with
  | nil => exact h'
  | blank hold hnew hname _ ih =>
    rw [writtenNames_cons_of_blank hnew] at h'
    exact .blank hold hnew hname (ih h')
  | written hold hnew hname _ ih =>
    rw [writtenNames_cons_of_written hnew, List.reverse_cons, List.append_assoc] at h'
    exact .written hold hnew hname (ih h')

/-- The given names are distinct, and none was taken before. -/
theorem nodup (h : Assigns taken olds news) :
    (writtenNames news).Nodup ∧ ∀ n ∈ writtenNames news, n ∉ taken := by
  induction h with
  | nil => exact ⟨List.nodup_nil, nofun⟩
  | blank _ hnew _ _ ih =>
    rw [writtenNames_cons_of_blank hnew]
    exact ih
  | written _ hnew hname _ ih =>
    rw [writtenNames_cons_of_written hnew, List.nodup_cons, List.forall_mem_cons]
    refine ⟨⟨fun hm => ih.2 _ hm List.mem_cons_self, ih.1⟩, hname.not_mem, fun n hn hm => ?_⟩
    exact ih.2 n hn (List.mem_cons_of_mem _ hm)

/-- What one element is called after the pass, given the names before it. -/
theorem name_getElem? (h : Assigns taken olds news) {i : Nat} {old new : Element}
    (ho : olds[i]? = some old) (hn : news[i]? = some new) :
    if old.isBlank then new.name = old.name
    else LeastFree (writtenNames (news.take i) ++ taken) old.name new.name := by
  induction h generalizing i with
  | nil => cases ho
  | blank hold hnew hname _ ih =>
    cases i with
    | zero =>
      cases ho
      cases hn
      rw [if_pos hold]
      exact hname
    | succ i =>
      rw [List.take_succ_cons, writtenNames_cons_of_blank hnew]
      exact ih ho hn
  | written hold hnew hname _ ih =>
    cases i with
    | zero =>
      cases ho
      cases hn
      rw [if_neg (Bool.eq_false_iff.mp hold)]
      exact hname
    | succ i =>
      rw [List.take_succ_cons, writtenNames_cons_of_written hnew]
      -- the name of this element was taken for those after it
      have hrest := ih ho hn
      split_ifs at hrest ⊢ with hb
      · exact hrest
      · exact hrest.congr fun n => by simp only [List.mem_append, List.mem_cons]; tauto

end Assigns

/-! ### The traversal of a tree -/

/-- A blank element keeps its name, and its children are renamed. -/
theorem rename_of_blank {content : Content} (h : content.isBlank = true) (name : String)
    (style : Style) (children : List Element) (taken : List String) :
    (mk name content style children).rename taken =
      (mk name content style (renameAll children taken).1, (renameAll children taken).2) := by
  rw [rename, if_pos h]

/-- An element that is written gets a free name, which is taken when its children are renamed. -/
theorem rename_of_written {content : Content} (h : content.isBlank = false) (name : String)
    (style : Style) (children : List Element) (taken : List String) :
    (mk name content style children).rename taken =
      (mk (freshName taken name) content style
          (renameAll children (freshName taken name :: taken)).1,
        (renameAll children (freshName taken name :: taken)).2) := by
  rw [rename, if_neg (Bool.eq_false_iff.mp h)]

/-- Trees are renamed one after the other, with the names that are taken then. -/
theorem renameAll_cons (e : Element) (es : List Element) (taken : List String) :
    renameAll (e :: es) taken =
      ((e.rename taken).1 :: (renameAll es (e.rename taken).2).1,
        (renameAll es (e.rename taken).2).2) := by
  rw [renameAll]

mutual

/-- The traversal of a tree is a pass over its elements. -/
theorem rename_assigns :
    (e : Element) → ∀ taken : List String,
      Assigns taken e.preorder (e.rename taken).1.preorder ∧
        (e.rename taken).2 = (writtenNames (e.rename taken).1.preorder).reverse ++ taken
  | .mk name content style children, taken => by
      by_cases hb : content.isBlank = true
      · obtain ⟨hpass, htaken⟩ := renameAll_assigns children taken
        rw [rename_of_blank hb]
        unfold preorder
        rw [writtenNames_cons_of_blank (e := mk _ _ _ _) hb]
        exact ⟨.blank hb hb rfl hpass, htaken⟩
      · have hw : content.isBlank = false := Bool.eq_false_iff.mpr hb
        obtain ⟨hpass, htaken⟩ := renameAll_assigns children (freshName taken name :: taken)
        rw [rename_of_written hw]
        unfold preorder
        rw [writtenNames_cons_of_written (e := mk _ _ _ _) hw, List.reverse_cons, List.append_assoc]
        exact ⟨.written hw hw (freshName_leastFree taken name) hpass, htaken⟩

/-- The traversal of several trees is a pass over their elements. -/
theorem renameAll_assigns :
    (es : List Element) → ∀ taken : List String,
      Assigns taken (preorderAll es) (preorderAll (renameAll es taken).1) ∧
        (renameAll es taken).2 =
          (writtenNames (preorderAll (renameAll es taken).1)).reverse ++ taken
  | [], taken => ⟨.nil, rfl⟩
  | e :: es, taken => by
      obtain ⟨hpass, htaken⟩ := e.rename_assigns taken
      obtain ⟨hrest, htaken'⟩ := renameAll_assigns es (e.rename taken).2
      rw [renameAll_cons]
      unfold preorderAll
      refine ⟨hpass.append (htaken ▸ hrest), ?_⟩
      rw [htaken', htaken, writtenNames_append, List.reverse_append, List.append_assoc]

end

mutual

/-- Nothing but the names of elements that are written changes. -/
theorem anonymous_rename :
    (e : Element) → ∀ taken : List String, (e.rename taken).1.anonymous = e.anonymous
  | .mk name content style children, taken => by
      by_cases hb : content.isBlank = true
      · rw [rename_of_blank hb, anonymous, anonymous, anonymousAll_rename]
      · rw [rename_of_written (Bool.eq_false_iff.mpr hb), anonymous, anonymous,
          anonymousAll_rename, if_neg hb, if_neg hb]

/-- Nothing but the names of elements that are written changes in several trees. -/
theorem anonymousAll_rename :
    (es : List Element) → ∀ taken : List String,
      anonymousAll (renameAll es taken).1 = anonymousAll es
  | [], taken => rfl
  | e :: es, taken => by
      rw [renameAll_cons, anonymousAll, anonymousAll, anonymous_rename, anonymousAll_rename]

end

mutual

/-- A tree whose names are distinct and free is left alone. -/
theorem rename_of_free :
    (e : Element) → ∀ taken : List String, (writtenNames e.preorder).Nodup →
      (∀ n ∈ writtenNames e.preorder, n ∉ taken) → (e.rename taken).1 = e
  | .mk name content style children, taken, hnodup, hfree => by
      unfold preorder at hnodup hfree
      by_cases hb : content.isBlank = true
      · rw [writtenNames_cons_of_blank (e := mk _ _ _ _) hb] at hnodup hfree
        rw [rename_of_blank hb, renameAll_of_free children taken hnodup hfree]
      · have hw : content.isBlank = false := Bool.eq_false_iff.mpr hb
        rw [writtenNames_cons_of_written (e := mk _ _ _ _) hw, name_mk] at hnodup hfree
        obtain ⟨hname, hrest⟩ := List.forall_mem_cons.mp hfree
        obtain ⟨hnew, hnodup⟩ := List.nodup_cons.mp hnodup
        rw [rename_of_written hw, freshName_of_not_mem hname]
        have hfree' : ∀ n ∈ writtenNames (preorderAll children), n ∉ name :: taken := by
          intro n hn hm
          rcases List.mem_cons.mp hm with rfl | hm
          · exact hnew hn
          · exact hrest n hn hm
        rw [renameAll_of_free children (name :: taken) hnodup hfree']

/-- Several trees whose names are distinct and free are left alone. -/
theorem renameAll_of_free :
    (es : List Element) → ∀ taken : List String, (writtenNames (preorderAll es)).Nodup →
      (∀ n ∈ writtenNames (preorderAll es), n ∉ taken) → (renameAll es taken).1 = es
  | [], taken, _, _ => rfl
  | e :: es, taken, hnodup, hfree => by
      unfold preorderAll at hnodup hfree
      rw [writtenNames_append] at hnodup hfree
      obtain ⟨hhead, htail, hdisjoint⟩ := List.nodup_append'.mp hnodup
      obtain ⟨hfreeHead, hfreeTail⟩ := List.forall_mem_append.mp hfree
      have he := rename_of_free e taken hhead hfreeHead
      have htaken := (e.rename_assigns taken).2
      rw [he] at htaken
      rw [renameAll_cons, he, htaken]
      have hfree' : ∀ n ∈ writtenNames (preorderAll es),
          n ∉ (writtenNames e.preorder).reverse ++ taken := by
        intro n hn hm
        rcases List.mem_append.mp hm with hm | hm
        · exact hdisjoint (List.mem_reverse.mp hm) hn
        · exact hfreeTail n hn hm
      rw [renameAll_of_free es _ htail hfree']

end

/-- What a pass leaves of an element: all but the underscores before its name. -/
structure IsRename (old new : Element) : Prop where
  content : new.content = old.content
  children : new.children = [] ↔ old.children = []
  name : ∃ k, new.name = underscored k old.name

/-- Renaming makes no tree and loses none. -/
theorem renameAll_eq_nil_iff (es : List Element) (taken : List String) :
    (renameAll es taken).1 = [] ↔ es = [] := by
  cases es with
  | nil => exact Iff.rfl
  | cons e es => rw [renameAll_cons]; exact ⟨nofun, nofun⟩

mutual

/-- The elements of a renamed tree, one by one. -/
theorem rename_isRename :
    (e : Element) → ∀ taken : List String,
      List.Forall₂ IsRename e.preorder (e.rename taken).1.preorder
  | .mk name content style children, taken => by
      by_cases hb : content.isBlank = true
      · rw [rename_of_blank hb]
        unfold preorder
        refine .cons ⟨rfl, renameAll_eq_nil_iff _ _, 0, ?_⟩ (renameAll_isRename children _)
        exact (underscored_zero name).symm
      · obtain ⟨k, -, hk⟩ := freshName_leastFree taken name
        rw [rename_of_written (Bool.eq_false_iff.mpr hb)]
        unfold preorder
        exact .cons ⟨rfl, renameAll_eq_nil_iff _ _, k, hk⟩ (renameAll_isRename children _)

/-- The elements of several renamed trees, one by one. -/
theorem renameAll_isRename :
    (es : List Element) → ∀ taken : List String,
      List.Forall₂ IsRename (preorderAll es) (preorderAll (renameAll es taken).1)
  | [], taken => .nil
  | e :: es, taken => by
      rw [renameAll_cons]
      unfold preorderAll
      exact List.rel_append (rename_isRename e taken) (renameAll_isRename es _)

end

/-- What renaming keeps of one element it keeps of all. -/
theorem forall_mem_of_isRename {p : Element → Prop} {olds news : List Element}
    (h : List.Forall₂ IsRename olds news) (hp : ∀ old new, IsRename old new → p old → p new)
    (hold : ∀ d ∈ olds, p d) : ∀ d ∈ news, p d := by
  induction h with
  | nil => exact hold
  | cons hr _ ih =>
    obtain ⟨hhead, htail⟩ := List.forall_mem_cons.mp hold
    exact List.forall_mem_cons.mpr ⟨hp _ _ hr hhead, ih htail⟩

/-- What holds of all elements of a tree, and is kept by a rename, holds after the pass. -/
theorem forall_mem_distinct {p : Element → Prop} {e : Element} (h : ∀ d ∈ e.preorder, p d)
    (hp : ∀ old new : Element, IsRename old new → p old → p new) : ∀ d ∈ e.distinct.preorder, p d :=
  forall_mem_of_isRename (rename_isRename e []) hp h

/-! ### Distinct names -/

/-- No written name occurs twice after renaming. -/
theorem nodup_writtenNames_distinct (e : Element) : (writtenNames e.distinct.preorder).Nodup :=
  (e.rename_assigns []).1.nodup.1

/-- A tree whose written names are distinct already is not changed. -/
theorem distinct_of_nodup {e : Element} (h : (writtenNames e.preorder).Nodup) : e.distinct = e :=
  rename_of_free e [] h fun _ _ => List.not_mem_nil

/-- **Distinct names.** Afterwards the elements that are written have distinct names. Each of them
has the least rename of its old name, given the new names before it; blank elements keep their
names, and nothing but names changes. A tree is left alone if and only if its names were distinct,
so a second time changes nothing. -/
theorem distinct_leastFree (e : Element) :
    (writtenNames e.distinct.preorder).Nodup ∧
      (∀ (i : Nat) (old new : Element), e.preorder[i]? = some old →
        e.distinct.preorder[i]? = some new →
        if old.isBlank then new.name = old.name
        else LeastFree (writtenNames (e.distinct.preorder.take i)) old.name new.name) ∧
      e.distinct.anonymous = e.anonymous ∧
      (e.distinct = e ↔ (writtenNames e.preorder).Nodup) ∧
      e.distinct.distinct = e.distinct := by
  have hnodup := nodup_writtenNames_distinct e
  refine ⟨hnodup, fun i old new ho hn => ?_, anonymous_rename e [],
    ⟨fun h => ?_, distinct_of_nodup⟩, distinct_of_nodup hnodup⟩
  · have hname := (e.rename_assigns []).1.name_getElem? ho hn
    rw [List.append_nil] at hname
    exact hname
  · rw [h] at hnodup
    exact hnodup

end Viewsmith.Element
