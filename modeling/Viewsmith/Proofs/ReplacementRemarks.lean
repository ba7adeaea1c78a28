import Viewsmith.Proofs.BlankElements
import Viewsmith.Proofs.ExportedName

/-!
# Remarks about replacements

Below the root, a component or an instance is announced by a remark: a comment with the element that
it can be replaced with. The names in it come from the names of layers and components, which are
free text. They are safe because all of them are identifiers: an identifier has no white space and
none of the signs that a remark is written with, and none of these comes in when a letter is put in
another case (`Remark.plain_capitalized`).

## Main definitions

* `Remark.read`: the element that is named between the marks of a remark, read character by
  character.
* `Remark.IsRemark`: a text that is one remark on one line.
* `Element.Stands`: an element inside of a tree, so many levels below its root.
* `Element.Lowered`: what lowering makes sure of about an element.

## Main statements

* `Identifier.distinctPairs_spec`: each key of the props stands once.
* `Remark.read_inside`, `Remark.isRemark`: a remark with plain names can be read back, and nothing
  in it closes it.
* `Element.Stands.exists_lines_eq`: the lines of an element are among those of the tree.
* `Scene.lowered_of_lower_ok`: all elements of a tree that was lowered are lowered ones.
* `Element.remark_reads_back`: the remarks of a tree.
-/

namespace Viewsmith

namespace Remark

open Text Identifier

/-! ### Plain characters -/

/-- The signs that a remark is written with. -/
def signs : List Char := "\"'`\\\x7b\x7d<>=/*".toList

/-- Whether a character is neither white space nor one of the signs. -/
def isPlain (c : Char) : Bool := !isBlank c && !signs.contains c

/-- The characters of white space. -/
def blanks : List Char :=
  (blankRanges.flatMap fun range => List.range' range.1 (range.2 - range.1 + 1)).map Char.ofNat

/-- Every character of white space is in the list. -/
theorem mem_blanks_of_isBlank {c : Char} (h : isBlank c = true) : c ∈ blanks := by
  obtain ⟨range, hm, hlow, hhigh⟩ := exists_mem_of_inRanges h
  refine List.mem_map.mpr ⟨c.toNat, List.mem_flatMap.mpr ⟨range, hm, ?_⟩, Char.ofNat_toNat c⟩
  rw [List.mem_range'_1]
  omega

/-- A character that is not plain is white space or one of the signs. -/
theorem mem_of_not_isPlain {c : Char} (h : isPlain c = false) : c ∈ blanks ++ signs := by
  rw [isPlain, Bool.and_eq_false_iff, Bool.not_eq_false', Bool.not_eq_false'] at h
  rcases h with hblank | hsign
  · exact List.mem_append_left _ (mem_blanks_of_isBlank hblank)
  · exact List.mem_append_right _ (List.contains_iff_mem.mp hsign)

/-- White space and signs belong to no identifier, and they are the upper case of no other
character. -/
theorem barred_of_not_isPlain {c : Char} (h : isPlain c = false) :
    c ≠ Char.ofNat 0 ∧ isContinue c = false ∧ sources upperSequences upperRuns c.toNat = [] := by
  have hcheck : (blanks ++ signs).all (fun c => c ≠ Char.ofNat 0 ∧ isContinue c = false ∧
      sources upperSequences upperRuns c.toNat = []) = true := by decide +kernel
  exact of_decide_eq_true (List.all_eq_true.mp hcheck c (mem_of_not_isPlain h))

/-- A text of plain characters. -/
def Plain (s : String) : Prop := ∀ c ∈ s.toList, isPlain c = true

/-- Identifiers are plain. -/
theorem plain_ofName (name : String) : Plain (ofName name) := by
  intro c hc
  rcases isContinue_of_mem_ofName hc with hcontinue | rfl
  · by_contra hplain
    rw [(barred_of_not_isPlain (Bool.eq_false_iff.mpr hplain)).2.1] at hcontinue
    cases hcontinue
  · decide +kernel

/-- A plain name stays plain with underscores before it. -/
theorem plain_underscored {name : String} (h : Plain name) (k : Nat) :
    Plain (Element.underscored k name) := by
  intro c hc
  rw [Element.underscored, String.toList_append, String.toList_ofList, List.mem_append] at hc
  rcases hc with hc | hc
  · rw [List.eq_of_mem_replicate hc]
    decide +kernel
  · exact h c hc

/-- A plain text stays plain when it is capitalized. -/
theorem plain_capitalized {s : String} (h : Plain s) : Plain (capitalized s) := by
  intro c hc
  rw [capitalized, String.toList_ofList] at hc
  cases hlist : s.toList with
  | nil =>
    rw [hlist] at hc
    exact absurd hc List.not_mem_nil
  | cons d ds =>
    rw [hlist] at hc
    rcases List.mem_append.mp hc with hupper | hrest
    · by_contra hplain
      obtain ⟨hzero, -, hsources⟩ := barred_of_not_isPlain (Bool.eq_false_iff.mpr hplain)
      rcases mem_sources_of_mem_mapCase hzero hupper with rfl | hsource
      · exact hplain (h c (hlist ▸ List.mem_cons_self))
      · rw [hsources] at hsource
        exact absurd hsource List.not_mem_nil
    · exact h c (hlist ▸ List.mem_cons_of_mem d hrest)

end Remark

/-! ### Props -/

namespace Identifier

/-- A key that is present keeps its position, and a new one comes last. -/
theorem map_fst_putPair (pairs : List (String × String)) (key value : String) :
    (putPair pairs key value).map Prod.fst =
      if key ∈ pairs.map Prod.fst then pairs.map Prod.fst else pairs.map Prod.fst ++ [key] := by
  have hany : pairs.any (·.1 == key) = true ↔ key ∈ pairs.map Prod.fst := by
    simp [List.any_eq_true, List.mem_map]
  unfold putPair
  by_cases h : pairs.any (·.1 == key) = true
  · rw [if_pos h, if_pos (hany.mp h), List.map_map]
    refine List.map_congr_left fun p _ => ?_
    rw [Function.comp_apply]
    split
    · exact (beq_iff_eq.mp ‹_›).symm
    · rfl
  · rw [if_neg h, if_neg (mt hany.mpr h), List.map_append]
    rfl

/-- Writing a pair makes no key occur twice. -/
theorem nodup_putPair {pairs : List (String × String)} (h : (pairs.map Prod.fst).Nodup)
    (key value : String) : ((putPair pairs key value).map Prod.fst).Nodup := by
  rw [map_fst_putPair]
  split
  · exact h
  · rename_i hnew
    refine List.nodup_append.mpr ⟨h, List.nodup_singleton key, fun a ha b hb hab => hnew ?_⟩
    rw [← List.mem_singleton.mp hb, ← hab]
    exact ha

/-- Writing a pair adds no other. -/
theorem mem_of_mem_putPair {pairs : List (String × String)} {key value : String}
    {p : String × String} (h : p ∈ putPair pairs key value) : p ∈ pairs ∨ p = (key, value) := by
  unfold putPair at h
  split at h
  · obtain ⟨q, hq, rfl⟩ := List.mem_map.mp h
    split
    · exact .inr rfl
    · exact .inl hq
  · rcases List.mem_append.mp h with h | h
    · exact .inl h
    · exact .inr (List.mem_singleton.mp h)

/-- Each key stands once, and no pair is new. -/
theorem distinctPairs_spec (pairs : List (String × String)) :
    ((distinctPairs pairs).map Prod.fst).Nodup ∧ ∀ p ∈ distinctPairs pairs, p ∈ pairs := by
  have hrun : ∀ (rest acc : List (String × String)), (acc.map Prod.fst).Nodup →
      ((rest.foldl (fun acc p => putPair acc p.1 p.2) acc).map Prod.fst).Nodup ∧
        ∀ p ∈ rest.foldl (fun acc p => putPair acc p.1 p.2) acc, p ∈ acc ∨ p ∈ rest := by
    intro rest
    induction rest with
    | nil => exact fun acc h => ⟨h, fun p hp => .inl hp⟩
    | cons q rest ih =>
      intro acc h
      obtain ⟨hnodup, hmem⟩ := ih _ (nodup_putPair h q.1 q.2)
      refine ⟨hnodup, fun p hp => ?_⟩
      rcases hmem p hp with hacc | hrest
      · rcases mem_of_mem_putPair hacc with hold | rfl
        · exact .inl hold
        · exact .inr List.mem_cons_self
      · exact .inr (List.mem_cons_of_mem _ hrest)
  obtain ⟨hnodup, hmem⟩ := hrun pairs [] List.nodup_nil
  exact ⟨hnodup, fun p hp => (hmem p hp).resolve_left List.not_mem_nil⟩

/-- No identifier is empty. -/
theorem ofName_ne_empty (name : String) : (ofName name).toList ≠ [] := by
  obtain ⟨c, cs, h⟩ := exists_toList_ofName name
  rw [h]
  exact List.append_ne_nil_of_left_ne_nil (Text.lower_ne_nil c) cs

end Identifier

/-! ### Reading a remark -/

namespace Remark

open Text

/-- An element as it is read: the name of its tag and its props. -/
structure Reading where
  tag : String
  props : List (String × String)
  deriving Repr, DecidableEq

/-- Where a reader of a remark is, with what it has read. -/
inductive State where
  /-- Before the element. -/
  | prose
  | tag (name : List Char)
  /-- Between the attributes. -/
  | gap (element : Reading)
  | key (element : Reading) (key : List Char)
  /-- After an equals sign: a brace is due, and then a quote. -/
  | equals (element : Reading) (key : List Char)
  | brace (element : Reading) (key : List Char)
  | value (element : Reading) (key value : List Char)
  /-- After a value: a brace is due. -/
  | quote (element : Reading) (key value : List Char)
  /-- After a slash: the end of the tag is due. -/
  | slash (element : Reading)
  /-- After the element. -/
  | past (element : Reading)
  deriving Repr, DecidableEq

/-- One character of a remark. Names are plain, and a text in quotes has no escapes and no line
breaks. -/
def step : State → Char → Option State
  | .prose, c => some (if c = '<' then .tag [] else .prose)
  | .tag name, c =>
    if c = ' ' then some (.gap ⟨String.ofList name, []⟩)
    else if isPlain c then some (.tag (name ++ [c])) else none
  | .gap element, c =>
    if c = ' ' then some (.gap element)
    else if c = '/' then some (.slash element)
    else if isPlain c then some (.key element [c]) else none
  | .key element key, c =>
    if c = '=' then some (.equals element key)
    else if isPlain c then some (.key element (key ++ [c])) else none
  | .equals element key, c => if c = '{' then some (.brace element key) else none
  | .brace element key, c => if c = '"' then some (.value element key []) else none
  | .value element key value, c =>
    if c = '"' then some (.quote element key value)
    else if c = '\\' || (isBlank c && c ≠ ' ') then none
    else some (.value element key (value ++ [c]))
  | .quote element key value, c =>
    if c = '}' then
      some (.gap { element with
        props := element.props ++ [(String.ofList key, String.ofList value)] })
    else none
  | .slash element, c => if c = '>' then some (.past element) else none
  | .past element, c => if c = ' ' then some (.past element) else none

/-- The element that has been read. -/
def State.element? : State → Option Reading
  | .past element => some element
  | _ => none

/-- The element that a remark names: some words, the element, and blanks. -/
def read (inside : List Char) : Option Reading := (inside.foldlM step .prose).bind State.element?

/-- A plain character is neither white space nor one of the signs. -/
theorem not_mem_signs_of_isPlain {c : Char} (h : isPlain c = true) :
    isBlank c = false ∧ c ∉ signs := by
  rw [isPlain, Bool.and_eq_true, Bool.not_eq_true', Bool.not_eq_true'] at h
  exact ⟨h.1, fun hm => Bool.false_ne_true (h.2.symm.trans (List.contains_iff_mem.mpr hm))⟩

/-- A plain character is not one that is not plain. -/
theorem ne_of_isPlain {c d : Char} (h : isPlain c = true) (hd : isPlain d = false) : c ≠ d := by
  rintro rfl
  exact Bool.false_ne_true (hd.symm.trans h)

/-- A remark is read part by part. -/
theorem run_append {first second : List Char} {s t u : State} (h : first.foldlM step s = some t)
    (h' : second.foldlM step t = some u) : (first ++ second).foldlM step s = some u := by
  rw [List.foldlM_append, h]
  exact h'

/-- Run: plain characters are collected one by one. -/
theorem run_plain {S : List Char → State}
    (hstep : ∀ read c, isPlain c = true → step (S read) c = some (S (read ++ [c])))
    {cs : List Char} (h : ∀ c ∈ cs, isPlain c = true) (read : List Char) :
    cs.foldlM step (S read) = some (S (read ++ cs)) := by
  induction cs generalizing read with
  | nil => rw [List.append_nil]; rfl
  | cons c cs ih =>
    obtain ⟨hc, hcs⟩ := List.forall_mem_cons.mp h
    rw [List.foldlM_cons, hstep read c hc, Option.bind_eq_bind, Option.bind_some, ih hcs,
      List.append_assoc]
    rfl

/-- A plain character goes on with the name of a tag. -/
theorem step_tag (name : List Char) (c : Char) (h : isPlain c = true) :
    step (.tag name) c = some (.tag (name ++ [c])) := by
  rw [step, if_neg (ne_of_isPlain h (by decide +kernel)), if_pos h]

/-- A plain character goes on with the key of a prop. -/
theorem step_key (element : Reading) (key : List Char) (c : Char) (h : isPlain c = true) :
    step (.key element key) c = some (.key element (key ++ [c])) := by
  rw [step, if_neg (ne_of_isPlain h (by decide +kernel)), if_pos h]

/-- A plain character goes on with the value of a prop. -/
theorem step_value (element : Reading) (key value : List Char) (c : Char) (h : isPlain c = true) :
    step (.value element key value) c = some (.value element key (value ++ [c])) := by
  have hescape : c ≠ '\\' := ne_of_isPlain h (by decide +kernel)
  rw [step, if_neg (ne_of_isPlain h (by decide +kernel)), if_neg]
  simp [hescape, (not_mem_signs_of_isPlain h).1]

/-- Run: one attribute is read. -/
theorem run_attribute {key value : String} (hkey : Plain key) (hne : key.toList ≠ [])
    (hvalue : Plain value) (element : Reading) :
    (" " ++ key ++ "=\x7b\"" ++ value ++ "\"\x7d").toList.foldlM step (.gap element) =
      some (.gap { element with props := element.props ++ [(key, value)] }) := by
  obtain ⟨c, cs, hlist⟩ := List.exists_cons_of_ne_nil hne
  have hfirst : step (.gap element) c = some (.key element [c]) := by
    have hc := hkey c (hlist ▸ List.mem_cons_self)
    rw [step, if_neg (ne_of_isPlain hc (by decide +kernel)),
      if_neg (ne_of_isPlain hc (by decide +kernel)), if_pos hc]
  have hkeyrun : key.toList.foldlM step (.gap element) = some (.key element key.toList) := by
    rw [hlist, List.foldlM_cons, hfirst]
    exact run_plain (step_key element) (fun d hd => hkey d (hlist ▸ List.mem_cons_of_mem _ hd)) [c]
  have hopen : "=\x7b\"".toList.foldlM step (.key element key.toList) =
      some (.value element key.toList []) := rfl
  have hvaluerun : value.toList.foldlM step (.value element key.toList []) =
      some (.value element key.toList value.toList) :=
    run_plain (step_value element key.toList) hvalue []
  have hclose : "\"\x7d".toList.foldlM step (.value element key.toList value.toList) =
      some (.gap { element with
        props := element.props ++ [(String.ofList key.toList, String.ofList value.toList)] }) := rfl
  rw [String.ofList_toList, String.ofList_toList] at hclose
  simp only [String.toList_append]
  exact run_append (run_append (run_append (run_append rfl hkeyrun) hopen) hvaluerun) hclose

/-- The attributes of props are written one after the other. -/
theorem toList_propAttributes_cons (p : String × String) (props : List (String × String)) :
    (Line.propAttributes (p :: props)).toList =
      (" " ++ p.1 ++ "=\x7b\"" ++ p.2 ++ "\"\x7d").toList ++
      (Line.propAttributes props).toList := by
  unfold Line.propAttributes
  rw [List.map_cons]
  simp [String.join_cons]

/-- Run: all attributes are read. -/
theorem run_propAttributes {props : List (String × String)}
    (h : ∀ p ∈ props, Plain p.1 ∧ p.1.toList ≠ [] ∧ Plain p.2) (element : Reading) :
    (Line.propAttributes props).toList.foldlM step (.gap element) =
      some (.gap { element with props := element.props ++ props }) := by
  induction props generalizing element with
  | nil =>
    rw [List.append_nil]
    rfl
  | cons p props ih =>
    obtain ⟨⟨hkey, hne, hvalue⟩, hprops⟩ := List.forall_mem_cons.mp h
    rw [toList_propAttributes_cons]
    refine run_append (run_attribute hkey hne hvalue element) ?_
    rw [ih hprops, List.append_assoc]
    rfl

/-! ### The text of a remark -/

/-- What stands between the marks of a remark. -/
def inside (component : String) (props : List (String × String)) : List Char :=
  " can be replaced with <".toList ++ (capitalized component).toList ++
    (Line.propAttributes props).toList ++ " /> ".toList

/-- What stands between the marks, cut before the attributes. -/
theorem inside_eq (component : String) (props : List (String × String)) :
    inside component props = (" can be replaced with <".toList ++ (capitalized component).toList) ++
      ((Line.propAttributes props).toList ++ " /> ".toList) := List.append_assoc _ _ _

/-- The text of a remark. -/
theorem text_remark (component : String) (props : List (String × String)) :
    (Line.remark component props).text =
      "\x7b/* can be replaced with <" ++ capitalized component ++ Line.propAttributes props ++
      " /> */\x7d" := rfl

/-- The text of a remark is what stands between its marks. -/
theorem toList_text_remark (component : String) (props : List (String × String)) :
    (Line.remark component props).text.toList =
      "\x7b/*".toList ++ inside component props ++ "*/\x7d".toList := by
  have hsplit : ∀ start finish : String,
      (start ++ capitalized component ++ Line.propAttributes props ++ finish).toList =
      start.toList ++ ((capitalized component).toList ++
        ((Line.propAttributes props).toList ++ finish.toList)) := by
    intro start finish
    simp only [String.toList_append, List.append_assoc]
  have hjoin : ∀ mark prose slash finish : List Char,
      mark ++ prose ++ ((capitalized component).toList ++
        ((Line.propAttributes props).toList ++ (slash ++ finish))) =
      mark ++ (prose ++ (capitalized component).toList ++ (Line.propAttributes props).toList ++
          slash) ++ finish := by
    intro mark prose slash finish
    simp only [List.append_assoc]
  rw [text_remark, hsplit]
  exact hjoin "\x7b/*".toList " can be replaced with <".toList " /> ".toList "*/\x7d".toList

/-- The blank before the first attribute, or before the slash, ends the name of the tag. -/
theorem run_tag_end {cs : List Char} (h : cs.head? = some ' ') (name : List Char) :
    cs.foldlM step (.tag name) = cs.foldlM step (.gap ⟨String.ofList name, []⟩) := by
  cases cs with
  | nil => cases h
  | cons c cs =>
    cases h
    rfl

/-- The element of a remark is read back. -/
theorem read_inside {component : String} {props : List (String × String)}
    (hcomponent : Plain component) (hprops : ∀ p ∈ props, Plain p.1 ∧ p.1.toList ≠ [] ∧ Plain p.2) :
    read (inside component props) = some ⟨capitalized component, props⟩ := by
  have hprose : " can be replaced with <".toList.foldlM step .prose = some (.tag []) := rfl
  have htag : (capitalized component).toList.foldlM step (.tag []) =
      some (.tag (capitalized component).toList) :=
    run_plain step_tag (plain_capitalized hcomponent) []
  have hblank : ((Line.propAttributes props).toList ++ " /> ".toList).head? = some ' ' := by
    cases props with
    | nil => rfl
    | cons p props =>
      simp only [toList_propAttributes_cons, String.toList_append, List.append_assoc]
      rfl
  have hrest : ((Line.propAttributes props).toList ++ " /> ".toList).foldlM step
      (.tag (capitalized component).toList) = some (.past ⟨capitalized component, props⟩) := by
    rw [run_tag_end hblank, String.ofList_toList]
    exact run_append (run_propAttributes hprops ⟨capitalized component, []⟩) rfl
  have hrun : (inside component props).foldlM step .prose =
      some (.past ⟨capitalized component, props⟩) := by
    rw [inside_eq, run_append (run_append hprose htag) hrest]
  rw [read, hrun]
  rfl

/-- Whether a character neither closes a remark nor breaks its line. -/
def isHarmless (c : Char) : Bool := c ≠ '*' && (c = ' ' || !isBlank c)

/-- A plain character neither closes a remark nor breaks its line. -/
theorem isHarmless_of_isPlain {c : Char} (h : isPlain c = true) : isHarmless c = true := by
  have hstar : c ≠ '*' := ne_of_isPlain h (by decide +kernel)
  simp [isHarmless, hstar, (not_mem_signs_of_isPlain h).1]

/-- The attributes of plain props neither close a remark nor break its line. -/
theorem isHarmless_of_mem_propAttributes {props : List (String × String)}
    (h : ∀ p ∈ props, Plain p.1 ∧ Plain p.2) :
    ∀ c ∈ (Line.propAttributes props).toList, isHarmless c = true := by
  induction props with
  | nil => exact fun c hc => absurd hc List.not_mem_nil
  | cons p props ih =>
    obtain ⟨⟨hkey, hvalue⟩, hprops⟩ := List.forall_mem_cons.mp h
    have hblank : " ".toList.all isHarmless = true := by decide +kernel
    have hopen : "=\x7b\"".toList.all isHarmless = true := by decide +kernel
    have hclose : "\"\x7d".toList.all isHarmless = true := by decide +kernel
    intro c hc
    simp only [toList_propAttributes_cons, String.toList_append, List.mem_append, or_assoc] at hc
    rcases hc with hc | hc | hc | hc | hc | hc
    · exact List.all_eq_true.mp hblank c hc
    · exact isHarmless_of_isPlain (hkey c hc)
    · exact List.all_eq_true.mp hopen c hc
    · exact isHarmless_of_isPlain (hvalue c hc)
    · exact List.all_eq_true.mp hclose c hc
    · exact ih hprops c hc

/-- Nothing in a remark closes it or breaks its line. -/
theorem isHarmless_of_mem_inside {component : String} {props : List (String × String)}
    (hcomponent : Plain component) (hprops : ∀ p ∈ props, Plain p.1 ∧ Plain p.2) :
    ∀ c ∈ inside component props, isHarmless c = true := by
  have hprose : " can be replaced with <".toList.all isHarmless = true := by decide +kernel
  have hslash : " /> ".toList.all isHarmless = true := by decide +kernel
  intro c hc
  rw [inside_eq] at hc
  rcases List.mem_append.mp hc with hc | hc <;> rcases List.mem_append.mp hc with hc | hc
  · exact List.all_eq_true.mp hprose c hc
  · exact isHarmless_of_isPlain (plain_capitalized hcomponent c hc)
  · exact isHarmless_of_mem_propAttributes hprops c hc
  · exact List.all_eq_true.mp hslash c hc

/-- Without a star inside, only the last star is followed by a slash. -/
theorem eq_of_append_close {cs front back : List Char} (h : '*' ∉ cs)
    (heq : cs ++ "*/\x7d".toList = front ++ "*/".toList ++ back) : back = ['}'] := by
  induction cs generalizing front with
  | nil =>
    rcases front with _ | ⟨a, _ | ⟨b, front⟩⟩
    · exact (List.cons.inj (List.cons.inj heq).2).2.symm
    · exact absurd (List.cons.inj (List.cons.inj heq).2).1 (by decide)
    · have hlength := congrArg List.length heq
      simp at hlength
      omega
  | cons c cs ih =>
    cases front with
    | nil => exact absurd (List.cons.inj heq).1 fun hc => h (hc ▸ List.mem_cons_self)
    | cons d front => exact ih (fun hm => h (List.mem_cons_of_mem c hm)) (List.cons.inj heq).2

/-- A text that is one remark: it has its marks at its ends, is closed nowhere before, and stands on
one line. -/
structure IsRemark (text inside : List Char) : Prop where
  marks : text = "\x7b/*".toList ++ inside ++ "*/\x7d".toList
  closed : ∀ front back, text = front ++ "*/".toList ++ back → back = ['}']
  line : ∀ c ∈ text, isBlank c = true → c = ' '

/-- With a plain name and plain props the line is one remark. -/
theorem isRemark {component : String} {props : List (String × String)}
    (hcomponent : Plain component) (hprops : ∀ p ∈ props, Plain p.1 ∧ Plain p.2) :
    IsRemark (Line.remark component props).text.toList (inside component props) := by
  have hinside := isHarmless_of_mem_inside hcomponent hprops
  have hstar : '*' ∉ inside component props := fun hm => absurd (hinside _ hm) (by decide)
  obtain ⟨rest, hrest⟩ : ∃ rest, inside component props = ' ' :: rest := ⟨_, rfl⟩
  rw [toList_text_remark]
  refine ⟨rfl, fun front back heq => ?_, fun c hc hblank => ?_⟩
  · rcases front with _ | ⟨a, _ | ⟨b, _ | ⟨c, front⟩⟩⟩
    · exact absurd (List.cons.inj heq).1 (by decide)
    · exact absurd (List.cons.inj (List.cons.inj heq).2).1 (by decide)
    · -- the star of the opening mark is followed by a blank
      have hblank := (List.cons.inj (List.cons.inj (List.cons.inj heq).2).2).2
      rw [hrest] at hblank
      exact absurd (List.cons.inj hblank).1 (by decide)
    · exact eq_of_append_close hstar (List.cons.inj (List.cons.inj (List.cons.inj heq).2).2).2
  · have hmarks : ("\x7b/*".toList ++ "*/\x7d".toList).all (!isBlank ·) = true := by decide +kernel
    have hmark (hm : c ∈ "\x7b/*".toList ++ "*/\x7d".toList) : c = ' ' := by
      have hnot := List.all_eq_true.mp hmarks c hm
      rw [hblank] at hnot
      cases hnot
    rcases List.mem_append.mp hc with hc | hc
    · rcases List.mem_append.mp hc with hc | hc
      · exact hmark (List.mem_append_left _ hc)
      · have hharmless := hinside c hc
        simp only [isHarmless, hblank, Bool.not_true, Bool.or_false, Bool.and_eq_true,
          decide_eq_true_eq] at hharmless
        exact hharmless.2
    · exact hmark (List.mem_append_right _ hc)

end Remark

/-! ### The lines of an element inside of a tree -/

namespace Element

/-- An element stands so many levels below another, or is the other. -/
inductive Stands (d : Element) : Nat → Element → Prop
  | here : Stands d 0 d
  | inside {k : Nat} {name : String} {content : Content} {style : Style} {children : List Element}
      {child : Element} (hm : child ∈ children) (h : Stands d k child) :
        Stands d (k + 1) (.mk name content style children)

variable {d e : Element} {k : Nat}

/-- What is in one of several trees is in all of them together. -/
theorem mem_preorderAll_of_mem {child x : Element} {children : List Element} (hm : child ∈ children)
    (hx : x ∈ child.preorder) : x ∈ preorderAll children := by
  obtain ⟨before, after, rfl⟩ := List.append_of_mem hm
  rw [preorderAll_append, preorderAll]
  exact List.mem_append_right _ (List.mem_append_left _ hx)

/-- What stands in a tree is one of its elements. -/
theorem Stands.mem_preorder (h : d.Stands k e) : d ∈ e.preorder := by
  induction h with
  | here =>
    cases d
    exact List.mem_cons_self
  | inside hm _ ih => exact List.mem_cons_of_mem _ (mem_preorderAll_of_mem hm ih)

/-- Where only boxes have children, the lines of an element are among those of the tree it stands
in. -/
theorem Stands.exists_lines_eq (h : d.Stands k e)
    (hleaf : ∀ x ∈ e.preorder, x.content.isBox = false → x.children = [])
    (depth : Nat) : ∃ before after, e.lines depth = before ++ d.lines (depth + k) ++ after := by
  induction h generalizing depth with
  | here => exact ⟨[], [], (List.append_nil _).symm⟩
  | @inside k name content style children child hm h ih =>
    have hbox : content.isBox = true := by
      by_contra hbox
      have hnil : children = [] := hleaf _ List.mem_cons_self (Bool.eq_false_iff.mpr hbox)
      rw [hnil] at hm
      exact absurd hm List.not_mem_nil
    obtain ⟨before, after, hlines⟩ :=
      ih (fun x hx => hleaf x (List.mem_cons_of_mem _ (mem_preorderAll_of_mem hm hx))) (depth + 1)
    obtain ⟨left, right, rfl⟩ := List.append_of_mem hm
    have hempty : (left ++ child :: right).isEmpty = false := by simp
    rw [lines_of_isBox hbox, hempty, linesAll_append, linesAll, hlines, Nat.add_right_comm,
      Nat.add_assoc]
    refine ⟨remarks depth name content ++
        (depth, .start (containerTag content) name content.image) ::
        (linesAll (depth + 1) left ++ before),
      after ++ linesAll (depth + 1) right ++ [(depth, .finish (containerTag content))], ?_⟩
    simp

end Element

/-! ### What is announced -/

/-- The name of the component that an instance was made from, and the props; a component has no such
name. -/
def Content.announced? : Content → Option (String × List (String × String))
  | .component props _ => some ("", props)
  | .instanceOf main props _ => some (main, props)
  | _ => none

namespace Element

variable {d : Element} {main : String} {props : List (String × String)}

/-- What can be replaced is named by the component, or by the element itself. -/
theorem replacement?_of_announced {content : Content} (h : content.announced? = some (main, props))
    (name : String) :
    replacement? name content = some (if main = "" then name else main, props) := by
  cases content <;> cases h
  · rfl
  · simp only [replacement?, String.isEmpty_iff]

/-- Only boxes are announced. -/
theorem isBox_of_announced {content : Content} (h : content.announced? = some (main, props)) :
    content.isBox = true := by
  cases content <;> first | rfl | cases h

/-- Below the root a remark stands right before the start of the element. -/
theorem exists_lines_of_announced (h : d.content.announced? = some (main, props)) {depth : Nat}
    (hdepth : 0 < depth) :
    ∃ line after,
      d.lines depth = (depth, .remark (if main = "" then d.name else main) props) ::
        (depth, line) :: after ∧
      ("<" ++ (containerTag d.content).name ++ " " ++ Line.styleReference d.name).toList <+:
        line.text.toList := by
  obtain ⟨name, content, style, children⟩ := d
  change content.announced? = some (main, props) at h
  have hremarks : remarks depth name content =
      [(depth, .remark (if main = "" then name else main) props)] := by
    obtain ⟨depth, rfl⟩ := Nat.exists_eq_succ_of_ne_zero (Nat.ne_of_gt hdepth)
    simp only [remarks, replacement?_of_announced h]
  have hstart (front image back : String) : front.toList <+: (front ++ image ++ back).toList :=
    ⟨image.toList ++ back.toList, by simp⟩
  rw [lines_of_isBox (isBox_of_announced h), hremarks]
  cases children.isEmpty with
  | true =>
    refine ⟨.single (containerTag content) name content.image, [], rfl, ?_⟩
    rw [Line.text_single]
    exact hstart _ _ _
  | false =>
    refine ⟨.start (containerTag content) name content.image, _, rfl, ?_⟩
    rw [Line.text_start]
    exact hstart _ _ _

/-- What lowering makes sure of: names, tags and props come from identifiers, and only boxes have
children. -/
structure Lowered (e : Element) : Prop where
  name : ∃ k title, e.name = underscored k (Identifier.ofName title)
  announced : ∀ main props, e.content.announced? = some (main, props) →
    (main = "" ∨ ∃ title, main = Identifier.ofName title) ∧
    ∃ pairs, props = Identifier.ofPairs pairs
  closed : e.content.isBox = false → e.children = []

/-- An element with a name, tag and props from identifiers, and without children, is lowered. -/
theorem lowered_mk (title : String) {content : Content} (style : Style)
    (h : ∀ main props, content.announced? = some (main, props) →
      (main = "" ∨ ∃ title, main = Identifier.ofName title) ∧
      ∃ pairs, props = Identifier.ofPairs pairs) :
    (mk (Identifier.ofName title) content style []).Lowered :=
  ⟨⟨0, title, (underscored_zero _).symm⟩, h, fun _ => rfl⟩

/-- An element that announces nothing only has to be named by an identifier. -/
theorem lowered_of_announced_none (title : String) {content : Content} (style : Style)
    (h : content.announced? = none) : (mk (Identifier.ofName title) content style []).Lowered :=
  lowered_mk title style fun main props hsome => by
    rw [h] at hsome
    cases hsome

/-- A box that is lowered may be given children. -/
theorem Lowered.withChildren {e : Element} {es : List Element} (h : e.Lowered)
    (hclosed : e.content.isBox = false → es = []) : (e.withChildren es).Lowered := by
  obtain ⟨name, content, style, children⟩ := e
  exact ⟨h.name, h.announced, hclosed⟩

/-- What holds of a tree with new children holds of the element and of the children. -/
theorem forall_preorder_withChildren {p : Element → Prop} {e : Element} {es : List Element} :
    (∀ x ∈ (e.withChildren es).preorder, p x) ↔
      p (e.withChildren es) ∧ ∀ x ∈ preorderAll es, p x := by
  obtain ⟨name, content, style, children⟩ := e
  exact List.forall_mem_cons

/-- Renaming keeps what lowering makes sure of. -/
theorem Lowered.of_isRename {old new : Element} (h : IsRename old new) (hold : old.Lowered) :
    new.Lowered where
  name := by
    obtain ⟨k, title, hname⟩ := hold.name
    obtain ⟨j, hnew⟩ := h.name
    refine ⟨j + k, title, ?_⟩
    rw [hnew, hname, ← String.toList_inj]
    simp only [underscored, String.toList_append, String.toList_ofList, List.replicate_add,
      List.append_assoc]
  announced := by
    rw [h.content]
    exact hold.announced
  closed := by
    rw [h.content, h.children]
    exact hold.closed

end Element

/-! ### Lowering -/

/-- An outcome, if it is an element, is a lowered one, and a box unless it is closed. -/
def LoweredAs (closed : Bool) : Except CompileError Element → Prop
  | .ok e => e.Lowered ∧ (e.content.isBox = false → closed = true)
  | .error _ => True

namespace Site

/-- The name and the props of a main component come from identifiers. -/
theorem announced_mainComponent (site : Site) :
    (site.mainComponent.1 = "" ∨ ∃ title, site.mainComponent.1 = Identifier.ofName title) ∧
      ∃ pairs, site.mainComponent.2 = Identifier.ofPairs pairs := by
  unfold mainComponent
  cases site.node.mainComponent with
  | none => exact ⟨.inl rfl, [], rfl⟩
  | some main => exact ⟨.inr ⟨_, rfl⟩, _, rfl⟩

/-- The element of a place is lowered, and a box if it is to have children. -/
theorem element_loweredAs (site : Site) (source : Source) (mode : ImageFills) (artwork : Bool) :
    (site.element source mode artwork).Ends
      (LoweredAs (!(Layer.opens site.node.kind && !artwork))) := by
  refine Script.ends_bind _ (fun style => ?_) fun _ => trivial
  generalize style.simplify = style
  unfold elementOf
  cases artwork with
  | true =>
    have hclosed : (!(Layer.opens site.node.kind && !true)) = true := by simp
    rw [if_pos rfl, hclosed]
    unfold exported
    cases source.artwork site.id with
    | ok svg => exact ⟨Element.lowered_of_announced_none _ _ rfl, fun _ => rfl⟩
    | error e => exact ⟨Element.lowered_of_announced_none _ _ rfl, fun _ => rfl⟩
  | false =>
    simp only [Bool.false_eq_true, if_false]
    cases hkind : site.node.kind
    case component =>
      refine Script.ends_bind _
        (fun image => ⟨Element.lowered_mk _ _ ?_, fun h => Bool.noConfusion h⟩) fun _ => trivial
      rintro main props ⟨⟩
      exact ⟨.inl rfl, _, rfl⟩
    case instanceOf =>
      refine Script.ends_bind _
        (fun image => ⟨Element.lowered_mk _ _ ?_, fun h => Bool.noConfusion h⟩) fun _ => trivial
      rintro main props ⟨⟩
      exact site.announced_mainComponent
    case frame | rectangle =>
      exact Script.ends_bind _
        (fun image => ⟨Element.lowered_of_announced_none _ _ rfl, fun h => Bool.noConfusion h⟩)
        fun _ => trivial
    case text =>
      exact Script.ends_bind _
        (fun markup => ⟨Element.lowered_of_announced_none _ _ rfl, fun _ => rfl⟩)
        fun _ => trivial
    case group => exact ⟨Element.lowered_of_announced_none _ _ rfl, fun h => Bool.noConfusion h⟩
    all_goals exact trivial

end Site

/-- An outcome, if it is a list of elements, consists of trees of lowered elements. -/
def AllLowered : Except CompileError (List Element) → Prop
  | .ok es => ∀ x ∈ Element.preorderAll es, x.Lowered
  | .error _ => True

/-- An outcome, if it is an element, is a tree of lowered elements. -/
def TreeLowered : Except CompileError Element → Prop
  | .ok e => ∀ x ∈ e.preorder, x.Lowered
  | .error _ => True

namespace Layer

mutual

/-- Run: the reached part of a layer becomes a tree of lowered elements. -/
theorem build_outline_lowered (source : Source) (mode : ImageFills) :
    (layer : Layer) → ∀ (selected : Bool) (owner outer : Option Node),
      ((layer.outline selected owner outer).build source mode).Ends TreeLowered
  | .mk id node children, selected, owner, outer => by
      unfold outline Outline.build
      refine (Site.element_loweredAs _ source mode _).bind (fun e he => ?_) fun _ _ => trivial
      cases hopen : opens node.kind && !isArtwork (.mk id node children) with
      | true =>
        refine (buildAll_outlines_lowered source mode children (some node) owner).bind
          (fun es hes => ?_) fun _ _ => trivial
        refine Element.forall_preorder_withChildren.mpr ⟨he.1.withChildren fun hbox => ?_, hes⟩
        have hclosed : (!(opens node.kind && !isArtwork (.mk id node children))) = true := he.2 hbox
        rw [hopen] at hclosed
        cases hclosed
      | false =>
        exact Element.forall_preorder_withChildren.mpr
          ⟨he.1.withChildren fun _ => rfl, fun x hx => absurd hx List.not_mem_nil⟩

/-- The reached parts of several layers become trees of lowered elements. -/
theorem buildAll_outlines_lowered (source : Source) (mode : ImageFills) :
    (layers : List Layer) → ∀ (owner outer : Option Node),
      (Outline.buildAll source mode (outlines owner outer layers)).Ends AllLowered
  | [], owner, outer => fun x hx => absurd hx List.not_mem_nil
  | layer :: layers, owner, outer => by
      unfold outlines
      split
      · unfold Outline.buildAll
        refine (build_outline_lowered source mode layer false owner outer).bind (fun e he => ?_)
          fun _ _ => trivial
        refine (buildAll_outlines_lowered source mode layers owner outer).bind (fun es hes => ?_)
          fun _ _ => trivial
        exact List.forall_mem_append.mpr ⟨he, hes⟩
      · exact buildAll_outlines_lowered source mode layers owner outer

end

end Layer

/-- Every element of a tree that was lowered and renamed is a lowered one. -/
theorem Scene.lowered_of_lower_ok {s : Scene} {root : Nat} {source : Source} {mode : ImageFills}
    {log : List Warning} {assets : Assets} {e : Element}
    (h : ((s.lower root source mode).run log assets).1 = .ok e) :
    ∀ x ∈ e.distinct.preorder, x.Lowered := by
  have hends : (s.lower root source mode).Ends TreeLowered := by
    unfold lower outline?
    cases s.get? root with
    | none => exact trivial
    | some node =>
      cases s.layer? root with
      | none => exact trivial
      | some layer =>
        dsimp only [Option.map_some]
        cases node.kind.checkRoot node.name with
        | error e => exact trivial
        | ok _ => exact layer.build_outline_lowered source mode _ _ _
  have hrun := hends.run log assets
  rw [h] at hrun
  exact Element.forall_mem_distinct hrun fun _ _ hrename => Element.Lowered.of_isRename hrename

namespace Element

open Remark

/-- The name that a lowered element announces is plain. -/
theorem Lowered.plain_component {d : Element} (h : d.Lowered) {main : String}
    {props : List (String × String)} (hd : d.content.announced? = some (main, props)) :
    Plain (if main = "" then d.name else main) := by
  obtain ⟨k, title, hname⟩ := h.name
  split
  · rw [hname]
    exact plain_underscored (plain_ofName title) k
  · rename_i hne
    obtain ⟨other, hmain⟩ := ((h.announced main props hd).1).resolve_left hne
    rw [hmain]
    exact plain_ofName other

/-- The props that a lowered element announces are plain, and their keys are distinct. -/
theorem Lowered.plain_props {d : Element} (h : d.Lowered) {main : String}
    {props : List (String × String)} (hd : d.content.announced? = some (main, props)) :
    (props.map Prod.fst).Nodup ∧ ∀ p ∈ props, Plain p.1 ∧ p.1.toList ≠ [] ∧ Plain p.2 := by
  obtain ⟨-, pairs, rfl⟩ := h.announced main props hd
  obtain ⟨hnodup, hmem⟩ :=
    Identifier.distinctPairs_spec
      (pairs.map fun p => (Identifier.ofName p.1, Identifier.ofName p.2))
  refine ⟨hnodup, fun p hp => ?_⟩
  obtain ⟨q, -, rfl⟩ := List.mem_map.mp (hmem p hp)
  exact ⟨plain_ofName _, Identifier.ofName_ne_empty _, plain_ofName _⟩

/-- Two lines in a row are two lines of the markup in a row. -/
theorem exists_markup_eq {e : Element} {depth : Nat} {before after : List (Nat × Line)}
    {first second : Nat × Line}
    (h : e.lines depth = before ++ first :: second :: after) (indent : Nat) :
    ∃ front back, e.markup indent depth = front ++
      (Text.spaces (first.1 * indent) ++ first.2.text) ::
      (Text.spaces (second.1 * indent) ++ second.2.text) :: back := by
  unfold markup
  rw [h, List.map_append, List.map_cons, List.map_cons]
  exact ⟨_, _, rfl⟩

/-- **Remarks.** In a tree that was lowered and renamed, a component or an instance below the root
has a remark right before its start. The remark is closed once, at its end, and stands on one line.
The element in it can be read back: its tag is the name of the component that the instance was made
from, capitalized, or the name of the element where there is none, and its props are those of the
element, in order. Each key stands once, and neither keys nor values have white space or signs. -/
theorem remark_reads_back {s : Scene} {root : Nat} {source : Source} {mode : ImageFills}
    {log : List Warning} {assets : Assets} {e d : Element} {k : Nat} {main : String}
    {props : List (String × String)}
    (h : ((s.lower root source mode).run log assets).1 = .ok e) (hd : d.Stands k e.distinct)
    (hannounced : d.content.announced? = some (main, props)) (indent depth : Nat)
    (hdepth : 0 < depth + k) :
    ∃ before remark opening after inside,
      e.distinct.markup indent depth =
        before ++ (Text.spaces ((depth + k) * indent) ++ remark) ::
          (Text.spaces ((depth + k) * indent) ++ opening) :: after ∧
      ("<" ++ (containerTag d.content).name ++ " " ++ Line.styleReference d.name).toList <+:
        opening.toList ∧
      IsRemark remark.toList inside ∧
      Remark.read inside = some ⟨Text.capitalized (if main = "" then d.name else main), props⟩ ∧
      (props.map Prod.fst).Nodup ∧
      ∀ p ∈ props, ∀ c ∈ p.1.toList ++ p.2.toList, Text.isBlank c = false ∧ c ∉ signs := by
  have hlowered := Scene.lowered_of_lower_ok h
  have hd' := hlowered d hd.mem_preorder
  have hcomponent := hd'.plain_component hannounced
  obtain ⟨hnodup, hprops⟩ := hd'.plain_props hannounced
  have hplain : ∀ p ∈ props, Plain p.1 ∧ Plain p.2 :=
    fun p hp => ⟨(hprops p hp).1, (hprops p hp).2.2⟩
  obtain ⟨line, rest, hlines, hopening⟩ := exists_lines_of_announced hannounced hdepth
  obtain ⟨before, after, htree⟩ := hd.exists_lines_eq (fun x hx => (hlowered x hx).closed) depth
  rw [hlines, List.append_assoc] at htree
  obtain ⟨front, back, hmarkup⟩ := exists_markup_eq htree indent
  refine ⟨front, _, line.text, back, _, hmarkup, hopening, isRemark hcomponent hplain,
    read_inside hcomponent hprops, hnodup, fun p hp c hc => ?_⟩
  rcases List.mem_append.mp hc with hc | hc
  · exact not_mem_signs_of_isPlain ((hplain p hp).1 c hc)
  · exact not_mem_signs_of_isPlain ((hplain p hp).2 c hc)

/-- An instance whose names are full of signs, and two props whose keys become one. -/
theorem remark_reads_back_button :
    let s := (({} : Scene).addRoot { kind := .frame }).addChild 0
      { kind := .instanceOf
        mainComponent := some
          { name := "Button */ \x7bPrimary\x7d"
            properties := some [("Si\"ze", "XL */\x7d"), ("*/", "ß"), ("size", "b\\")] } }
    let props := [("size", "b"), ("myVar", "sS")]
    ∃ e d : Element, ((s.lower 0 Source.none .css).run [] {}).1 = .ok e ∧ d.Stands 1 e.distinct ∧
      d.content.announced? = some ("buttonPrimary", props) ∧
      ∃ remark inside, Text.spaces 2 ++ remark ∈ e.distinct.markup 2 0 ∧
        IsRemark remark.toList inside ∧
        Remark.read inside = some ⟨"ButtonPrimary", props⟩ := by
  intro s props
  have hshape : ((s.lower 0 Source.none .css).run [] {}).1.toOption.map
      (fun e => e.distinct.children.map (·.content.announced?)) =
        some [some ("buttonPrimary", props)] := by
    decide +kernel
  have htag : Text.capitalized "buttonPrimary" = "ButtonPrimary" := by decide +kernel
  cases h : ((s.lower 0 Source.none .css).run [] {}).1 with
  | error error =>
    rw [h] at hshape
    cases hshape
  | ok e =>
    rw [h] at hshape
    obtain ⟨d, hchildren, hannounced⟩ := List.map_eq_singleton_iff.mp (Option.some.inj hshape)
    have hstands : d.Stands 1 e.distinct := by
      generalize e.distinct = tree at hchildren
      obtain ⟨name, content, style, children⟩ := tree
      cases hchildren
      exact .inside (List.mem_singleton_self d) .here
    obtain ⟨before, remark, opening, after, inside, hmarkup, -, hremark, hread, -⟩ :=
      remark_reads_back h hstands hannounced 2 0 (by decide)
    refine ⟨e, d, rfl, hstands, hannounced, remark, inside, ?_, hremark, htag ▸ hread⟩
    rw [hmarkup]
    exact List.mem_append_right _ List.mem_cons_self

end Element

end Viewsmith
