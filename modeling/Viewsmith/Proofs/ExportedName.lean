import Viewsmith.Proofs.Isolation
import Viewsmith.Proofs.MediaClosure
import Viewsmith.Proofs.UsableNames

/-!
# The name of the exported function

A module declares the names that it imports, its function, and the object of styles. Unless the
options give another name, the function is named after the selected root: the identifier of its
title, capitalized. That name is never the one of the styles, since no upper case begins with a
small letter `s`. But nothing keeps it from the names of the imports: a root called "View" gives a
function `View` beside the tag `View`.

This module says which roots lead to a name that is declared twice. Capitalizing is undone by a
search in the case tables (`Text.mem_uncapitalized_of_capitalize`), which also finds the dotless
small letter `ı`.

## Main definitions

* `Scene.title?`: the text that a selected root is named after.
* `Element.declared`: the names that a module declares.
* `Text.uncapitalized`: the texts that a text is the capitalized form of.
* `Tag.smallNames`: the identifiers that become the name of a tag.

## Main statements

* `Identifier.capitalized_ofName_eq_tag_iff`: which identifiers become the name of a tag.
* `Compiler.nodup_declared_iff`: which selections give a module that declares a name twice.
-/

namespace Viewsmith

/-- The text that a selected root is named after: a component takes the name of its set of
variants. -/
def Scene.title? (s : Scene) (root : Nat) : Option String :=
  (s.get? root).map fun node =>
    if node.kind = .component then (s.variantSet? root).getD node.name else node.name

/-- The names that a module declares: the imports, the function and the object of styles. -/
def Element.declared (e : Element) (function : String) : List String :=
  "React" :: (e.imports.map Tag.name ++ [function, "styles"])

/-- The identifiers that become the name of a tag when they are capitalized. -/
def Tag.smallNames : Tag → List String
  | .view => ["view"]
  | .imageBackground => ["imageBackground", "ımageBackground"]
  | .text => ["text"]

/-! ### Capitalizing, backwards -/

namespace Text

/-- The texts that a text is the capitalized form of. -/
def uncapitalized : List Char → List (List Char)
  | [] => [[]]
  | first :: rest =>
    ((first :: (sources upperSequences upperRuns first.toNat).map Char.ofNat).filter
      fun c => (upper c).isPrefixOf (first :: rest)).map
      fun c => c :: (first :: rest).drop (upper c).length

/-- A case map that has no empty sequence gives every character an image. -/
theorem mapCase_ne_nil {sequences : List (Nat × List Nat)} (runs : List CaseRun)
    (h : ∀ entry ∈ sequences, entry.2 ≠ []) (c : Char) : mapCase sequences runs c ≠ [] := by
  rcases mapCase_cases sequences runs c with ⟨points, hm, hc⟩ | ⟨run, -, -, hc⟩ | hc
  · rw [hc]
    exact fun hnil => h _ hm (List.map_eq_nil_iff.mp hnil)
  · rw [hc]
    exact List.cons_ne_nil _ _
  · rw [hc]
    exact List.cons_ne_nil _ _

/-- Every character has an upper case. -/
theorem upper_ne_nil (c : Char) : upper c ≠ [] := mapCase_ne_nil upperRuns (by decide +kernel) c

/-- Every character has a lower case. -/
theorem lower_ne_nil (c : Char) : lower c ≠ [] := mapCase_ne_nil lowerRuns (by decide +kernel) c

/-- A text that is capitalized to `text` is found by the search in the case tables. -/
theorem mem_uncapitalized_of_capitalize {cs text : List Char} (h : capitalize cs = text)
    (hzero : text.head? ≠ some (Char.ofNat 0)) : cs ∈ uncapitalized text := by
  cases cs with
  | nil =>
    subst h
    exact List.mem_singleton_self _
  | cons c cs =>
    obtain ⟨first, others, hupper⟩ := List.exists_cons_of_ne_nil (upper_ne_nil c)
    have htext : text = first :: (others ++ cs) := by
      rw [← h, capitalize, hupper]
      rfl
    subst htext
    have hfirst : first ≠ Char.ofNat 0 := fun heq => hzero (by rw [heq]; rfl)
    refine List.mem_map.mpr ⟨c, List.mem_filter.mpr ⟨?_, ?_⟩, ?_⟩
    · have hmem : first ∈ upper c := by
        rw [hupper]
        exact List.mem_cons_self
      rcases mem_sources_of_mem_mapCase hfirst hmem with rfl | hsource
      · exact List.mem_cons_self
      · exact List.mem_cons_of_mem _ (List.mem_map.mpr ⟨_, hsource, Char.ofNat_toNat c⟩)
    · rw [hupper, List.isPrefixOf_iff_prefix]
      exact ⟨cs, rfl⟩
    · rw [hupper]
      simp

/-- The capitalized forms of `smalls`, and of no other text but `text` itself, are `text`, and the
first character of `text` is not the lower case of any. -/
def Capitalizes (smalls : List String) (text : String) : Prop :=
  uncapitalized text.toList = text.toList :: smalls.map String.toList ∧
    (∀ small ∈ smalls, capitalized small = text) ∧
    -- a check and no quantifier, which would be decided by trying all characters there are
    text.toList.head?.all (fun c =>
      c ≠ Char.ofNat 0 ∧ sources lowerSequences lowerRuns c.toNat = [] ∧ c ∉ lower c) = true

instance (smalls : List String) (text : String) : Decidable (Capitalizes smalls text) :=
  inferInstanceAs (Decidable (_ ∧ _ ∧ _))

end Text

/-- The identifiers that become the name of a tag are the listed ones. -/
theorem Tag.capitalizes (tag : Tag) : Text.Capitalizes tag.smallNames tag.name := by
  cases tag <;> decide +kernel

namespace Identifier

open Text

/-- The first character of an identifier has been put in lower case. -/
theorem exists_toList_ofName (name : String) : ∃ c cs, (ofName name).toList = lower c ++ cs := by
  cases hword : word name.toList with
  | nil =>
    rw [ofName_of_word_eq_nil hword]
    exact ⟨'M', "yVar".toList, by decide +kernel⟩
  | cons c cs =>
    rw [toList_ofName hword]
    split
    · exact ⟨'_', c :: cs, by rw [show lower '_' = ['_'] by decide +kernel]; rfl⟩
    · exact ⟨c, cs, rfl⟩

/-- An identifier does not start with a character that is no lower case. -/
theorem head?_ofName_ne {c : Char} (hzero : c ≠ Char.ofNat 0)
    (hsources : sources lowerSequences lowerRuns c.toNat = []) (hlower : c ∉ lower c)
    (name : String) : (ofName name).toList.head? ≠ some c := by
  obtain ⟨d, cs, hname⟩ := exists_toList_ofName name
  obtain ⟨first, others, hd⟩ := List.exists_cons_of_ne_nil (lower_ne_nil d)
  intro hhead
  rw [hname, hd, List.cons_append, List.head?_cons, Option.some.injEq] at hhead
  have hmem : c ∈ lower d := by
    rw [hd, hhead]
    exact List.mem_cons_self
  rcases mem_sources_of_mem_mapCase hzero hmem with rfl | hsource
  · exact hlower hmem
  · rw [hsources] at hsource
    exact absurd hsource List.not_mem_nil

/-- Which identifiers become a given text when they are capitalized. -/
theorem capitalized_ofName_eq_iff {smalls : List String} {text : String}
    (h : Capitalizes smalls text) (name : String) :
    capitalized (ofName name) = text ↔ ofName name ∈ smalls := by
  obtain ⟨hsearch, hback, hcheck⟩ := h
  have hfirst : ∀ c, text.toList.head? = some c →
      c ≠ Char.ofNat 0 ∧ sources lowerSequences lowerRuns c.toNat = [] ∧ c ∉ lower c := by
    intro c hc
    rw [hc] at hcheck
    exact of_decide_eq_true hcheck
  refine ⟨fun heq => ?_, hback (ofName name)⟩
  have hzero : text.toList.head? ≠ some (Char.ofNat 0) := fun hhead => (hfirst _ hhead).1 rfl
  have hcapitalize : capitalize (ofName name).toList = text.toList := by
    rw [← heq, capitalized, String.toList_ofList]
  have hmem := mem_uncapitalized_of_capitalize hcapitalize hzero
  rw [hsearch, List.mem_cons, List.mem_map] at hmem
  rcases hmem with hsame | ⟨small, hsmall, hlist⟩
  · -- the text itself is no identifier: it starts with a capital
    obtain ⟨c, cs, hname⟩ := exists_toList_ofName name
    cases hhead : (ofName name).toList.head? with
    | none =>
      rw [hname, List.head?_eq_none_iff, List.append_eq_nil_iff] at hhead
      exact absurd hhead.1 (lower_ne_nil c)
    | some first =>
      obtain ⟨hne, hsources, hlower⟩ := hfirst first (hsame ▸ hhead)
      exact absurd hhead (head?_ofName_ne hne hsources hlower name)
  · rw [← String.toList_inj.mp hlist]
    exact hsmall

/-- Which identifiers become the name of a tag. -/
theorem capitalized_ofName_eq_tag_iff (tag : Tag) (name : String) :
    capitalized (ofName name) = tag.name ↔ ofName name ∈ tag.smallNames :=
  capitalized_ofName_eq_iff tag.capitalizes name

/-- An identifier becomes the name of the library only if it is that name in lower case. -/
theorem capitalized_ofName_eq_react_iff (name : String) :
    capitalized (ofName name) = "React" ↔ ofName name = "react" := by
  have hreact : Capitalizes ["react"] "React" := by decide +kernel
  rw [capitalized_ofName_eq_iff hreact, List.mem_singleton]

/-- No text is capitalized to the name of the styles, since no upper case starts with a small letter
`s`. -/
theorem capitalized_ne_styles (text : String) : capitalized text ≠ "styles" := by
  intro heq
  have hcapitalize : capitalize text.toList = "styles".toList := by
    rw [← heq, capitalized, String.toList_ofList]
  have hmem := mem_uncapitalized_of_capitalize hcapitalize (by decide)
  have hnone : uncapitalized "styles".toList = [] := by decide +kernel
  rw [hnone] at hmem
  exact absurd hmem List.not_mem_nil

/-! ### The name stands in the module as it is -/

/-- The characters that are escaped in markup. -/
def markupChars : List Char := ['&', '<', '>', '"', '\'', '`', '=']

/-- A text without special characters stands in markup as it is. -/
theorem escapeMarkup_of_not_mem {s : String} (h : ∀ c ∈ s.toList, c ∉ markupChars) :
    escapeMarkup s = s := by
  have hself : s.toList.flatMap (fun c => [c]) = s.toList := List.flatMap_singleton' s.toList
  unfold escapeMarkup
  rw [← String.toList_inj, String.toList_ofList]
  refine Eq.trans (List.flatMap_congr fun c hc => ?_) hself
  have hnot := h c hc
  simp only [markupChars, List.mem_cons, List.not_mem_nil, or_false, not_or] at hnot
  simp [hnot]

/-- The characters of an identifier may stand inside one, except for the mark of the small i that
comes from the capital I with a dot. -/
theorem isContinue_of_mem_ofName {name : String} {c : Char} (h : c ∈ (ofName name).toList) :
    isContinue c = true ∨ c = '\u0307' := by
  cases hword : word name.toList with
  | nil =>
    rw [ofName_of_word_eq_nil hword] at h
    have hdefault : ∀ c ∈ "myVar".toList, isContinue c = true :=
      List.all_eq_true.mp (by decide +kernel)
    exact Or.inl (hdefault c h)
  | cons d ds =>
    have hall : ∀ e ∈ d :: ds, isContinue e = true := fun e he =>
      isContinue_of_isWordChar (isWordChar_of_mem_word (hword ▸ he))
    rw [toList_ofName hword] at h
    split at h
    · rcases List.mem_cons.mp h with rfl | h
      · exact Or.inl (by decide +kernel)
      · exact Or.inl (hall c h)
    · rcases List.mem_append.mp h with h | h
      · -- only the first character is changed, to one or two small ones
        rcases lower_cases d with ⟨-, hlower⟩ | hlower | ⟨e, hlower, -, he⟩
        · rw [hlower, List.mem_cons, List.mem_singleton] at h
          rcases h with rfl | rfl
          · exact Or.inl (by decide +kernel)
          · exact Or.inr rfl
        · rw [hlower, List.mem_singleton] at h
          rw [h]
          exact Or.inl (hall d List.mem_cons_self)
        · rw [hlower, List.mem_singleton] at h
          rw [h]
          exact Or.inl (by simp [isContinue, he])
      · exact Or.inl (hall c (List.mem_cons_of_mem d h))

/-- No character of markup stands in a capitalized identifier. -/
theorem escapeMarkup_capitalized_ofName (name : String) :
    escapeMarkup (capitalized (ofName name)) = capitalized (ofName name) := by
  have hmarkup : ∀ c ∈ markupChars, c ≠ Char.ofNat 0 ∧ c ≠ '\u0307' ∧ isContinue c = false ∧
      sources upperSequences upperRuns c.toNat = [] := by
    have hcheck : markupChars.all (fun c => c ≠ Char.ofNat 0 ∧ c ≠ '\u0307' ∧ isContinue c = false ∧
        sources upperSequences upperRuns c.toNat = []) = true := by decide +kernel
    exact fun c hc => of_decide_eq_true (List.all_eq_true.mp hcheck c hc)
  have hname : ∀ c ∈ (ofName name).toList, c ∉ markupChars := by
    intro c hc hm
    obtain ⟨-, hmark, hcontinue, -⟩ := hmarkup c hm
    rcases isContinue_of_mem_ofName hc with h | h
    · exact absurd (h.symm.trans hcontinue) nofun
    · exact hmark h
  apply escapeMarkup_of_not_mem
  intro c hc hm
  rw [capitalized, String.toList_ofList] at hc
  cases hlist : (ofName name).toList with
  | nil =>
    rw [hlist] at hc
    exact absurd hc List.not_mem_nil
  | cons d ds =>
    rw [hlist] at hc hname
    rcases List.mem_append.mp hc with hc | hc
    · obtain ⟨hzero, -, -, hsources⟩ := hmarkup c hm
      -- no letter has a character of markup as its capital
      rcases mem_sources_of_mem_mapCase hzero hc with rfl | hsource
      · exact hname c List.mem_cons_self hm
      · rw [hsources] at hsource
        exact absurd hsource List.not_mem_nil
    · exact hname c (List.mem_cons_of_mem d hc) hm

end Identifier

/-! ### The name of the root -/

/-- What holds of every outcome holds at the end of every script. -/
theorem Script.ends_of_forall {α : Type} {P : Except CompileError α → Prop} (h : ∀ r, P r)
    (x : Script α) : x.Ends P := by
  induction x with
  | done a => exact h _
  | fail e => exact h _
  | font name next ih => exact ih
  | «recall» hash next ih => exact ih
  | keep hash bytes next ih => exact ih
  | warn w next ih => exact ih

/-- What every continuation ends with, the whole ends with. -/
theorem Script.ends_bind {α β : Type} {Q : Except CompileError β → Prop} (x : Script α)
    {f : α → Script β} (h : ∀ a, (f a).Ends Q) (herror : ∀ e, Q (.error e)) : (x.bind f).Ends Q :=
  (ends_of_forall (P := fun _ => True) (fun _ => trivial) x).bind (fun a _ => h a)
    fun e _ => herror e

/-- The text that the element of a place is named after. -/
def Site.title (site : Site) : String :=
  if site.node.kind = .component then site.componentName else site.node.name

/-- An outcome, if it is an element, is named after a title. -/
def NamedAfter (title : String) : Except CompileError Element → Prop
  | .ok e => e.name = Identifier.ofName title
  | .error _ => True

/-- A script that ends with a named element names it, whatever comes before. -/
theorem Script.named_bind {α : Type} {title : String} (x : Script α) {f : α → Script Element}
    (h : ∀ a, (f a).Ends (NamedAfter title)) : (x.bind f).Ends (NamedAfter title) :=
  x.ends_bind h fun _ => trivial

namespace Site

/-- An element is named after the title of its place. -/
theorem element_named (site : Site) (source : Source) (mode : ImageFills) {artwork : Bool}
    (h : artwork = true → site.node.kind ≠ .component) :
    (site.element source mode artwork).Ends (NamedAfter site.title) := by
  apply Script.named_bind
  intro style
  unfold elementOf
  cases artwork with
  | true =>
    have htitle : site.title = site.node.name := if_neg (h rfl)
    rw [if_pos rfl, htitle]
    unfold exported
    cases source.artwork site.id <;> exact rfl
  | false =>
    simp only [Bool.false_eq_true, if_false]
    cases hkind : site.node.kind
    case component =>
      have htitle : site.title = site.componentName := if_pos hkind
      rw [htitle]
      exact Script.named_bind _ fun image => rfl
    all_goals
      have htitle : site.title = site.node.name := if_neg (by simp [hkind])
      rw [htitle]
    case frame | rectangle | instanceOf => exact Script.named_bind _ fun image => rfl
    case text => exact Script.named_bind _ fun markup => rfl
    case group => exact rfl
    all_goals exact trivial

end Site

/-- The element of a place is named after its title. -/
theorem Outline.build_named (source : Source) (mode : ImageFills) {site : Site} {artwork : Bool}
    {children : List Outline} (h : artwork = true → site.node.kind ≠ .component) :
    ((Outline.mk site artwork children).build source mode).Ends (NamedAfter site.title) := by
  unfold build
  refine (site.element_named source mode h).bind (fun e he => ?_) fun _ _ => trivial
  apply Script.named_bind
  intro es
  cases e
  exact he

namespace Scene

/-- Without a node there is no title, and the lowering fails. -/
theorem lower_of_title_none {s : Scene} {root : Nat} (source : Source) (mode : ImageFills)
    (h : s.title? root = none) : ∃ error, s.lower root source mode = .fail error := by
  have hget : s.get? root = none := Option.map_eq_none_iff.mp h
  unfold lower
  rw [hget]
  exact ⟨_, rfl⟩

/-- The element of a selected root is named after its title. -/
theorem lower_named (s : Scene) (root : Nat) (source : Source) (mode : ImageFills) {title : String}
    (h : s.title? root = some title) : (s.lower root source mode).Ends (NamedAfter title) := by
  obtain ⟨node, hget, htitle⟩ := Option.map_eq_some_iff.mp h
  obtain ⟨slot, hslot, rfl⟩ := Option.map_eq_some_iff.mp hget
  have houtline : s.outline? root = some ((s.layerOf root slot).outline true (s.parent? root)
      ((s.parentId? root).bind s.parent?)) := by
    unfold outline? layer?
    rw [hslot]
    rfl
  unfold lower
  rw [hget, houtline]
  dsimp only
  cases slot.node.kind.checkRoot slot.node.name with
  | error e => exact trivial
  | ok _ =>
    rw [layerOf_eq]
    unfold Layer.outline
    have hsite :
        Site.title ⟨root, slot.node, true, s.parent? root, (s.parentId? root).bind s.parent?⟩ =
          title := by
      rw [← htitle]
      unfold Site.title Site.componentName variantSet?
      cases Option.filter (fun x => decide (x.kind = .componentSet)) (s.parent? root) <;> rfl
    rw [← hsite]
    refine Outline.build_named source mode fun hart hkind => ?_
    have hkind : slot.node.kind = .component := hkind
    simp [Layer.isArtwork, hkind, Kind.isVectorLike] at hart

end Scene

/-- The name of the root is the first that is given, so it is kept. -/
theorem Element.name_distinct (e : Element) : e.distinct.name = e.name := by
  obtain ⟨name, content, style, children⟩ := e
  unfold distinct rename
  split
  · rfl
  · exact freshName_of_not_mem List.not_mem_nil

/-! ### The names that a module declares -/

/-- The tags that a tree uses are imported once each. -/
theorem Element.nodup_imports (e : Element) : e.imports.Nodup := by
  have hstep : ∀ (used tags : List Tag), tags.Nodup →
      (used.foldl (fun tags t => if t ∈ tags then tags else tags ++ [t]) tags).Nodup := by
    intro used
    induction used with
    | nil => exact fun tags h => h
    | cons tag used ih =>
      intro tags h
      apply ih
      dsimp only
      by_cases hmem : tag ∈ tags
      · rw [if_pos hmem]
        exact h
      · rw [if_neg hmem]
        exact List.nodup_append.mpr ⟨h, List.nodup_singleton tag, fun a ha b hb hab =>
          hmem (List.mem_singleton.mp hb ▸ hab ▸ ha)⟩
  exact hstep _ [] List.nodup_nil

/-- Different tags have different names. -/
theorem Tag.name_injective : Function.Injective Tag.name := by
  intro a b h
  cases a <;> cases b <;> first | rfl | exact absurd h (by decide)

/-- Some name is declared twice if and only if the function has one of the other names. -/
theorem Element.nodup_declared (e : Element) (function : String) :
    (e.declared function).Nodup ↔
      function ≠ "React" ∧ function ≠ "styles" ∧ ∀ tag ∈ e.imports, function ≠ tag.name := by
  have hother : ∀ tag : Tag, tag.name ≠ "React" ∧ tag.name ≠ "styles" := by
    intro tag
    cases tag <;> decide
  have htags : (e.imports.map Tag.name).Nodup := e.nodup_imports.map Tag.name_injective
  unfold declared
  simp only [List.nodup_cons, List.nodup_append, List.mem_append, List.mem_map, List.mem_cons,
    List.not_mem_nil, or_false, htags]
  grind

/-- An element that is not blank makes a module. -/
theorem Element.emit_ne_empty {e : Element} (h : e.isBlank = false) (indent : Nat)
    (function : String) : e.emit indent function ≠ "" := by
  intro hempty
  have hlist := congrArg String.toList hempty
  unfold emit at hlist
  rw [h, if_neg Bool.false_ne_true] at hlist
  simp only [String.toList_append] at hlist
  cases hlist

namespace Compiler

/-- Without a name of its own a module is named after its element. -/
theorem name_moduleOf {options : Options} (h : options.componentName = none) (assets : Collected)
    (e : Element) : (moduleOf options assets e).name = Text.capitalized e.name := by
  unfold moduleOf
  rw [h]
  rfl

/-- **Top-level names.** Let a compilation succeed whose options leave the name of the module open.
Then the exported function is named for the title of the root, and its name is written as it is.
That name is never `styles`. The names that the module declares are distinct if and only if the
identifier of the title is neither `react` nor the name of an imported tag with a small first
letter. -/
theorem nodup_declared_iff (c : Compiler) (s : Scene) (root : Nat) (source : Source) (m : Compiled)
    (hname : c.options.componentName = none) (h : (c.compile s root source).1.result = .ok m) :
    ∃ e title, (c.lower s root source).1.result = .ok e ∧ s.title? root = some title ∧
      m.code = e.emit c.options.indent m.name ∧
      m.name = Text.capitalized (Identifier.ofName title) ∧
      escapeMarkup m.name = m.name ∧ m.name ≠ "styles" ∧
      ((e.declared m.name).Nodup ↔
        Identifier.ofName title ∉ "react" :: e.imports.flatMap Tag.smallNames) := by
  obtain ⟨e, log, assets, hrun, hlower, rfl⟩ := moduleOf_of_compile_ok h
  cases htitle : s.title? root with
  | none =>
    obtain ⟨error, hfail⟩ := Scene.lower_of_title_none source c.options.imageFills htitle
    rw [hfail] at hrun
    cases hrun
  | some title =>
    have hnamed := (s.lower_named root source c.options.imageFills htitle).run []
      { catalog := c.assets.catalog }
    rw [hrun] at hnamed
    have hfunction : (moduleOf c.options assets.collected e.distinct).name =
        Text.capitalized (Identifier.ofName title) := by
      rw [name_moduleOf hname, Element.name_distinct]
      exact congrArg Text.capitalized hnamed
    refine ⟨e.distinct, title, hlower, rfl, rfl, hfunction, ?_, ?_, ?_⟩
    · rw [hfunction]
      exact Identifier.escapeMarkup_capitalized_ofName title
    · rw [hfunction]
      exact Identifier.capitalized_ne_styles _
    · rw [Element.nodup_declared, hfunction]
      simp only [ne_eq, Identifier.capitalized_ne_styles, not_false_eq_true, true_and,
        Identifier.capitalized_ofName_eq_react_iff, Identifier.capitalized_ofName_eq_tag_iff,
        List.mem_cons, List.mem_flatMap, not_or, not_exists, not_and]

/-- A scene of one frame. -/
def frameNamed (name : String) : Scene := ({} : Scene).addRoot { kind := .frame, name }

/-- A frame named `Card` makes a module that declares its names once. -/
theorem nodup_declared_iff_card :
    ∃ (m : Compiled) (e : Element),
      (({} : Compiler).compile (frameNamed "Card") 0 Source.none).1.result = .ok m ∧
      m.code = e.emit 2 m.name ∧ m.name = "Card" ∧ (e.declared m.name).Nodup := by
  have hlower : ((({} : Compiler).lower (frameNamed "Card") 0 Source.none).1.result).toOption.map
      Element.imports = some [.view] := by decide +kernel
  have hok : (({} : Compiler).compile (frameNamed "Card") 0 Source.none).1.result.isOk = true := by
    decide +kernel
  obtain ⟨m, hr⟩ := Except.exists_of_isOk hok
  obtain ⟨e, title, he, htitle, hcode, hname, -, -, hdeclared⟩ :=
    nodup_declared_iff {} (frameNamed "Card") 0 Source.none m rfl hr
  have htitle : "Card" = title := Option.some.inj htitle
  subst htitle
  rw [he] at hlower
  have himports : e.imports = [.view] := Option.some.inj hlower
  refine ⟨m, e, hr, hcode, hname.trans (by decide +kernel), hdeclared.mpr ?_⟩
  rw [himports]
  decide +kernel

/-- A frame named `View` makes a module that imports `View` and exports a function of that name. -/
theorem view_declared_twice :
    ∃ (m : Compiled) (e : Element),
      (({} : Compiler).compile (frameNamed "View") 0 Source.none).1.result = .ok m ∧
      (({} : Compiler).lower (frameNamed "View") 0 Source.none).1.result = .ok e ∧
      m.code = e.emit 2 m.name ∧ m.code ≠ "" ∧ m.name = "View" ∧ e.imports = [.view] ∧
      ¬ (e.declared m.name).Nodup := by
  have himports : ((({} : Compiler).lower (frameNamed "View") 0 Source.none).1.result).toOption.map
      (fun e => (e.imports, e.isBlank)) = some ([.view], false) := by decide +kernel
  have hname : (({} : Compiler).compile (frameNamed "View") 0 Source.none).1.result.toOption.map
      Compiled.name = some "View" := by decide +kernel
  cases hr : (({} : Compiler).compile (frameNamed "View") 0 Source.none).1.result with
  | error e =>
    rw [hr] at hname
    cases hname
  | ok m =>
    obtain ⟨e, log, assets, -, he, rfl⟩ := moduleOf_of_compile_ok hr
    rw [hr] at hname
    rw [he] at himports
    have hname : (moduleOf {} assets.collected e.distinct).name = "View" := Option.some.inj hname
    obtain ⟨htags, hblank⟩ := Prod.mk.inj (Option.some.inj himports)
    refine ⟨_, e.distinct, rfl, he, rfl, Element.emit_ne_empty hblank 2 _, hname, htags, ?_⟩
    unfold Element.declared
    rw [hname, htags]
    decide

end Compiler

end Viewsmith
