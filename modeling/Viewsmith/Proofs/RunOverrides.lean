import Viewsmith.Lowering.Build
import Viewsmith.Proofs.ScriptOutcome
import Viewsmith.Proofs.SimplifyRules
import Viewsmith.Proofs.StyleKeys

/-!
# The typography of runs

The element of a text carries the typography of its base run, and every other run is written with an
override: its properties that are absent from the base or differ there. A run is shown with its
override laid over the typography of the element. What the run has of its own is then always right,
but an override can only add and change properties. So the run is shown with its own typography if
and only if it has every property that the base has; a color, a height of lines or a decoration that
only the base has shows through.

## Main definitions

* `Style.overlay`: a style laid over another.
* `Style.Matches`: the same properties, each with an equal value.
* `Node.runPiece`: the markup of one run.
* `Node.Covers`: a run has every property of typography that the base has.

## Main statements

* `Node.get?_overlay_override`: what an override makes of the base.
* `Site.get?_textStyle`: the typography of the base stands unchanged in the style of the element.
* `Site.matches_overlay_iff_covers`: the runs that are shown with their own typography.
-/

namespace Viewsmith

/-- The same value, or an equal one. What holds no number is the same value and not an equal one. -/
def Value.Alike (v w : Value) : Prop := v = w ∨ v.same w = true

namespace Style

/-- A style laid over another: its properties count, and where it has none, those below show. -/
def overlay (below above : Style) : Style := below.insertAll above.entries

/-- The properties of a style that are in a list. -/
def restrict (s : Style) (keys : List String) : Style :=
  ⟨s.entries.filter fun e => keys.contains e.1,
    s.nodup.sublist (List.filter_sublist.map Prod.fst)⟩

/-- The same properties, each with an equal value. -/
def Matches (s t : Style) : Prop := ∀ key, Option.Rel Value.Alike (s.get? key) (t.get? key)

/-! ### Look-up in lists of entries -/

/-- The style without properties has none. -/
theorem get?_empty (key : String) : empty.get? key = none := rfl

/-- Writing a property that may be absent changes this one at most. -/
theorem get?_set (s : Style) (key other : String) (v : Option Value) :
    (s.set key v).get? other = (if other = key then v else none).or (s.get? other) := by
  cases v with
  | none => simp [set]
  | some v =>
    rw [set, get?_insert]
    by_cases h : other = key <;> simp [h]

/-- Of several entries for a key, those written later count; without one nothing changes. -/
theorem get?_insertAll_of_not_mem {l : List (String × Value)} {key : String}
    (h : key ∉ l.map Prod.fst) (s : Style) : (s.insertAll l).get? key = s.get? key := by
  unfold insertAll
  induction l generalizing s with
  | nil => rfl
  | cons e l ih =>
    rw [List.map_cons, List.mem_cons, not_or] at h
    rw [List.foldl_cons, ih h.2, get?_insert, if_neg h.1]

/-- After entries were written into a style, they count first, and then the style. -/
theorem get?_insertAll {l : List (String × Value)} (h : (l.map Prod.fst).Nodup) (s : Style)
    (key : String) : (s.insertAll l).get? key = (l.lookup key).or (s.get? key) := by
  induction l generalizing s with
  | nil => rfl
  | cons e l ih =>
    rw [List.map_cons, List.nodup_cons] at h
    obtain ⟨k, v⟩ := e
    show ((s.insert k v).insertAll l).get? key = _
    rw [ih h.2, get?_insert, List.lookup_cons]
    by_cases hk : key = k
    · subst hk
      rw [lookup_eq_none_iff_not_mem_keys.mpr h.1]
      simp
    · have hb : (key == k) = false := by simpa using hk
      rw [hb, if_neg hk]

/-- What is found in a style of distinct entries is found in the entries. -/
theorem get?_ofList {l : List (String × Value)} (h : (l.map Prod.fst).Nodup) (key : String) :
    (ofList l).get? key = l.lookup key := by
  rw [ofList, get?_insertAll h]
  exact Option.or_none

/-- Entries are written one after the other. -/
theorem insertAll_append (s : Style) (l m : List (String × Value)) :
    s.insertAll (l ++ m) = (s.insertAll l).insertAll m :=
  List.foldl_append

/-- What is found among some of the entries. -/
theorem lookup_filter {l : List (String × Value)} (h : (l.map Prod.fst).Nodup)
    (p : String × Value → Bool) (key : String) :
    (l.filter p).lookup key = (l.lookup key).filter fun v => p (key, v) := by
  induction l with
  | nil => rfl
  | cons e l ih =>
    rw [List.map_cons, List.nodup_cons] at h
    obtain ⟨k, v⟩ := e
    have hnone : k ∉ (l.filter p).map Prod.fst := fun hm =>
      h.1 ((List.filter_sublist.map Prod.fst).subset hm)
    by_cases hk : key = k
    · subst hk
      by_cases hp : p (key, v) = true
      · rw [List.filter_cons_of_pos hp, List.lookup_cons_self, List.lookup_cons_self,
          Option.filter_some, if_pos hp]
      · rw [List.filter_cons_of_neg hp, lookup_eq_none_iff_not_mem_keys.mpr hnone,
          List.lookup_cons_self, Option.filter_some, if_neg hp]
    · have hb : (key == k) = false := by simpa using hk
      rw [List.lookup_cons, hb, ← ih h.2]
      by_cases hp : p (k, v) = true
      · rw [List.filter_cons_of_pos hp, List.lookup_cons, hb]
      · rw [List.filter_cons_of_neg hp]

/-- In a style that is laid over another, its own properties count first. -/
theorem get?_overlay (below above : Style) (key : String) :
    (below.overlay above).get? key = (above.get? key).or (below.get? key) :=
  get?_insertAll above.nodup below key

/-- A restricted style has the properties in the list, and no others. -/
theorem get?_restrict (s : Style) (keys : List String) (key : String) :
    (s.restrict keys).get? key = if key ∈ keys then s.get? key else none := by
  have h : (s.restrict keys).get? key
      = (s.get? key).filter fun _ => keys.contains key := lookup_filter s.nodup _ key
  rw [h]
  cases s.get? key with
  | none => simp
  | some v => rw [Option.filter_some]; simp

end Style

namespace Node

/-! ### Overrides -/

/-- Of a style that overrides another only what differs is left. -/
theorem get?_override (base style : Style) (key : String) :
    (override base style).get? key =
      (style.get? key).filter fun v => !(base.get? key).any fun u => u.same v := by
  unfold override
  rw [Style.get?_ofList (style.nodup.sublist (List.filter_sublist.map Prod.fst)),
    Style.lookup_filter style.nodup]
  rfl

/-- What an override makes of the base: what the other style has counts, up to equal values, and
what only the base has stays. -/
theorem get?_overlay_override (base style : Style) (key : String) :
    Option.Rel Value.Alike ((base.overlay (override base style)).get? key)
      ((style.get? key).or (base.get? key)) := by
  rw [Style.get?_overlay, get?_override]
  cases style.get? key with
  | none =>
    cases base.get? key with
    | none => exact .none
    | some u => exact .some (Or.inl rfl)
  | some v =>
    cases base.get? key with
    | none => exact .some (Or.inl rfl)
    | some u =>
      by_cases hs : u.same v = true
      · simp only [Option.any_some, hs, Bool.not_true, Option.filter_some, Option.or_some]
        exact .some (Or.inr hs)
      · simp only [Option.any_some, hs, Option.filter_some, Option.or_some]
        exact .some (Or.inl rfl)

/-- A run is shown with its own style if and only if it has every property that the base has. -/
theorem matches_overlay_override_iff (base style : Style) :
    (base.overlay (override base style)).Matches style ↔
      ∀ key, (base.get? key).isSome → (style.get? key).isSome := by
  refine forall_congr' fun key => ?_
  have h := get?_overlay_override base style key
  cases hs : style.get? key with
  | some v =>
    rw [hs, Option.some_or] at h
    exact iff_of_true h fun _ => rfl
  | none =>
    rw [hs, Option.none_or] at h
    cases hb : base.get? key with
    | none =>
      rw [hb] at h
      exact iff_of_true h nofun
    | some u =>
      rw [hb] at h
      -- the property of the base shows, and the run has none
      refine iff_of_false (fun hrel => ?_) fun himp => nomatch himp rfl
      generalize (base.overlay (override base style)).get? key = shown at h hrel
      cases hrel
      cases h

/-! ### Typography -/

/-- The properties of typography. -/
def typographyKeys : List String :=
  ["textAlign", "color", "fontFamily", "fontSize", "fontWeight", "letterSpacing", "lineHeight",
    "textDecorationLine"]

/-- A run has every property of typography that the base has. Only the color, the height of lines
and the decoration can be absent. -/
structure Covers (node : Node) (base run : TextRun) : Prop where
  color : (node.runColor? base).isSome → (node.runColor? run).isSome
  lineHeight : base.lineHeight ≠ .auto → run.lineHeight ≠ .auto
  decoration : base.decoration ≠ .none → run.decoration ≠ .none

/-- Only the automatic height of lines is not written. -/
theorem isSome_inPixels? (size : Float) (height : LineHeight) :
    (height.inPixels? size).isSome ↔ height ≠ .auto := by
  cases height <;> simp [LineHeight.inPixels?]

/-- Only the absence of a decoration is not written. -/
theorem isSome_word? (decoration : TextDecoration) :
    decoration.word?.isSome ↔ decoration ≠ .none := by
  cases decoration <;> simp [TextDecoration.word?]

/-- The properties that the typography of a run has. -/
theorem isSome_get?_typography (node : Node) (text : TextContent) (run : TextRun) (key : String) :
    ((node.typography text run).get? key).isSome ↔
      key ∈ typographyKeys ∧ (key = "color" → (node.runColor? run).isSome) ∧
      (key = "lineHeight" → run.lineHeight ≠ .auto) ∧
      (key = "textDecorationLine" → run.decoration ≠ .none) := by
  rw [← isSome_inPixels? run.size, ← isSome_word?]
  simp only [typography, Style.get?_insert, Style.get?_set, Style.get?_empty]
  by_cases hk : key ∈ typographyKeys
  · simp only [typographyKeys, List.mem_cons, List.not_mem_nil, or_false] at hk
    rcases hk with rfl | rfl | rfl | rfl | rfl | rfl | rfl | rfl <;> simp [typographyKeys]
  · simp only [typographyKeys, List.mem_cons, List.not_mem_nil, or_false, not_or] at hk
    simp [typographyKeys, hk]

/-- A run covers the base if it has every property of typography that the base has. -/
theorem covers_iff (node : Node) (text : TextContent) (base run : TextRun) :
    node.Covers base run ↔ ∀ key, ((node.typography text base).get? key).isSome →
      ((node.typography text run).get? key).isSome := by
  simp only [isSome_get?_typography]
  constructor
  · rintro ⟨hcolor, hheight, hdecoration⟩ key ⟨hk, hc, hh, hd⟩
    exact ⟨hk, hcolor ∘ hc, hheight ∘ hh, hdecoration ∘ hd⟩
  · intro h
    refine ⟨fun hc => ?_, fun hh => ?_, fun hd => ?_⟩
    · exact (h "color" (by simp [typographyKeys, hc])).2.1 rfl
    · exact (h "lineHeight" (by simp [typographyKeys, hh])).2.2.1 rfl
    · exact (h "textDecorationLine" (by simp [typographyKeys, hd])).2.2.2 rfl

/-- Typography has no other properties. -/
theorem get?_typography_of_not_mem (node : Node) (text : TextContent) (run : TextRun) {key : String}
    (h : key ∉ typographyKeys) : (node.typography text run).get? key = none := by
  rw [← Option.not_isSome_iff_eq_none, isSome_get?_typography]
  exact fun hk => h hk.1

/-- An override laid over a style with the typography of the base. -/
theorem matches_overlay_typography_iff (node : Node) (text : TextContent) (base run : TextRun)
    {below : Style} (h : ∀ key, below.get? key = (node.typography text base).get? key) :
    (below.overlay (override (node.typography text base) (node.typography text run))).Matches
      (node.typography text run) ↔ node.Covers base run := by
  rw [covers_iff node text, ← matches_overlay_override_iff]
  refine forall_congr' fun key => ?_
  rw [Style.get?_overlay, Style.get?_overlay, h]

/-- No rule writes or needs a property of typography. -/
theorem typographyKeys_untouched :
    ∀ key ∈ typographyKeys, ∀ r ∈ Rule.all, key ∉ r.writes ∧ key ∉ r.needs := by
  decide +kernel

/-! ### The markup of the runs -/

/-- The markup of one run: the base is written plainly, the others with what they override. -/
def runPiece (node : Node) (text : TextContent) (baseIndex : Nat) (base : Style)
    (run : TextRun × Nat) : String :=
  if run.2 = baseIndex then Text.TemplateLiteral.render (text.runText run.1)
  else runMarkup (override base (node.typography text run.1)) (text.runText run.1)

/-- Whether a run is written in an element of its own: it is not the base, and there is something to
override. -/
def isNested (node : Node) (text : TextContent) (baseIndex : Nat) (base : Style)
    (run : TextRun × Nat) : Bool :=
  run.2 ≠ baseIndex && !(override base (node.typography text run.1)).isEmpty

/-- The markup of runs is that of each run, joined. -/
theorem runsMarkup_ends (node : Node) (text : TextContent) (index : Nat) (base : Style)
    (runs : List (TextRun × Nat)) :
    (node.runsMarkup text index base runs).Ends
      (· = .ok (String.join (runs.map (node.runPiece text index base)))) := by
  fun_induction runsMarkup node text index base runs with
  | case1 => rfl
  | case2 run rest characters ih =>
    refine ih.bind (fun markup hmarkup => ?_) fun e he => by cases he
    rw [List.map_cons, String.join_cons, runPiece, if_pos rfl, Except.ok.inj hmarkup]
    rfl
  | case3 run i rest characters hi ih =>
    refine ih.bind (fun markup hmarkup => ?_) fun e he => by cases he
    rw [List.map_cons, String.join_cons, runPiece, if_neg hi, Except.ok.inj hmarkup]
    rfl

/-- The markup of a text is that of its ordered runs, joined. -/
theorem richText_ends {node : Node} {text : TextContent} {i : Nat} {base : TextRun}
    (htext : node.text? = some text) (hi : text.base? = some i)
    (hbase : text.runs[i]? = some base) :
    node.richText.Ends (· = .ok (String.join ((orderedRuns text).map
      (node.runPiece text i (node.typography text base))))) := by
  unfold richText
  simp only [htext, hi, hbase]
  exact node.runsMarkup_ends text i _ _

/-- Ordering the runs keeps them with their positions. -/
theorem mem_orderedRuns {text : TextContent} {run : TextRun} {i : Nat} :
    (run, i) ∈ orderedRuns text ↔ text.runs[i]? = some run := by
  rw [orderedRuns, List.mem_mergeSort, List.mk_mem_zipIdx_iff_getElem?]

end Node

/-- A text without runs has no base. -/
theorem TextContent.base?_of_runs_eq_nil {text : TextContent} (h : text.runs = []) :
    text.base? = none := by
  simp [base?, leading?, earliest?, h]

/-- A text with runs has a base among them. -/
theorem TextContent.exists_base {text : TextContent} (h : text.runs ≠ []) :
    ∃ i base, text.base? = some i ∧ text.runs[i]? = some base := by
  have hsome : text.base?.isSome := by
    obtain ⟨start, hmin⟩ : ∃ start, (text.runs.map (·.start)).min? = some start :=
      Option.ne_none_iff_exists'.mp (by simpa [List.min?_eq_none_iff] using h)
    obtain ⟨run, hrun, hstart⟩ := List.mem_map.mp (List.min?_mem hmin)
    have hearliest : text.earliest?.isSome := by
      rw [earliest?, hmin, Option.bind_some, List.findIdx?_isSome, List.any_eq_true]
      exact ⟨run, hrun, by simp [hstart]⟩
    rw [base?, Option.isSome_or, hearliest, Bool.or_true]
  obtain ⟨i, hi⟩ := Option.isSome_iff_exists.mp hsome
  obtain ⟨start, hfind⟩ : ∃ start, text.runs.findIdx? (·.start == start) = some i := by
    rcases Option.or_eq_some_iff.mp hi with hl | ⟨-, he⟩
    · exact ⟨0, hl⟩
    · obtain ⟨start, -, he⟩ := Option.bind_eq_some_iff.mp he
      exact ⟨start, he⟩
  obtain ⟨hlt, -⟩ := List.findIdx?_eq_some_iff_getElem.mp hfind
  exact ⟨i, text.runs[i], hi, List.getElem?_eq_getElem hlt⟩

namespace Site

variable {site : Site} {text : TextContent} {i : Nat} {base : TextRun}

/-! ### The element of a text -/

/-- The entries that stand before the typography in the style of a text. -/
def placeEntries (site : Site) : List (String × Value) :=
  site.flowEntries ++ site.edges.entriesClockwise ++ site.node.transformEntries

/-- No property of typography is about the placement. -/
theorem not_mem_placeEntries {key : String} (h : key ∈ Node.typographyKeys) :
    key ∉ site.placeEntries.map Prod.fst := by
  have hflow : key ∉ site.flowEntries.map Prod.fst :=
    (by decide : ∀ key ∈ Node.typographyKeys,
      key ∉ ["position", "alignSelf", "flexGrow", "flexShrink", "flexBasis"]) key h
  have hedges : key ∉ site.edges.entriesClockwise.map Prod.fst := fun hm =>
    (by decide : ∀ key ∈ Node.typographyKeys,
      key ∉ ["top", "right", "bottom", "left", "width", "height"]) key h
      (site.edges.keys_clockwise_sublist.subset hm)
  have htransform : key ∉ site.node.transformEntries.map Prod.fst := fun hm =>
    (by decide : ∀ key ∈ Node.typographyKeys, key ∉ ["transform"]) key h
      (site.node.keys_transform_subset hm)
  rw [placeEntries, List.map_append, List.map_append, List.mem_append, List.mem_append]
  rintro ((hm | hm) | hm)
  · exact hflow hm
  · exact hedges hm
  · exact htransform hm

/-- No property of typography is about the shadow. -/
theorem not_mem_textShadowEntries (node : Node) {key : String} (h : key ∈ Node.typographyKeys) :
    key ∉ node.textShadowEntries.map Prod.fst := fun hm =>
  (by decide : ∀ key ∈ Node.typographyKeys,
    key ∉ ["textShadowColor", "textShadowOffset", "textShadowRadius"]) key h
    (node.keys_textShadow_subset hm)

/-- The style of the element of a text, given the typography of its base run. -/
def textStyle (site : Site) (typography : Style) : Style :=
  (Style.ofList (site.placeEntries ++ typography.entries ++ site.node.textShadowEntries)).simplify

/-- The typography stands unchanged in the style of the element. -/
theorem get?_textStyle (typography : Style) {key : String} (h : key ∈ Node.typographyKeys) :
    (site.textStyle typography).get? key = typography.get? key := by
  rw [textStyle, Style.get?_simplify_of_untouched (Node.typographyKeys_untouched key h),
    Style.ofList, Style.insertAll_append,
    Style.get?_insertAll_of_not_mem (not_mem_textShadowEntries site.node h), Style.insertAll_append,
    Style.get?_insertAll typography.nodup, Style.get?_insertAll_of_not_mem (not_mem_placeEntries h)]
  exact Option.or_none

/-- In the style of a text the typography is that of its base run. -/
theorem get?_restrict_textStyle (text : TextContent) (base : TextRun) (key : String) :
    ((site.textStyle (site.node.typography text base)).restrict Node.typographyKeys).get? key =
      (site.node.typography text base).get? key := by
  rw [Style.get?_restrict]
  by_cases h : key ∈ Node.typographyKeys
  · rw [if_pos h, get?_textStyle _ h]
  · rw [if_neg h, Node.get?_typography_of_not_mem _ _ _ h]

/-- The style of a text: its placement, the typography of its base run, and its shadow. -/
theorem resolveText_ends (htext : site.node.text? = some text) (hi : text.base? = some i)
    (hbase : text.runs[i]? = some base) :
    site.resolveText.Ends (· = .ok (Style.ofList (site.placeEntries
      ++ (site.node.typography text base).entries ++ site.node.textShadowEntries))) := by
  apply (Script.succeeds_warnAll site.edgeWarnings).bind
  intro _
  show Script.Ends _ (site.node.baseStyle.bind _)
  have hrun : site.node.baseRun? = some (text, base) := by
    rw [Node.baseRun?, htext, Option.bind_some, hi, Option.bind_some, hbase, Option.map_some]
  unfold Node.baseStyle
  rw [hrun]
  rfl

/-- The element of a text: the markup of its runs in a style that carries the typography of the
base. -/
theorem element_ends_of_text (source : Source) (mode : ImageFills) (hkind : site.node.kind = .text)
    (htext : site.node.text? = some text) (hi : text.base? = some i)
    (hbase : text.runs[i]? = some base) :
    (site.element source mode false).Ends fun r => ∃ e, r = .ok e ∧
      e.content = .text (String.join ((Node.orderedRuns text).map
        (site.node.runPiece text i (site.node.typography text base)))) text.maxLines ∧
      e.style = site.textStyle (site.node.typography text base) := by
  have hlines : site.node.text.bind (·.maxLines) = text.maxLines := by
    rw [(Option.filter_eq_some_iff.mp htext).1, Option.bind_some]
  have hresolve : site.resolve source = site.resolveText := by
    unfold resolve
    rw [hkind]
  rw [element, hresolve]
  refine (resolveText_ends htext hi hbase).bind (fun style hstyle => ?_) nofun
  rw [Except.ok.inj hstyle, ← textStyle]
  generalize site.textStyle _ = style
  unfold elementOf
  simp only [Bool.false_eq_true, if_false, hkind]
  refine (Node.richText_ends htext hi hbase).bind (fun markup hmarkup => ?_) nofun
  rw [Except.ok.inj hmarkup]
  exact ⟨_, rfl, by rw [Element.content_mk, hlines], rfl⟩

/-- What a run is shown with in the element of its text: what the run has of its own counts, what
only the base has shows through, and so it is the typography of the run if and only if the run has
every property that the base has. -/
theorem matches_overlay_iff_covers (site : Site) (source : Source) (mode : ImageFills)
    (log : List Warning) (assets : Assets) {text : TextContent} {j : Nat} {run : TextRun}
    (hkind : site.node.kind = .text) (htext : site.node.text? = some text)
    (hrun : text.runs[j]? = some run) :
    ∃ i base e, text.base? = some i ∧ text.runs[i]? = some base ∧
      ((site.element source mode false).run log assets).1 = .ok e ∧
      e.content = .text (String.join ((Node.orderedRuns text).map
        (site.node.runPiece text i (site.node.typography text base)))) text.maxLines ∧
      (run, j) ∈ Node.orderedRuns text ∧
      let own := site.node.typography text run
      let inherited := site.node.typography text base
      let shown := (e.style.restrict Node.typographyKeys).overlay (Node.override inherited own)
      (∀ key, Option.Rel Value.Alike (shown.get? key) ((own.get? key).or (inherited.get? key))) ∧
      (shown.Matches own ↔ site.node.Covers base run) := by
  obtain ⟨i, base, hi, hbase⟩ :=
    TextContent.exists_base (List.ne_nil_of_mem (List.mem_of_getElem? hrun))
  obtain ⟨e, he, hcontent, hstyle⟩ :=
    (element_ends_of_text source mode hkind htext hi hbase).run log assets
  refine ⟨i, base, e, hi, hbase, he, hcontent, Node.mem_orderedRuns.mpr hrun, ?_⟩
  intro own inherited shown
  have hbelow : ∀ key, (e.style.restrict Node.typographyKeys).get? key = inherited.get? key := by
    rw [hstyle]
    exact get?_restrict_textStyle text base
  refine ⟨fun key => ?_, Node.matches_overlay_typography_iff site.node text base run hbelow⟩
  rw [Style.get?_overlay, hbelow, ← Style.get?_overlay]
  exact Node.get?_overlay_override inherited own key

/-- A text of two characters, each with a run of its own and a decoration of its own. -/
def pairOfRuns (first second : TextDecoration) : TextContent where
  characters := "ab"
  runs :=
    [{ start := 0, stop := 1, font := ⟨"Inter", "Regular"⟩, size := 16, decoration := first },
     { start := 1, stop := 2, font := ⟨"Inter", "Regular"⟩, size := 16, decoration := second }]

/-- A text at the top of a scene. -/
def ofText (text : TextContent) : Site where
  id := 0
  node := { kind := .text, text := some text }
  selected := false
  owner := none
  outer := none

/-- An underlined run of a text that begins without a decoration is shown with its own
typography. -/
theorem matches_overlay_of_underlined_run :
    let text := pairOfRuns .none .underline
    let node := (ofText text).node
    ∃ base run e, text.runs = [base, run] ∧
      (((ofText text).element Source.none .css false).run [] {}).1 = .ok e ∧
      ((e.style.restrict Node.typographyKeys).overlay (Node.override (node.typography text base)
        (node.typography text run))).Matches (node.typography text run) := by
  intro text node
  obtain ⟨i, base, e, hi, hbase, he, -, -, -, hiff⟩ :=
    matches_overlay_iff_covers (ofText text) Source.none .css [] {} (j := 1) rfl rfl rfl
  obtain rfl : 0 = i := Option.some.inj hi
  obtain rfl := Option.some.inj hbase
  exact ⟨_, _, e, rfl, he, hiff.mpr ⟨nofun, fun h => absurd rfl h, nofun⟩⟩

/-- A plain run of a text that begins underlined is written without an override, and is shown with
the underline of the base. -/
theorem underline_shows_through :
    let text := pairOfRuns .underline .none
    let node := (ofText text).node
    ∃ base run e, text.base? = some 0 ∧ text.runs = [base, run] ∧
      (((ofText text).element Source.none .css false).run [] {}).1 = .ok e ∧
      e.content = .text "\x7b`a`\x7d\x7b`b`\x7d" none ∧
      ¬ ((e.style.restrict Node.typographyKeys).overlay (Node.override (node.typography text base)
        (node.typography text run))).Matches (node.typography text run) := by
  intro text node
  have htext : node.text? = some text := rfl
  obtain ⟨e, he, hcontent, hstyle⟩ :=
    (element_ends_of_text (i := 0) Source.none .css rfl htext rfl rfl).run [] {}
  refine ⟨_, _, e, rfl, rfl, he, ?_, fun hmatches => ?_⟩
  · have hruns : Node.orderedRuns text = text.runs.zipIdx := by
      simp [Node.orderedRuns, text, pairOfRuns, List.mergeSort]
    rw [hcontent, hruns]
    exact congrArg (Content.text · none) (by decide +kernel)
  · rw [hstyle, Node.matches_overlay_typography_iff _ _ _ _ (get?_restrict_textStyle text _)]
      at hmatches
    exact hmatches.decoration nofun rfl

end Site

end Viewsmith
