import Viewsmith.Proofs.BackgroundProperty

/-!
# The placement of a node

How a node is placed is decided in three steps: the position, the edges that its constraints select,
and the offsets that simplification drops. This module says what a resolved style holds under the
properties of the placement (`Site.resolve_places`), for every kind of node at once, since no other
property of a style overwrites them. What simplification makes of them then follows.

## Main definitions

* `Axis.near`, `Axis.far`, `Axis.extent`: the properties of an axis.
* `Site.applied?`: the constraint that is applied to an axis.
* `Scene.Placement`: the properties of the placement are consistent.

## Main statements

* `Site.edges_near_and_far_iff`: both offsets of an axis are selected exactly for a stretched one.
* `Site.resolve_places`: the placement in a resolved style.
* `Scene.placement_of_resolve`: every style that is resolved and simplified has a consistent
  placement.
-/

namespace Viewsmith

/-! ### Axes -/

namespace Axis

/-- The distance to the near edge. -/
def near : Axis → String
  | vertical => "top"
  | horizontal => "left"

/-- The distance to the far edge. -/
def far : Axis → String
  | vertical => "bottom"
  | horizontal => "right"

/-- The size along the axis. -/
def extent : Axis → String
  | vertical => "height"
  | horizontal => "width"

end Axis

/-- The constraint of an axis. -/
def Constraints.along (c : Constraints) : Axis → Constraint
  | .vertical => c.vertical
  | .horizontal => c.horizontal

namespace Edges

/-- The near offset of an axis. -/
def near (e : Edges) : Axis → Option Float
  | .vertical => e.top
  | .horizontal => e.left

/-- The far offset of an axis. -/
def far (e : Edges) : Axis → Option Float
  | .vertical => e.bottom
  | .horizontal => e.right

/-- The size along an axis. -/
def extent (e : Edges) : Axis → Option Float
  | .vertical => e.height
  | .horizontal => e.width

end Edges

namespace Site

variable (site : Site)

/-! ### Selected edges -/

/-- The constraint that is applied to an axis. None is applied to a node that is positioned
relatively. Groups, boolean operations and the members of groups are anchored to the near edge,
whatever their constraints are. -/
def applied? (axis : Axis) : Option Constraint :=
  match site.position with
  | .relative => none
  | .absolute =>
    if site.node.kind.isGroupLike ∨ ∃ parent ∈ site.owner, parent.kind = .group then some .min
    else some (site.node.anchors.along axis)

/-- What the constraint of an axis selects. -/
theorem isSome_select (constraint : Constraint) (near far : Float) (size : Option Float) :
    ((select constraint near far size).1.isSome ↔ constraint = .min ∨ constraint = .stretch) ∧
      ((select constraint near far size).2.1.isSome ↔ constraint ≠ .min) ∧
      (constraint = .stretch → (select constraint near far size).2.2 = none) := by
  cases constraint <;> simp [select]

/-- A place below the root is inside of a group if its parent is one. -/
theorem isSome_group?_iff (h : site.selected = false) :
    site.group?.isSome ↔ ∃ parent ∈ site.owner, parent.kind = .group := by
  unfold group? parent?
  rw [h]
  cases site.owner <;> simp

/-- The constraints that are applied to an absolute position are the anchors. -/
theorem applied?_of_absolute (h : site.position = .absolute) (axis : Axis) :
    site.applied? axis = some (site.anchors.along axis) := by
  have hgroup := site.isSome_group?_iff (site.selected_eq_false_of_absolute h)
  unfold applied? anchors
  rw [h]
  simp only [← hgroup, Bool.or_eq_true]
  split
  · cases axis <;> rfl
  · rfl

/-- The offsets and the size along an axis are those that the applied constraint selects. -/
theorem edges_of_absolute (h : site.position = .absolute) (axis : Axis) :
    ∃ constraint, site.applied? axis = some constraint ∧
      ((site.edges.near axis).isSome ↔ constraint = .min ∨ constraint = .stretch) ∧
      ((site.edges.far axis).isSome ↔ constraint ≠ .min) ∧
      (constraint = .stretch → site.edges.extent axis = none) := by
  obtain ⟨near, far, size, hnear, hfar, hextent⟩ : ∃ near far size,
      site.absoluteEdges.near axis = (select (site.anchors.along axis) near far size).1 ∧
      site.absoluteEdges.far axis = (select (site.anchors.along axis) near far size).2.1 ∧
      site.absoluteEdges.extent axis = (select (site.anchors.along axis) near far size).2.2 := by
    cases axis <;> exact ⟨_, _, _, rfl, rfl, rfl⟩
  -- inside a group the offsets are moved, and none is added or removed
  have hmoved : (site.edges.near axis).isSome = (site.absoluteEdges.near axis).isSome ∧
      (site.edges.far axis).isSome = (site.absoluteEdges.far axis).isSome ∧
      site.edges.extent axis = site.absoluteEdges.extent axis := by
    unfold edges insideGroup
    rw [h]
    cases site.group? <;> cases axis <;> simp [Edges.near, Edges.far, Edges.extent]
  refine ⟨_, site.applied?_of_absolute h axis, ?_⟩
  rw [hmoved.1, hmoved.2.1, hmoved.2.2, hnear, hfar, hextent]
  exact isSome_select _ near far size

/-- A relative position has zero offsets to the near edges and none to the far ones. -/
theorem edges_of_relative (h : site.position = .relative) (axis : Axis) :
    site.edges.near axis = some 0 ∧ site.edges.far axis = none := by
  unfold edges
  rw [h]
  cases axis <;> exact ⟨rfl, rfl⟩

/-- Both offsets of an axis are selected exactly if a stretching constraint is applied to it. -/
theorem edges_near_and_far_iff (axis : Axis) :
    (site.edges.near axis).isSome ∧ (site.edges.far axis).isSome ↔
      site.applied? axis = some .stretch := by
  cases hp : site.position with
  | relative =>
    obtain ⟨-, hfar⟩ := site.edges_of_relative hp axis
    have happlied : site.applied? axis = none := by rw [applied?, hp]
    rw [hfar, happlied]
    simp
  | absolute =>
    obtain ⟨constraint, happlied, hnear, hfar, -⟩ := site.edges_of_absolute hp axis
    rw [hnear, hfar, happlied]
    cases constraint <;> simp

/-- Beside both offsets there is no size. -/
theorem edges_extent_of_near_and_far {axis : Axis} (hnear : (site.edges.near axis).isSome)
    (hfar : (site.edges.far axis).isSome) : site.edges.extent axis = none := by
  have happlied := (site.edges_near_and_far_iff axis).mp ⟨hnear, hfar⟩
  cases hp : site.position with
  | relative => rw [(site.edges_of_relative hp axis).2] at hfar; cases hfar
  | absolute =>
    obtain ⟨constraint, hconstraint, -, -, hextent⟩ := site.edges_of_absolute hp axis
    exact hextent (Option.some.inj (hconstraint.symm.trans happlied))

/-- A far offset is selected only for a node that is positioned absolutely, is no group and stands
in none. -/
theorem of_edges_far {axis : Axis} (h : (site.edges.far axis).isSome) :
    site.position = .absolute ∧ site.node.kind.isGroupLike = false ∧
      ∀ parent ∈ site.owner, parent.kind ≠ .group := by
  cases hp : site.position with
  | relative => rw [(site.edges_of_relative hp axis).2] at h; cases h
  | absolute =>
    obtain ⟨constraint, happlied, -, hfar, -⟩ := site.edges_of_absolute hp axis
    have hmin := hfar.mp h
    rw [applied?, hp] at happlied
    by_cases hgroup : site.node.kind.isGroupLike ∨ ∃ parent ∈ site.owner, parent.kind = .group
    · simp only [if_pos hgroup] at happlied
      exact absurd (Option.some.inj happlied).symm hmin
    · rw [not_or] at hgroup
      exact ⟨rfl, by simpa using hgroup.1,
        fun parent hparent hkind => hgroup.2 ⟨parent, hparent, hkind⟩⟩

end Site

/-! ### Resolved styles -/

namespace Edges

/-- What is found among the entries that are present. -/
theorem lookup_present {l : List (String × Option Float)} (h : (l.map Prod.fst).Nodup)
    (key : String) : (present l).lookup key = ((l.lookup key).join).map .number := by
  induction l with
  | nil => rfl
  | cons e l ih =>
    obtain ⟨k, v⟩ := e
    rw [List.map_cons, List.nodup_cons] at h
    have hnot : k ∉ (present l).map Prod.fst :=
      fun hm => h.1 ((map_fst_present_sublist l).subset hm)
    by_cases hk : key = k
    · subst hk
      cases v with
      | none => simpa [present] using Style.lookup_eq_none_iff_not_mem_keys.mpr hnot
      | some x => simp [present]
    · have hb : (key == k) = false := by simpa using hk
      have hcons : (present ((k, v) :: l)).lookup key = (present l).lookup key := by
        cases v <;> simp [present, List.lookup_cons, hb]
      rw [hcons, ih h.2, List.lookup_cons, hb]

/-- The entries of edges, in either order. -/
def IsWritten (e : Edges) (entries : List (String × Value)) : Prop :=
  entries = e.entriesByAxis ∨ entries = e.entriesClockwise

variable {e : Edges} {entries : List (String × Value)}

/-- The entries of edges have distinct keys, and all are about edges and sizes. -/
theorem IsWritten.keys (h : e.IsWritten entries) :
    (entries.map Prod.fst).Nodup ∧
      entries.map Prod.fst ⊆ ["top", "right", "bottom", "left", "width", "height"] := by
  rcases h with rfl | rfl
  · exact ⟨e.keys_byAxis_sublist.nodup (by decide),
      List.Subset.trans e.keys_byAxis_sublist.subset (by decide)⟩
  · exact ⟨e.keys_clockwise_sublist.nodup (by decide), e.keys_clockwise_sublist.subset⟩

/-- The entries of edges hold the offsets and the size of each axis. -/
theorem IsWritten.lookup (h : e.IsWritten entries) (axis : Axis) :
    entries.lookup axis.near = (e.near axis).map .number ∧
      entries.lookup axis.far = (e.far axis).map .number ∧
      entries.lookup axis.extent = (e.extent axis).map .number := by
  have hpresent : ∀ l : List (String × Option Float), (l.map Prod.fst).Nodup →
      l.lookup axis.near = some (e.near axis) → l.lookup axis.far = some (e.far axis) →
      l.lookup axis.extent = some (e.extent axis) →
      (present l).lookup axis.near = (e.near axis).map .number ∧
        (present l).lookup axis.far = (e.far axis).map .number ∧
        (present l).lookup axis.extent = (e.extent axis).map .number := by
    intro l hl hnear hfar hextent
    rw [lookup_present hl, lookup_present hl, lookup_present hl, hnear, hfar, hextent]
    exact ⟨rfl, rfl, rfl⟩
  rcases h with rfl | rfl
  · cases axis <;> exact hpresent _ (by simp) rfl rfl rfl
  · cases axis <;> exact hpresent _ (by simp) rfl rfl rfl

end Edges

namespace Site

/-- What a style says about the placement of a node, before it is simplified. Only the size may be
replaced, by properties of other names. -/
structure Places (site : Site) (style : Style) : Prop where
  position : style.get? "position" = some (.text site.position.word)
  near : ∀ axis : Axis, style.get? axis.near = (site.edges.near axis).map .number
  far : ∀ axis : Axis, style.get? axis.far = (site.edges.far axis).map .number
  extent : ∀ axis : Axis, (style.get? axis.extent).isSome → (site.edges.extent axis).isSome

/-- The properties that are not about the placement and stand behind it in a style. -/
def laterKeys : List String :=
  ["transform", "paddingTop", "paddingBottom", "paddingLeft", "paddingRight", "borderTopWidth",
    "borderRightWidth", "borderBottomWidth", "borderLeftWidth", "borderTopLeftRadius",
    "borderTopRightRadius", "borderBottomRightRadius", "borderBottomLeftRadius", "borderStyle",
    "borderTopColor", "borderRightColor", "borderBottomColor", "borderLeftColor", "background",
    "boxShadow", "display", "flexDirection", "flexWrap", "alignItems", "justifyContent",
    "columnGap", "rowGap", "textShadowColor", "textShadowOffset", "textShadowRadius", "minWidth",
    "minHeight", "overflow"] ++ Node.typographyKeys

/-- The properties of the placement. -/
def placeKeys : List String := ["position", "top", "right", "bottom", "left", "width", "height"]

/-- No property of the placement is written again behind it. -/
theorem not_mem_laterKeys : ∀ key ∈ placeKeys, key ∉ laterKeys := by
  decide

/-- The offsets and the size of an axis are properties of the placement. -/
theorem mem_placeKeys (axis : Axis) :
    axis.near ∈ placeKeys ∧ axis.far ∈ placeKeys ∧ axis.extent ∈ placeKeys := by
  cases axis <;> decide

variable {site : Site}

/-- The entries of the flow and of the edges have different keys. -/
theorem get?_ofList_flow_append {e : Edges} {edges : List (String × Value)} (he : e.IsWritten edges)
    {key : String} (hkey : key ∈ placeKeys) :
    (Style.ofList (site.flowEntries ++ edges)).get? key =
      if key = "position" then some (.text site.position.word) else edges.lookup key := by
  obtain ⟨hnodup, hedges⟩ := he.keys
  have hkeys : ((site.flowEntries ++ edges).map Prod.fst).Nodup := by
    rw [List.map_append, keys_flow, List.nodup_append]
    refine ⟨by decide, hnodup, fun a ha b hb hab => ?_⟩
    have hdisjoint : ∀ key ∈ ["position", "alignSelf", "flexGrow", "flexShrink", "flexBasis"],
        key ∉ ["top", "right", "bottom", "left", "width", "height"] := by decide
    exact hdisjoint a ha (hab ▸ hedges hb)
  rw [Style.get?_ofList hkeys, List.lookup_append]
  by_cases hposition : key = "position"
  · subst hposition
    rfl
  · have hflow : site.flowEntries.lookup key = none := by
      rw [Style.lookup_eq_none_iff_not_mem_keys, keys_flow]
      have hplace : ∀ key ∈ placeKeys, key ≠ "position" →
          key ∉ ["position", "alignSelf", "flexGrow", "flexShrink", "flexBasis"] := by decide
      exact hplace key hkey hposition
    rw [if_neg hposition, hflow, Option.none_or]

/-- The entries of the flow and of edges place a node, if the edges are its own up to sizes that
they lack. -/
theorem places_of_edges {e : Edges} {edges : List (String × Value)} (he : e.IsWritten edges)
    (hnear : ∀ axis, e.near axis = site.edges.near axis)
    (hfar : ∀ axis, e.far axis = site.edges.far axis)
    (hextent : ∀ axis, (e.extent axis).isSome → (site.edges.extent axis).isSome) :
    site.Places (Style.ofList (site.flowEntries ++ edges)) := by
  refine ⟨(get?_ofList_flow_append he (by decide)).trans (if_pos rfl), fun axis => ?_,
    fun axis => ?_, fun axis h => ?_⟩
  · rw [get?_ofList_flow_append he (mem_placeKeys axis).1, if_neg (by cases axis <;> decide),
      (he.lookup axis).1, hnear]
  · rw [get?_ofList_flow_append he (mem_placeKeys axis).2.1, if_neg (by cases axis <;> decide),
      (he.lookup axis).2.1, hfar]
  · rw [get?_ofList_flow_append he (mem_placeKeys axis).2.2, if_neg (by cases axis <;> decide),
      (he.lookup axis).2.2, Option.isSome_map] at h
    exact hextent axis h

/-- Entries that stand behind the placement do not change it. -/
theorem Places.append {entries later : List (String × Value)}
    (h : site.Places (Style.ofList entries))
    (hlater : later.map Prod.fst ⊆ laterKeys) : site.Places (Style.ofList (entries ++ later)) := by
  have hget : ∀ key ∈ placeKeys, (Style.ofList (entries ++ later)).get? key =
      (Style.ofList entries).get? key := by
    intro key hkey
    rw [Style.ofList, Style.insertAll_append]
    exact Style.get?_insertAll_of_not_mem (fun hm => not_mem_laterKeys key hkey (hlater hm)) _
  refine ⟨(hget _ (by decide)).trans h.position, fun axis => ?_, fun axis => ?_, fun axis => ?_⟩
  · rw [hget _ (mem_placeKeys axis).1, h.near]
  · rw [hget _ (mem_placeKeys axis).2.1, h.far]
  · rw [hget _ (mem_placeKeys axis).2.2]
    exact h.extent axis

/-- Artwork has the offsets of its edges, and its size unless it is zero. -/
theorem places_artwork (site : Site) :
    site.Places (Style.ofList (site.flowEntries ++ artworkEntries site.edges)) := by
  have hmin : ∀ (b : Bool) (key : String) (v : Value), key ∈ laterKeys →
      (if b then [(key, v)] else []).map Prod.fst ⊆ laterKeys := by
    intro b key v hkey
    cases b <;> simp [hkey]
  have hedges :
      ∀ (b : Bool) (size : Option Float), (if b then none else size).isSome → size.isSome := by
    intro b size h
    cases b
    · exact h
    · cases h
  unfold artworkEntries
  rw [← List.append_assoc, ← List.append_assoc, ← List.append_assoc]
  refine Places.append (Places.append (Places.append ?_ ?_) ?_) (by decide)
  · refine places_of_edges (Or.inr rfl) ?_ ?_ ?_
    · rintro (_ | _) <;> rfl
    · rintro (_ | _) <;> rfl
    · rintro (_ | _)
      · exact hedges _ _
      · exact hedges _ _
  · exact hmin _ _ _ (by decide)
  · exact hmin _ _ _ (by decide)

/-- The typography of a text is not about its placement. -/
theorem baseStyle_ends (node : Node) :
    node.baseStyle.Ends fun r => ∃ typography, r = .ok typography ∧
      typography.entries.map Prod.fst ⊆ Node.typographyKeys := by
  unfold Node.baseStyle
  cases node.baseRun? with
  | none => exact ⟨{}, rfl, List.nil_subset _⟩
  | some base =>
    refine ⟨_, rfl, fun key hkey => ?_⟩
    have hsome := Style.isSome_lookup_iff_mem_keys.mpr hkey
    exact ((node.isSome_get?_typography base.1 base.2 key).mp hsome).1

/-- The style of every node places it. -/
theorem resolve_places (site : Site) (source : Source) :
    (site.resolve source).Ends fun r => ∀ style, r = .ok style → site.Places style := by
  have hwarn := Script.succeeds_warnAll site.edgeWarnings
  have hdone : ∀ {style : Style}, site.Places style →
      (Script.done style).Ends fun r => ∀ style, r = .ok style → site.Places style :=
    fun h style heq => Except.ok.inj heq ▸ h
  have htransform := List.Subset.trans site.node.keys_transform_subset (by decide : _ ⊆ laterKeys)
  have hborder := List.Subset.trans site.node.keys_border_subset (by decide : _ ⊆ laterKeys)
  have hshadow := List.Subset.trans site.node.keys_boxShadow_subset (by decide : _ ⊆ laterKeys)
  have hcontainer := List.Subset.trans site.node.keys_container_subset (by decide : _ ⊆ laterKeys)
  have htextShadow := List.Subset.trans site.node.keys_textShadow_subset (by decide : _ ⊆ laterKeys)
  have hpadding : site.node.paddingEntries.map Prod.fst ⊆ laterKeys := by
    rw [Node.keys_padding]
    decide
  have hbackground :
      ∀ background : String, [("background", Value.text background)].map Prod.fst ⊆ laterKeys :=
    fun _ => (by decide : ["background"] ⊆ laterKeys)
  -- the placement comes first, and what is listed after it has other keys
  have hplaces : ∀ {edges}, site.edges.IsWritten edges →
      site.Places (Style.ofList (site.flowEntries ++ edges)) :=
    fun he => places_of_edges he (fun _ => rfl) (fun _ => rfl) fun _ h => h
  unfold resolve
  cases site.node.kind
  case frame | component | instanceOf =>
    refine hwarn.bind fun _ =>
      (site.node.background_ends source).bind (fun background _ => hdone ?_) nofun
    exact (((((hplaces (Or.inl rfl)).append htransform).append hpadding).append hborder).append
      (hbackground background) |>.append hshadow).append hcontainer
  case rectangle =>
    refine hwarn.bind fun _ =>
      (site.node.background_ends source).bind (fun background _ => hdone ?_) nofun
    exact ((((hplaces (Or.inr rfl)).append htransform).append hborder).append
      (hbackground background)).append hshadow
  case group => exact hwarn.bind fun _ => hdone ((hplaces (Or.inl rfl)).append htransform)
  case text =>
    refine hwarn.bind fun _ =>
      (baseStyle_ends site.node).bind (fun typography htypography => ?_) nofun
    obtain ⟨_, hok, hkeys⟩ := htypography
    cases hok
    have hlater := List.Subset.trans hkeys (by decide : _ ⊆ laterKeys)
    exact hdone ((((hplaces (Or.inr rfl)).append htransform).append hlater).append htextShadow)
  case componentSet | other => exact nofun
  all_goals exact hwarn.bind fun _ => hdone site.places_artwork

end Site

/-! ### Simplified styles -/

namespace Style

/-- Simplifying drops the position if it is relative, and nothing else. -/
theorem get?_simplify_position (s : Style) :
    s.simplify.get? "position" = (s.get? "position").filter
      fun v => !v.same (.text "relative") := by
  have hall : Rule.all = Rule.all.take 22 ++
      Rule.drop ("position", .text "relative") :: Rule.all.drop 23 := rfl
  exact get?_simplify_of_initial hall (by decide +kernel) (by decide +kernel) s

/-- A near offset of zero is dropped if there is no far one, and otherwise the near offset stays. -/
theorem get?_apply_settle (s : Style) (near far : String) :
    ((Rule.settle near far).apply s).get? near =
      (s.get? near).filter fun v => !(v.isNumber 0 && (s.get? far).isNone) := by
  by_cases happlies : (Rule.settle near far).Applies s
  · rw [Rule.apply_settle happlies, get?_erase, if_pos rfl]
    obtain ⟨⟨v, hv, hzero⟩, hnone⟩ := happlies
    rw [hv, hnone, Option.filter_some]
    simp [hzero]
  · rw [Rule.apply_of_not_applies happlies]
    cases hv : s.get? near with
    | none => rfl
    | some v =>
      refine ((Option.filter_some ..).trans (if_pos ?_)).symm
      rw [Bool.not_eq_true', ← Bool.not_eq_true, Bool.and_eq_true, Option.isNone_iff_eq_none]
      exact fun hdefault => happlies ⟨⟨v, hv, hdefault.1⟩, hdefault.2⟩

/-- One rule touches the near offset of an axis, and no rule before it touches the far one. -/
theorem get?_simplify_near (s : Style) (axis : Axis) :
    s.simplify.get? axis.near =
      (s.get? axis.near).filter fun v => !(v.isNumber 0 && (s.get? axis.far).isNone) := by
  obtain ⟨before, after, hall, hbefore, hafter⟩ : ∃ before after,
      Rule.all = before ++ Rule.settle axis.near axis.far :: after ∧
      (∀ key ∈ [axis.near, axis.far], ∀ r ∈ before, key ∉ r.writes ∧ key ∉ r.needs) ∧
      ∀ r ∈ after, axis.near ∉ r.writes ∧ axis.near ∉ r.needs := by
    cases axis
    · exact ⟨Rule.all.take 30, Rule.all.drop 31, rfl, by decide +kernel, by decide +kernel⟩
    · exact ⟨Rule.all.take 31, Rule.all.drop 32, rfl, by decide +kernel, by decide +kernel⟩
  rw [simplify_eq_foldl, hall, List.foldl_append, List.foldl_cons, get?_foldl_of_untouched hafter,
    get?_apply_settle, get?_foldl_of_untouched (hbefore axis.near (by simp)),
    get?_foldl_of_untouched (hbefore axis.far (by simp))]

/-- Simplifying keeps the offset to a far edge. -/
theorem get?_simplify_far (s : Style) (axis : Axis) :
    s.simplify.get? axis.far = s.get? axis.far := by
  cases axis <;> exact get?_simplify_of_untouched (by decide +kernel) s

/-- Simplifying keeps the sizes. -/
theorem get?_simplify_extent (s : Style) (axis : Axis) :
    s.simplify.get? axis.extent = s.get? axis.extent := by
  cases axis <;> exact get?_simplify_of_untouched (by decide +kernel) s

/-- Simplification neither adds nor drops an offset beside its opposite. -/
theorem isSome_near_and_far_simplify_iff (s : Style) (axis : Axis) :
    (s.simplify.get? axis.near).isSome ∧ (s.simplify.get? axis.far).isSome ↔
      (s.get? axis.near).isSome ∧ (s.get? axis.far).isSome := by
  rw [get?_simplify_near, get?_simplify_far]
  cases s.get? axis.far with
  | none => simp
  | some v => simp

end Style

namespace Scene

/-- The properties of the placement in the simplified style of a node are consistent. -/
structure Placement (s : Scene) (root id : Nat) (style : Style) : Prop where
  /-- The position is absolute or not written. -/
  position : style.get? "position" = none ∨ style.get? "position" = some (.text "absolute")
  root : id = root → style.get? "position" = none
  /-- Without a position there are no offsets. -/
  unplaced : style.get? "position" = none →
    ∀ axis : Axis, style.get? axis.near = none ∧ style.get? axis.far = none
  /-- No axis has both offsets and a size. -/
  extent : ∀ axis : Axis, ¬ ((style.get? axis.near).isSome ∧ (style.get? axis.far).isSome ∧
    (style.get? axis.extent).isSome)
  /-- Only a node that is no group and stands in none has a far offset. -/
  far : ∀ axis : Axis, (style.get? axis.far).isSome →
    (∀ node ∈ s.get? id, node.kind.isGroupLike = false) ∧
    ∀ parent ∈ s.parent? id, parent.kind ≠ .group

end Scene

namespace Site.Places

variable {site : Site} {style : Style}

/-- A relative position is not written. -/
theorem get?_position_of_relative (h : site.Places style) (hp : site.position = .relative) :
    style.simplify.get? "position" = none := by
  rw [Style.get?_simplify_position, h.position, hp, Option.filter_some]
  decide

/-- An absolute position is written. -/
theorem get?_position_of_absolute (h : site.Places style) (hp : site.position = .absolute) :
    style.simplify.get? "position" = some (.text "absolute") := by
  rw [Style.get?_simplify_position, h.position, hp, Option.filter_some]
  exact if_pos (by decide)

/-- A node that is positioned relatively stands at the origin, which is not written. -/
theorem get?_offsets_of_relative (h : site.Places style) (hp : site.position = .relative)
    (axis : Axis) : style.simplify.get? axis.near = none ∧ style.simplify.get? axis.far = none := by
  obtain ⟨hnear, hfar⟩ := site.edges_of_relative hp axis
  have hzero : (Value.number 0).isNumber 0 = true := by decide
  rw [Style.get?_simplify_near, Style.get?_simplify_far, h.near, h.far, hnear, hfar,
    Option.map_some, Option.map_none, Option.filter_some, hzero]
  exact ⟨rfl, rfl⟩

/-- An axis with both offsets has no size. -/
theorem extent_of_near_and_far (h : site.Places style) {axis : Axis}
    (hnear : (style.simplify.get? axis.near).isSome)
    (hfar : (style.simplify.get? axis.far).isSome) : style.simplify.get? axis.extent = none := by
  obtain ⟨hnear, hfar⟩ := (style.isSome_near_and_far_simplify_iff axis).mp ⟨hnear, hfar⟩
  rw [h.near, Option.isSome_map] at hnear
  rw [h.far, Option.isSome_map] at hfar
  have hnone := site.edges_extent_of_near_and_far hnear hfar
  rw [Style.get?_simplify_extent, ← Option.not_isSome_iff_eq_none]
  intro hsome
  have hextent := h.extent axis hsome
  rw [hnone] at hextent
  cases hextent

/-- A style that places a node has a consistent placement once it is simplified. -/
theorem placement {s : Scene} {root id : Nat} (h : site.Places style)
    (hsite : s.site? root id = some site) : s.Placement root id style.simplify := by
  obtain ⟨node, hget, heq⟩ := Option.map_eq_some_iff.mp hsite
  have hnode : node = site.node := congrArg Site.node heq
  have hselected : (id == root) = site.selected := congrArg Site.selected heq
  have howner : s.parent? id = site.owner := congrArg Site.owner heq
  refine ⟨?_, fun hroot => ?_, fun hnone => ?_, fun axis hall => ?_, fun axis hfar => ?_⟩
  · cases hp : site.position with
    | relative => exact Or.inl (h.get?_position_of_relative hp)
    | absolute => exact Or.inr (h.get?_position_of_absolute hp)
  · apply h.get?_position_of_relative
    have htrue : site.selected = true := by rw [← hselected, hroot, beq_self_eq_true]
    rw [Site.position, if_pos htrue]
  · cases hp : site.position with
    | relative => exact h.get?_offsets_of_relative hp
    | absolute =>
      rw [h.get?_position_of_absolute hp] at hnone
      cases hnone
  · obtain ⟨hnear, hfar, hextent⟩ := hall
    rw [h.extent_of_near_and_far hnear hfar] at hextent
    cases hextent
  · rw [Style.get?_simplify_far, h.far, Option.isSome_map] at hfar
    obtain ⟨-, hkind, hparent⟩ := site.of_edges_far hfar
    rw [hget, howner, hnode]
    exact ⟨fun node' hnode' => Option.mem_some.mp hnode' ▸ hkind, hparent⟩

end Site.Places

namespace Scene

/-- **Consistent placement.** Whenever a style is resolved for a node, its simplified form has no
position or an absolute one, and none for the root; without a position it has no offsets; no axis
has both offsets and a size; only a node that is no group and stands in none has far offsets. Both
offsets of an axis are resolved, and are left by simplification, exactly if a stretching constraint
is applied to the axis. -/
theorem placement_of_resolve {s : Scene} {root id : Nat} {source : Source} {log : List Warning}
    {assets : Assets} {style : Style}
    (h : ((s.resolve root id source).run log assets).1 = .ok style) :
    s.Placement root id style.simplify ∧ ∃ site, s.site? root id = some site ∧ ∀ axis : Axis,
      ((style.get? axis.near).isSome ∧ (style.get? axis.far).isSome ↔
        site.applied? axis = some .stretch) ∧
      ((style.simplify.get? axis.near).isSome ∧ (style.simplify.get? axis.far).isSome ↔
        site.applied? axis = some .stretch) := by
  obtain ⟨site, hsite⟩ : ∃ site, s.site? root id = some site := by
    cases hsite : s.site? root id with
    | some site => exact ⟨site, rfl⟩
    | none =>
      rw [resolve, hsite] at h
      cases h
  have hplaces : site.Places style := by
    rw [resolve, hsite] at h
    exact (site.resolve_places source).run log assets style h
  have hstretch : ∀ axis : Axis, (style.get? axis.near).isSome ∧ (style.get? axis.far).isSome ↔
      site.applied? axis = some .stretch := by
    intro axis
    rw [hplaces.near, hplaces.far, Option.isSome_map, Option.isSome_map]
    exact site.edges_near_and_far_iff axis
  exact ⟨hplaces.placement hsite, site, hsite, fun axis =>
    ⟨hstretch axis, (style.isSome_near_and_far_simplify_iff axis).trans (hstretch axis)⟩⟩

/-- A frame with a rectangle in it that is stretched across and anchored to the bottom. -/
def banner : Scene :=
  (({} : Scene).addRoot { kind := .frame, width := 200, height := 100 }).addChild 0
    { kind := .rectangle, x := 10, y := 5, width := 170, height := 20,
      constraints := some { horizontal := .stretch, vertical := .max } }

/-- The rectangle of a banner has both offsets of the stretched axis and no width there, and only
the far offset of the other. -/
theorem placement_of_resolve_banner :
    ∃ style, ((banner.resolve 0 1 Source.none).run [] {}).1 = .ok style ∧
      ((style.simplify.get? "left").isSome ∧ (style.simplify.get? "right").isSome) ∧
      style.simplify.get? "width" = none ∧
      ¬ ((style.simplify.get? "top").isSome ∧ (style.simplify.get? "bottom").isSome) := by
  obtain ⟨style, hstyle⟩ :
      ∃ style, ((banner.resolve 0 1 Source.none).run [] {}).1 = .ok style := ⟨_, rfl⟩
  obtain ⟨hplacement, site, hsite, hstretch⟩ := placement_of_resolve hstyle
  cases hsite
  have hboth := (hstretch .horizontal).2.mpr (by decide)
  refine ⟨style, hstyle, hboth, ?_, fun htop => absurd ((hstretch .vertical).2.mp htop) (by decide)⟩
  rw [← Option.not_isSome_iff_eq_none]
  exact fun hwidth => hplacement.extent .horizontal ⟨hboth.1, hboth.2, hwidth⟩

end Scene

end Viewsmith
