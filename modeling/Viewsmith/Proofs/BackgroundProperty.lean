import Viewsmith.Proofs.RunOverrides

/-!
# The background property

The text of a fill is written into a style under one key, and no other entry of a style has this
key. It is written before the shadows and the properties of a container, and simplification drops it
when it shows nothing.

## Main statements

* `Style.get?_simplify_background`: what simplification makes of a background.
* `Style.get?_ofList_of_last`: a property that no later entry overwrites.
* `Node.background_not_mem_boxShadow` and others: the entries without a background.
-/

namespace Viewsmith

/-! ### The background in a style -/

namespace Style

/-- Simplification drops a background that shows nothing, and leaves every other one as it is. -/
theorem get?_simplify_background (s : Style) :
    s.simplify.get? "background" =
      (s.get? "background").filter fun v => !v.same (.text transparent) := by
  have hall : Rule.all = Rule.all.take 20 ++
      Rule.drop ("background", .text transparent) :: Rule.all.drop 21 := rfl
  exact get?_simplify_of_initial hall (by decide +kernel) (by decide +kernel) s

/-- A property that is written last counts, whatever was written before. -/
theorem get?_ofList_of_last {before after : List (String × Value)} {key : String} (v : Value)
    (h : key ∉ after.map Prod.fst) :
    (ofList (before ++ [(key, v)] ++ after)).get? key = some v := by
  rw [ofList, insertAll_append, get?_insertAll_of_not_mem h, insertAll_append]
  show ((empty.insertAll before).insert key v).get? key = some v
  rw [get?_insert, if_pos rfl]

/-- A property that is not among the entries is absent. -/
theorem get?_ofList_of_not_mem {l : List (String × Value)} {key : String}
    (h : key ∉ l.map Prod.fst) : (ofList l).get? key = none :=
  get?_insertAll_of_not_mem h empty

end Style

/-! ### The other properties of a style -/

section Keys

variable (site : Site) (node : Node)

/-- Edges that are written axis by axis set no background. -/
theorem Edges.background_not_mem_byAxis (e : Edges) : "background" ∉ e.entriesByAxis.map Prod.fst :=
  fun hm => absurd (e.keys_byAxis_sublist.subset hm) (by decide)

/-- Edges that are written clockwise set no background. -/
theorem Edges.background_not_mem_clockwise (e : Edges) :
    "background" ∉ e.entriesClockwise.map Prod.fst :=
  fun hm => absurd (e.keys_clockwise_sublist.subset hm) (by decide)

/-- The place in the flow of a parent sets no background. -/
theorem Site.background_not_mem_flow : "background" ∉ site.flowEntries.map Prod.fst := by
  rw [Site.keys_flow]
  decide

/-- The place of a piece of artwork sets no background. -/
theorem Site.background_not_mem_artwork (e : Edges) :
    "background" ∉ (Site.artworkEntries e).map Prod.fst :=
  fun hm => absurd (Site.keys_artwork_subset e hm) (by decide)

/-- A rotation sets no background. -/
theorem Node.background_not_mem_transform : "background" ∉ node.transformEntries.map Prod.fst :=
  fun hm => absurd (node.keys_transform_subset hm) (by decide)

/-- The shadow of a box sets no background. -/
theorem Node.background_not_mem_boxShadow : "background" ∉ node.boxShadowEntries.map Prod.fst :=
  fun hm => absurd (node.keys_boxShadow_subset hm) (by decide)

/-- The arrangement of children sets no background. -/
theorem Node.background_not_mem_container : "background" ∉ node.containerEntries.map Prod.fst :=
  fun hm => absurd (node.keys_container_subset hm) (by decide)

/-- The shadow of a text sets no background. -/
theorem Node.background_not_mem_textShadow : "background" ∉ node.textShadowEntries.map Prod.fst :=
  fun hm => absurd (node.keys_textShadow_subset hm) (by decide)

/-- The typography of a text sets no background. -/
theorem Node.background_not_mem_typography (text : TextContent) (run : TextRun) :
    "background" ∉ (node.typography text run).entries.map Prod.fst := by
  intro hm
  have hsome := Style.isSome_lookup_iff_mem_keys.mpr hm
  have hnone := node.get?_typography_of_not_mem text run (by decide : "background" ∉ typographyKeys)
  rw [Style.get?] at hnone
  rw [hnone] at hsome
  cases hsome

end Keys

end Viewsmith
