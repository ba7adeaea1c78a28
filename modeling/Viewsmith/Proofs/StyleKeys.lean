import Viewsmith.Lowering.Resolve

/-!
# The properties of a resolved style

A style is put together from groups of entries: how a node takes part in the flow, its edges, its
borders, and so on. Each group writes properties of a list of its own, whatever the node is, so that
whether a group can overwrite a property is decided on these lists.
-/

namespace Viewsmith

namespace Edges

/-- Leaving out what is absent leaves the other keys in order. -/
theorem map_fst_present_sublist (l : List (String × Option Float)) :
    ((present l).map Prod.fst).Sublist (l.map Prod.fst) := by
  induction l with
  | nil => exact .slnil
  | cons e l ih =>
    obtain ⟨key, v⟩ := e
    cases v with
    | none => exact ih.cons key
    | some x => exact ih.cons_cons key

/-- The keys of edges that are written axis by axis. -/
theorem keys_byAxis_sublist (e : Edges) :
    (e.entriesByAxis.map Prod.fst).Sublist ["top", "bottom", "height", "left", "right", "width"] :=
  map_fst_present_sublist _

/-- The keys of edges that are written clockwise. -/
theorem keys_clockwise_sublist (e : Edges) :
    (e.entriesClockwise.map Prod.fst).Sublist
      ["top", "right", "bottom", "left", "width", "height"] :=
  map_fst_present_sublist _

end Edges

/-- The keys that say how a node stands in the flow of its parent are always written. -/
theorem Site.keys_flow (site : Site) :
    site.flowEntries.map Prod.fst =
      ["position", "alignSelf", "flexGrow", "flexShrink", "flexBasis"] := rfl

namespace Node

variable (node : Node)

/-- The only key of a rotation. -/
theorem keys_transform_subset : node.transformEntries.map Prod.fst ⊆ ["transform"] := by
  unfold transformEntries
  cases node.transform? <;> simp

/-- The four keys of the padding are always written. -/
theorem keys_padding :
    node.paddingEntries.map Prod.fst =
      ["paddingTop", "paddingBottom", "paddingLeft", "paddingRight"] := rfl

/-- The keys that arrange children. -/
theorem keys_container_subset :
    node.containerEntries.map Prod.fst ⊆ ["display", "flexDirection", "flexWrap", "alignItems",
      "justifyContent", "columnGap", "rowGap"] := by
  unfold containerEntries
  cases node.flow <;> simp

/-- The keys of a border. -/
theorem keys_border_subset :
    node.borderEntries.map Prod.fst ⊆ ["borderTopWidth", "borderRightWidth", "borderBottomWidth",
      "borderLeftWidth", "borderTopLeftRadius", "borderTopRightRadius", "borderBottomRightRadius",
      "borderBottomLeftRadius", "borderStyle", "borderTopColor", "borderRightColor",
      "borderBottomColor", "borderLeftColor"] := by
  unfold borderEntries borderWidthEntries borderRadiusEntries
  cases node.strokeWeight <;> cases node.cornerRadius <;> cases node.isStroked <;>
    cases solidColor? node.strokes <;> simp [borderColorEntries]

/-- The only key of the shadow of a box. -/
theorem keys_boxShadow_subset : node.boxShadowEntries.map Prod.fst ⊆ ["boxShadow"] := by
  unfold boxShadowEntries
  cases node.boxShadow? <;> simp

/-- The keys of the shadow of a text. -/
theorem keys_textShadow_subset :
    node.textShadowEntries.map Prod.fst ⊆
      ["textShadowColor", "textShadowOffset", "textShadowRadius"] := by
  unfold textShadowEntries
  cases node.textShadow? with
  | none => simp
  | some shadow => dsimp only; split <;> simp

end Node

/-- The keys of a place that is drawn as one piece of artwork. -/
theorem Site.keys_artwork_subset (e : Edges) :
    (artworkEntries e).map Prod.fst ⊆
      ["top", "right", "bottom", "left", "width", "height",
        "minWidth", "minHeight", "overflow"] := by
  unfold artworkEntries
  simp only [List.map_append, List.append_subset]
  refine ⟨⟨⟨?_, ?_⟩, ?_⟩, by simp⟩
  · exact List.Subset.trans (Edges.keys_clockwise_sublist _).subset (by simp)
  · split <;> simp
  · split <;> simp

end Viewsmith
