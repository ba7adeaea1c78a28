/-!
# Occurrence

Whether a list occurs in another as a run of neighbours.
-/

namespace Viewsmith.Text

/-- Whether `pattern` occurs in the list. -/
def occurs {α : Type} [BEq α] (pattern : List α) : List α → Bool
  | [] => pattern.isEmpty
  | a :: l => pattern.isPrefixOf (a :: l) || occurs pattern l

end Viewsmith.Text
