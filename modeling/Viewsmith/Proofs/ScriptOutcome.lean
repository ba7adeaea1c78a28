import Viewsmith.Lowering.Build

/-!
# Outcomes of scripts

Whether a lowering fails is decided without asking the store of assets or the source: whatever they
answer, a script that resolves a style or attaches an image ends, and it fails only with an error
that can be read off the node. `Script.Ends P` says that every outcome of a script satisfies `P`,
for all answers of the store at once, so that one proof covers every run.

## Main definitions

* `Script.Ends`: every outcome satisfies a predicate.
* `Script.Succeeds`: no outcome is an error.
* `Node.fault?`: the error of a node that cannot be lowered.

## Main statements

* `Script.Ends.bind`, `Script.Ends.run`: outcomes of a composed script, and of a run.
* `Site.resolve_ends`: a style is resolved, or the node has a fault and that is the error.
-/

namespace Viewsmith

namespace Script

variable {α β : Type}

/-- Whatever the store answers, the outcome satisfies `P`. -/
def Ends (P : Except CompileError α → Prop) : Script α → Prop
  | .done a => P (.ok a)
  | .fail e => P (.error e)
  | .font _ next => next.Ends P
  | .recall _ next => ∀ media, (next media).Ends P
  | .keep _ _ next => ∀ media, (next media).Ends P
  | .warn _ next => next.Ends P

/-- Whatever the store answers, there is a result. -/
def Succeeds (x : Script α) : Prop := x.Ends fun r => ∃ a, r = .ok a

variable {P : Except CompileError α → Prop} {Q : Except CompileError β → Prop}

/-- Every run ends with an outcome of the script. -/
theorem Ends.run {x : Script α} (h : x.Ends P) (log : List Warning) (assets : Assets) :
    P (x.run log assets).1 := by
  induction x generalizing log assets with
  | done a => exact h
  | fail e => exact h
  | font name next ih => exact ih h log (assets.registerFont name)
  | «recall» hash next ih => exact ih (assets.media? hash) (h _) log assets
  | keep hash bytes next ih => exact ih (assets.keepMedia hash bytes).1 (h _) log _
  | warn w next ih => exact ih h (w :: log) assets

/-- A script that goes on after another ends as what comes after allows, or with the error of the
first. -/
theorem Ends.bind {x : Script α} {f : α → Script β} (h : x.Ends P)
    (hok : ∀ a, P (.ok a) → (f a).Ends Q) (herror : ∀ e, P (.error e) → Q (.error e)) :
    (x.bind f).Ends Q := by
  induction x with
  | done a => exact hok a h
  | fail e => exact herror e h
  | font name next ih => exact ih h
  | «recall» hash next ih => exact fun media => ih media (h media)
  | keep hash bytes next ih => exact fun media => ih media (h media)
  | warn w next ih => exact ih h

/-- What is known of an outcome may be weakened. -/
theorem Ends.imp {x : Script α} {R : Except CompileError α → Prop} (h : x.Ends P)
    (hPR : ∀ r, P r → R r) : x.Ends R := by
  induction x with
  | done a => exact hPR _ h
  | fail e => exact hPR _ h
  | font name next ih => exact ih h
  | «recall» hash next ih => exact fun media => ih media (h media)
  | keep hash bytes next ih => exact fun media => ih media (h media)
  | warn w next ih => exact ih h

/-- What follows a script that succeeds decides the outcome. -/
theorem Succeeds.bind {x : Script α} {f : α → Script β} (h : x.Succeeds)
    (hf : ∀ a, (f a).Ends Q) : (x.bind f).Ends Q := by
  refine Ends.bind h (fun a _ => hf a) ?_
  rintro e ⟨a, ha⟩
  cases ha

/-- A script that is done has a result. -/
theorem succeeds_done (a : α) : (done a).Succeeds := ⟨a, rfl⟩

/-- Warning succeeds. -/
theorem succeeds_warnAll (warnings : List Warning) : (warnAll warnings).Succeeds := by
  induction warnings with
  | nil => exact succeeds_done ()
  | cons w warnings ih => exact ih

/-- Scripts that succeed do so in a row. -/
theorem succeeds_inOrder {scripts : List (Script α)} (h : ∀ x ∈ scripts, x.Succeeds) :
    (inOrder scripts).Succeeds := by
  induction scripts with
  | nil => exact succeeds_done []
  | cons x scripts ih =>
    apply (h x List.mem_cons_self).bind
    intro a
    apply (ih fun y hy => h y (List.mem_cons_of_mem _ hy)).bind
    exact fun as => succeeds_done (a :: as)

end Script

namespace Node

/-- The error of a node that cannot be lowered: a set of variants, an unknown kind, or a box whose
fills differ along a text. -/
def fault? (node : Node) : Option CompileError :=
  match node.kind with
  | .componentSet => some (.componentSet node.name)
  | .other tag => some (.invalidKind (.other tag))
  | .frame | .component | .instanceOf | .rectangle =>
    match node.fills with
    | .mixed => some (.mixedFills node.kind node.name)
    | .paints _ => none
  | _ => none

/-! ### Requests that succeed -/

/-- The layer of an image succeeds, whether the image is there or not. -/
theorem succeeds_imageLayer (node : Node) (source : Source) (hash : Option String) :
    (node.imageLayer source hash).Succeeds := by
  cases hash with
  | none => exact Script.succeeds_done _
  | some hash =>
    intro media
    cases media with
    | some media => exact Script.succeeds_done _
    | none =>
      -- the image is fetched only when no file is kept for its hash
      dsimp only
      cases source.image hash with
      | error e => exact Script.succeeds_done _
      | ok answer =>
        cases answer with
        | none => exact Script.succeeds_done _
        | some bytes =>
          intro kept
          cases kept with
          | some media => exact Script.succeeds_done _
          | none => exact Script.succeeds_done _

/-- A layer succeeds. -/
theorem succeeds_paintLayer (node : Node) (source : Source) (paint : Paint) :
    (node.paintLayer source paint).Succeeds := by
  cases paint with
  | image hash visible => exact node.succeeds_imageLayer source hash
  | solid color opacity visible => exact Script.succeeds_done _
  | gradient shape stops visible => exact Script.succeeds_done _
  | unsupported => exact Script.succeeds_done _

/-- The search for the topmost image succeeds. -/
theorem succeeds_firstKept (layers : List Paint) : (firstKept layers).Succeeds := by
  fun_induction firstKept layers with
  | case1 => exact Script.succeeds_done _
  | case2 hash visible rest ih =>
    intro media
    cases media with
    | some media => exact Script.succeeds_done _
    | none => exact ih
  | case3 paint rest _ ih => exact ih

/-- Looking for the topmost image of a node succeeds. -/
theorem succeeds_backgroundImage (node : Node) : node.backgroundImage.Succeeds := by
  unfold backgroundImage
  cases node.fills with
  | mixed => exact Script.succeeds_done _
  | paints layers => exact succeeds_firstKept _

/-- The style of a base run succeeds. -/
theorem succeeds_baseStyle (node : Node) : node.baseStyle.Succeeds := by
  unfold baseStyle
  cases node.baseRun? with
  | none => exact Script.succeeds_done _
  | some base => exact Script.succeeds_done _

/-- The markup of runs succeeds. -/
theorem succeeds_runsMarkup (node : Node) (text : TextContent) (index : Nat) (base : Style)
    (runs : List (TextRun × Nat)) : (node.runsMarkup text index base runs).Succeeds := by
  fun_induction runsMarkup node text index base runs with
  | case1 => exact Script.succeeds_done _
  | case2 run rest _ ih => exact ih.bind fun _ => Script.succeeds_done _
  | case3 run i rest _ _ ih => exact ih.bind fun _ => Script.succeeds_done _

/-- The markup of a text succeeds. -/
theorem succeeds_richText (node : Node) : node.richText.Succeeds := by
  unfold richText
  split
  · exact Script.succeeds_done _
  · split
    · exact Script.succeeds_done _
    · split
      · exact Script.succeeds_done _
      · exact node.succeeds_runsMarkup _ _ _ _

/-! ### Outcomes of resolution -/

/-- The outcome that a node lets expect: a result if it has no fault, else the fault. -/
def Explains {α : Type} (node : Node) : Except CompileError α → Prop
  | .ok _ => node.fault? = none
  | .error e => node.fault? = some e

/-- A fill fails only if it differs along a text. -/
theorem background_ends (node : Node) (source : Source) :
    (node.background source).Ends fun
      | .ok _ => node.fills ≠ .mixed
      | .error e => node.fills = .mixed ∧ e = .mixedFills node.kind node.name := by
  unfold background
  cases node.fills with
  | mixed => exact ⟨rfl, rfl⟩
  | paints layers =>
    show Script.Ends _ (if (visibleFromTop layers).isEmpty then _ else _)
    split
    · exact nofun
    · apply (Script.succeeds_inOrder ?_).bind
      · exact fun texts => nofun
      · intro x hx
        obtain ⟨paint, -, rfl⟩ := List.mem_map.mp hx
        exact node.succeeds_paintLayer source paint

/-- A box has a fault if and only if its fills are mixed. -/
theorem fault?_of_box {node : Node}
    (h : node.kind ∈ [.frame, .component, .instanceOf, .rectangle]) :
    node.fault? =
      match node.fills with
      | .mixed => some (.mixedFills node.kind node.name)
      | .paints _ => none := by
  simp only [List.mem_cons, List.not_mem_nil, or_false] at h
  rcases h with h | h | h | h <;> simp only [fault?, h]

end Node

namespace Site

/-- A style with the background of a box is resolved unless the fills are mixed. -/
theorem background_explained (site : Site) (source : Source) (finish : String → Style)
    (h : site.node.kind ∈ [.frame, .component, .instanceOf, .rectangle]) :
    ((Script.warnAll site.edgeWarnings).bind fun _ =>
      (site.node.background source).bind fun background => .done (finish background)).Ends
      site.node.Explains := by
  apply (Script.succeeds_warnAll site.edgeWarnings).bind
  intro _
  refine (site.node.background_ends source).bind ?_ ?_
  · intro background hfills
    show site.node.fault? = none
    rw [Node.fault?_of_box h]
    cases hf : site.node.fills with
    | mixed => exact absurd hf hfills
    | paints layers => rfl
  · rintro e ⟨hfills, rfl⟩
    show site.node.fault? = some _
    rw [Node.fault?_of_box h, hfills]

/-- A style is resolved, or the node has a fault and that is the error. -/
theorem resolve_ends (site : Site) (source : Source) :
    (site.resolve source).Ends site.node.Explains := by
  have hwarn := Script.succeeds_warnAll site.edgeWarnings
  unfold resolve
  cases hk : site.node.kind
  case frame | component | instanceOf | rectangle =>
    exact site.background_explained source _ (by simp [hk])
  case componentSet => exact show site.node.fault? = some _ by simp [Node.fault?, hk]
  case other tag => exact show site.node.fault? = some _ by simp [Node.fault?, hk]
  all_goals have hnone : site.node.fault? = none := by simp [Node.fault?, hk]
  case text => exact hwarn.bind fun _ => site.node.succeeds_baseStyle.bind fun _ => hnone
  -- groups and artwork ask for nothing
  all_goals exact hwarn.bind fun _ => hnone

end Site

end Viewsmith
