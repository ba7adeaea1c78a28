import Viewsmith.Compiler
import Viewsmith.Proofs.StoreHistory

/-!
# Sessions

A compiler serves many selections, one after the other. Its store of assets is shared by all of them
and has a say in what is compiled: a file that is kept is not fetched again, and it is attached to
the elements that show it. A lowering leaves what it has collected in the store, and so does one
that stops half way. No answer depends on that, because every call starts the collection afresh; all
that is carried from one call to the next is the set-up of the compiler, its options and its
catalog.

## Main definitions

* `Compiler.Call`, `Compiler.perform`: one use of a compiler, and what comes of it.
* `Compiler.after`: a compiler after a history of calls.

## Main statements

* `Script.catalog_run`: a script does not change the catalog, whatever it asks for.
* `Compiler.SetUpAlike.perform`, `Compiler.SetUpAlike.after`: neither does a call, or a history.
* `Compiler.answer_after_history`: a compiler keeps no memory of earlier work.
-/

namespace Viewsmith

/-- A script does not change the catalog, also when it fails half way. -/
theorem Script.catalog_run {α : Type} (x : Script α) (log : List Warning) (assets : Assets) :
    (x.run log assets).2.2.catalog = assets.catalog := by
  induction x generalizing log assets with
  | done a => rfl
  | fail e => rfl
  | font name next ih => exact (ih log _).trans (assets.catalog_registerFont name)
  | «recall» hash next ih => exact ih (assets.media? hash) log assets
  | keep hash bytes next ih =>
    exact (ih (assets.keepMedia hash bytes).1 log _).trans (assets.catalog_keepMedia hash bytes)
  | warn w next ih => exact ih (w :: log) assets

namespace Compiler

/-- One use of a compiler. -/
inductive Call where
  | lower (scene : Scene) (root : Nat) (source : Source)
  | compile (scene : Scene) (root : Nat) (source : Source)

/-- What a compiler answers: a tree of elements or a module, or the error, with the warnings. -/
inductive Answer where
  | lowered (outcome : Outcome Element)
  | compiled (outcome : Outcome Compiled)

/-- The answer to a call, and the compiler afterwards. -/
def perform (c : Compiler) : Call → Answer × Compiler
  | .lower scene root source =>
    let (outcome, c) := c.lower scene root source
    (.lowered outcome, c)
  | .compile scene root source =>
    let (outcome, c) := c.compile scene root source
    (.compiled outcome, c)

/-- A compiler after a history of calls, whether they succeeded or not. -/
def after (c : Compiler) (history : List Call) : Compiler :=
  history.foldl (fun c call => (c.perform call).2) c

/-- Two compilers with the same options and the same catalog. What their stores hold may differ. -/
structure SetUpAlike (c d : Compiler) : Prop where
  options : c.options = d.options
  catalog : c.assets.catalog = d.assets.catalog

namespace SetUpAlike

variable {c d : Compiler}

/-- The answers of compilers that are set up alike are the same, and so are the compilers
afterwards: what the stores held before has no influence on either. -/
theorem perform_eq (h : c.SetUpAlike d) (call : Call) : c.perform call = d.perform call := by
  have hlower (scene : Scene) (root : Nat) (source : Source) :
      c.lower scene root source = d.lower scene root source := by
    unfold Compiler.lower
    rw [h.options, Assets.clear_congr h.catalog]
  cases call with
  | lower scene root source => rw [Compiler.perform, hlower, ← Compiler.perform]
  | compile scene root source =>
    have hcompile : c.compile scene root source = d.compile scene root source := by
      unfold Compiler.compile
      rw [hlower]
    rw [Compiler.perform, hcompile, ← Compiler.perform]

/-- Step: a call changes neither the options nor the catalog. -/
theorem perform (h : c.SetUpAlike d) (call : Call) : (c.perform call).2.SetUpAlike d := by
  have hcatalog (scene : Scene) (root : Nat) (source : Source) :
      (c.lower scene root source).2.assets.catalog = c.assets.catalog :=
    Script.catalog_run _ [] c.assets.clear
  cases call with
  | lower scene root source => exact ⟨h.options, (hcatalog scene root source).trans h.catalog⟩
  | compile scene root source => exact ⟨h.options, (hcatalog scene root source).trans h.catalog⟩

/-- Run: neither does a history of calls. -/
theorem after (h : c.SetUpAlike d) (history : List Call) : (c.after history).SetUpAlike d := by
  induction history generalizing c with
  | nil => exact h
  | cons call history ih => exact ih (h.perform call)

end SetUpAlike

/-- The store is empty after a compilation, also after one that failed. -/
theorem assets_compile (c : Compiler) (scene : Scene) (root : Nat) (source : Source) :
    (c.perform (.compile scene root source)).2.assets.fonts = [] ∧
      (c.perform (.compile scene root source)).2.assets.media = [] :=
  ⟨rfl, rfl⟩

/-- **No memory.** Whatever a compiler was used for before, with success or not, it answers the next
call like one that was just made with the same options and the same catalog, and has collected the
same afterwards; and after every compilation of a history both stores are empty. -/
theorem answer_after_history (options : Options) (catalog : Catalog) (history : List Call) :
    (∀ next, ((new options catalog).after history).perform next =
      (new options catalog).perform next) ∧
      ∀ scene root source,
        ((new options catalog).after (history ++ [.compile scene root source])).assets.fonts = [] ∧
          ((new options catalog).after (history ++ [.compile scene root source])).assets.media =
            [] := by
  have halike : (new options catalog).SetUpAlike (new options catalog) := ⟨rfl, rfl⟩
  constructor
  · intro next
    exact (halike.after history).perform_eq next
  · intro scene root source
    unfold after
    rw [List.foldl_append]
    exact assets_compile _ scene root source

-- a lowering that succeeds and one that fails both leave the picture of the root in the store
example :
    let picture : Source :=
      { Source.none with image := fun _ => .ok (some [0x89, 0x50, 0x4E, 0x47]) }
    let card := ({} : Scene).addRoot { kind := .frame, fills := .paints [.image "photo" true] }
    let torn := card.addChild 0 { kind := .rectangle, fills := .mixed }
    ((new {} .builtin).after [.lower card 0 picture]).assets.media.map Prod.fst = ["photo"] ∧
      ((new {} .builtin).after [.lower torn 0 picture]).assets.media.map Prod.fst = ["photo"] := by
  decide +kernel

end Compiler

end Viewsmith
