import Viewsmith.Command.Folder

/-!
# Workflows

A workflow is a computation that asks for files step by step: it reads texts, makes folders, writes
files and reports warnings. The requests are data, so that the same workflow can be carried out on
the files of a machine or on a folder that is a value.

## Main definitions

* `Workflow`: a computation with its requests.
* `Workflow.run`: carry a workflow out on a folder.
-/

namespace Viewsmith

/-- A computation that makes requests about files. -/
inductive Workflow (α : Type) where
  | done (a : α)
  /-- Read the text of a file. -/
  | read (path : String) (next : Option String → Workflow α)
  /-- Make all folders of a path. -/
  | makeFolders (path : String) (next : Bool → Workflow α)
  /-- Write a file. -/
  | write (path : String) (bytes : List UInt8) (next : Bool → Workflow α)
  /-- Report a warning. -/
  | warn (text : String) (next : Workflow α)

namespace Workflow

/-- Go on with the result of a workflow. -/
def bind {α β : Type} (w : Workflow α) (f : α → Workflow β) : Workflow β :=
  match w with
  | .done a => f a
  | .read path next => .read path fun text => (next text).bind f
  | .makeFolders path next => .makeFolders path fun made => (next made).bind f
  | .write path bytes next => .write path bytes fun written => (next written).bind f
  | .warn text next => .warn text (next.bind f)

instance : Monad Workflow where
  pure := .done
  bind := Workflow.bind

/-- Carry a workflow out on a folder. -/
def run {α : Type} : Workflow α → Folder → α × Folder
  | .done a, folder => (a, folder)
  | .read path next, folder => (next (folder.read path)).run folder
  | .makeFolders path next, folder =>
    let (made, folder) := folder.makeFolders path
    (next made).run folder
  | .write path bytes next, folder =>
    let (written, folder) := folder.write path bytes
    (next written).run folder
  | .warn _ next, folder => next.run folder

/-- Returning a value leaves the folder as it is. -/
@[simp]
theorem run_pure {α : Type} (a : α) (folder : Folder) :
    (pure a : Workflow α).run folder = (a, folder) := rfl

/-- Two steps are performed one after the other, the second on the folder that the first leaves. -/
@[simp]
theorem run_bind {α β : Type} (w : Workflow α) (f : α → Workflow β) (folder : Folder) :
    (w >>= f).run folder = (f (w.run folder).1).run (w.run folder).2 := by
  change (w.bind f).run folder = _
  induction w generalizing folder with
  | done a => rfl
  | read path next ih => exact ih _ _
  | makeFolders path next ih => exact ih _ _
  | write path bytes next ih => exact ih _ _
  | warn text next ih => exact ih _

end Workflow

end Viewsmith
