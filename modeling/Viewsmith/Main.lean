import Viewsmith.Command.Run

/-!
# The command line

The outer layer of the command: it carries its requests out on the files of the machine, prints its
report and ends with its number.
-/

namespace Viewsmith

/-- Whether an action can be done. -/
def succeeds (action : IO Unit) : IO Bool :=
  try
    action
    return true
  catch _ => return false

/-- Carry a workflow out on the files of the machine. -/
def Workflow.perform {α : Type} : Workflow α → IO α
  | .done a => return a
  | .read path next => do
    let text ← try pure (some (← IO.FS.readFile path)) catch _ => pure none
    (next text).perform
  | .makeFolders path next => do
    (next (← succeeds (IO.FS.createDirAll path))).perform
  | .write path bytes next => do
    (next (← succeeds (IO.FS.writeBinFile path ⟨bytes.toArray⟩))).perform
  | .warn text next => do
    IO.eprintln ("WARN " ++ text)
    next.perform

end Viewsmith

/-- The command line. -/
def main (arguments : List String) : IO UInt32 := do
  let report ← (Viewsmith.Command.run arguments).perform
  match report with
  | .done output => IO.print output
  | .failed failure => IO.eprintln ("Error: " ++ failure.message)
  | .misused => IO.eprintln Viewsmith.Command.usage
  return report.exitCode.toUInt32
