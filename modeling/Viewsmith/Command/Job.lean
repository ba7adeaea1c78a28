import Viewsmith.Command.Workflow
import Viewsmith.Error
import Viewsmith.Snapshot.Basic

/-!
# Jobs

A job is a workflow that stops at the first failure.

## Main definitions

* `Failure`: why a job fails.
* `Job`: a workflow that may fail.
* `Job.read`, `Job.makeFolders`, `Job.writeFiles`: the requests, with their failures.
-/

namespace Viewsmith

/-- Why a job fails. -/
inductive Failure where
  | loadSnapshot (path : String)
  | readConfig (path : String)
  | invalidConfig (path : String)
  | readCatalog (path : String)
  | invalidCatalog
  | root (error : SnapshotError)
  | compile (error : CompileError)
  | makeFolder (path : String)
  | write (path : String)

/-- The text of a failure. -/
def Failure.message : Failure → String
  | .loadSnapshot path => "Failed to load snapshot: " ++ path
  | .readConfig path => "Failed to read config: " ++ path
  | .invalidConfig path => "Invalid config: " ++ path
  | .readCatalog path => "Failed to read font catalog: " ++ path
  | .invalidCatalog => "Invalid font catalog"
  | .root error => error.message
  | .compile error => error.userMessage
  | .makeFolder path => "Failed to create output directory: " ++ path
  | .write path => "Failed to write " ++ path

/-- A workflow that may fail. -/
abbrev Job (α : Type) := ExceptT Failure Workflow α

namespace Job

/-- A value, or a failure. -/
def check {ε α : Type} (failure : ε → Failure) : Except ε α → Job α
  | .ok a => pure a
  | .error e => throw (failure e)

/-- Read a file. -/
def read (path : String) (failure : Failure) : Job String :=
  ExceptT.mk (.read path fun
    | some text => .done (.ok text)
    | none => .done (.error failure))

/-- Report warnings in order. -/
def warn : List String → Job Unit
  | [] => pure ()
  | text :: rest => do
    ExceptT.mk (.warn text (.done (.ok ())))
    warn rest

/-- Make all folders of a path. -/
def makeFolders (path : String) : Job Unit :=
  ExceptT.mk (.makeFolders path fun made =>
    .done (if made then .ok () else .error (.makeFolder path)))

/-- Write files into a folder, up to the first that cannot be written. -/
def writeFiles (folder : String) : List (String × List UInt8) → Job Unit
  | [] => pure ()
  | (name, bytes) :: rest => do
    let path := Path.join folder name
    ExceptT.mk (.write path bytes fun written =>
      .done (if written then .ok () else .error (.write path)))
    writeFiles folder rest

end Job

end Viewsmith
