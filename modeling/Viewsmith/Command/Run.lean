import Viewsmith.Command.Arguments
import Viewsmith.Command.Job
import Viewsmith.Compiler
import Viewsmith.Element.Json
import Viewsmith.Snapshot.Basic
import Viewsmith.Text.Lines

/-!
# The command

What the command line does. Everything is read and compiled before anything is written.

## Main definitions

* `Compiled.files`: the files of a module.
* `Selection.load`: the snapshot and the compiler of a selection.
* `Report`: what is told about a command when it has ended.
* `Command.run`: a command, from its arguments to its report.
-/

namespace Viewsmith

/-- The files of a module with their contents: its text, its media, and the style sheet of its
fonts. -/
def Compiled.files (m : Compiled) : List (String × List UInt8) :=
  (if m.code.isEmpty then [] else [(m.fileName, Text.bytes m.code.toList)])
    ++ m.assets.media.map (fun media => (media.filename, media.bytes))
    ++ if m.assets.fonts.isEmpty then [] else [("fonts.css", Text.bytes m.assets.fontsCss.toList)]

/-- One line about a module. -/
def Compiled.summary (m : Compiled) : String :=
  m.fileName ++ ": " ++ toString m.assets.media.length ++ " media file(s), "
    ++ toString m.assets.fonts.length ++ " font(s)"

/-- One line for a warning. -/
def Warning.text (w : Warning) : String :=
  String.intercalate ", " (w.fields.map fun (name, value) =>
    if name = "message" then value else name ++ ": " ++ value)

namespace Selection

/-- The options of a selection. What is chosen on the command line comes before the file. -/
def options (s : Selection) : Job Options := do
  let base : Options ← match s.config with
    | none => pure {}
    | some path => do
      let text ← Job.read path (.readConfig path)
      Job.check (fun _ => .invalidConfig path) (Options.read text)
  return { base with
    imageFills := s.imageFills.getD base.imageFills
    componentName := s.componentName <|> base.componentName }

/-- The catalog that options name. -/
def catalog (options : Options) : Job Catalog :=
  match options.hostedFonts with
  | none => pure .builtin
  | some path => do
    let text ← Job.read path (.readCatalog path)
    Job.check (fun _ => .invalidCatalog) (Catalog.read text)

/-- The snapshot and the compiler of a selection. -/
def load (s : Selection) : Job (Snapshot × Compiler) := do
  let text ← Job.read s.input (.loadSnapshot s.input)
  let snapshot ← Job.check (fun _ => .loadSnapshot s.input) (Snapshot.read text)
  let options ← s.options
  return (snapshot, .new options (← catalog options))

/-- The module of a selection. -/
def compiled (s : Selection) : Job Compiled := do
  let (snapshot, compiler) ← s.load
  let root ← Job.check .root (snapshot.root s.root)
  let outcome := (compiler.compile snapshot.scene root snapshot.source).1
  Job.warn (outcome.warnings.map Warning.text)
  Job.check .compile outcome.result

/-- The elements of a selection. -/
def lowered (s : Selection) : Job Element := do
  let (snapshot, compiler) ← s.load
  let root ← Job.check .root (snapshot.root s.root)
  let outcome := (compiler.lower snapshot.scene root snapshot.source).1
  Job.warn (outcome.warnings.map Warning.text)
  Job.check .compile outcome.result

/-- Compile a selection and write its files into a folder. -/
def compile (s : Selection) (folder : String) : Job String := do
  let m ← s.compiled
  Job.makeFolders folder
  if m.code.isEmpty then
    Job.warn ["selection produced no markup, module not written, name: " ++ m.name]
  Job.writeFiles folder m.files
  return m.summary

end Selection

/-- What is told about a command when it has ended. -/
inductive Report where
  /-- It has succeeded and prints a text. -/
  | done (output : String)
  | failed (failure : Failure)
  /-- Its arguments were used wrongly. -/
  | misused

/-- The number that a command ends with. -/
def Report.exitCode : Report → Nat
  | .done _ => 0
  | .failed _ => 1
  | .misused => 2

namespace Command

/-- The name and version of the command. -/
def version : String := "rnflow 0.1.0"

/-- How the command is used. -/
def usage : String :=
  Text.unlines
    ["Compile design snapshots into React Native modules",
     "",
     "Usage: rnflow [OPTIONS] <COMMAND>",
     "",
     "Commands:",
     "  compile  Compile a selection into a module, its media and fonts.css",
     "  ir       Print the uniquified IR as JSON",
     "  help     Print this message or the help of the given subcommand(s)",
     "",
     "Options:",
     "  -v, --verbose  Log debug output",
     "  -h, --help     Print help",
     "  -V, --version  Print version"]

/-- Carry out what is asked for; the text is what to print. -/
def perform : Invocation → Job String
  | .compile selection folder => selection.compile folder
  | .print selection => do return (← selection.lowered).jsonPretty
  | .help => pure usage
  | .version => pure version

/-- A command, from its arguments to its report. -/
def run (arguments : List String) : Workflow Report :=
  match Invocation.read arguments with
  | none => .done .misused
  | some invocation => do
    match ← (perform invocation).run with
    | .ok output => return .done (output ++ "\n")
    | .error failure => return .failed failure

end Command

end Viewsmith
