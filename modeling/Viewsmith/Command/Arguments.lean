import Viewsmith.Lowering.Build

/-!
# Arguments

What can be asked for on the command line. Arguments are read from left to right, and the first that
is wrong, or that asks for help or for the version, decides.

## Main definitions

* `Selection`: what to compile and with which options.
* `Invocation`: what is asked for.
* `Invocation.read`: the invocation of a list of arguments.
-/

namespace Viewsmith

/-- What to compile and with which options. -/
structure Selection where
  /-- The file of the snapshot. -/
  input : String
  /-- The identifier of the node; otherwise the first root. -/
  root : Option String := none
  /-- The file of the options. -/
  config : Option String := none
  imageFills : Option ImageFills := none
  componentName : Option String := none

/-- What is asked for. -/
inductive Invocation where
  /-- Write the module of a selection and its assets into a folder. -/
  | compile (selection : Selection) (folder : String)
  /-- Print the elements of a selection. -/
  | print (selection : Selection)
  | help
  | version

namespace Invocation

/-- The form of an argument. -/
inductive Form where
  /-- Two dashes: no option follows. -/
  | separator
  /-- An option by its name, perhaps with its value. -/
  | long (name : String) (value : Option String)
  /-- Options of one letter. -/
  | short (letters : List Char)
  | plain

/-- The form of an argument. A single dash is plain. -/
def Form.of (argument : String) : Form :=
  match argument.toList with
  | ['-', '-'] => .separator
  | '-' :: '-' :: cs =>
    match cs.dropWhile (· ≠ '=') with
    | [] => .long (String.ofList cs) none
    | _ :: value => .long (String.ofList (cs.takeWhile (· ≠ '='))) (some (String.ofList value))
  | '-' :: c :: cs => .short (c :: cs)
  | _ => .plain

/-- What ends the reading before there is an invocation. -/
inductive Stop where
  | usage
  | help
  | version

/-- Read letters, of which `v` may stand once and `h` asks for help. `V` asks for the version where
`versioned`. The result tells whether `v` has been given. -/
def letters (versioned : Bool) (verbose : Bool) : List Char → Except Stop Bool
  | [] => .ok verbose
  | 'v' :: cs => if verbose then .error .usage else letters versioned true cs
  | 'h' :: _ => .error .help
  | 'V' :: _ => .error (if versioned then .version else .usage)
  | _ => .error .usage

/-- Read an option that takes no value, in the same way. -/
def switch (versioned : Bool) (verbose : Bool) (name : String) : Except Stop Bool :=
  match name with
  | "verbose" => letters versioned verbose ['v']
  | "help" => letters versioned verbose ['h']
  | "version" => letters versioned verbose ['V']
  | _ => .error .usage

/-! ### The options of a command -/

/-- The names that are given to `ImageFills` here. -/
def imageFillsNames : List (String × ImageFills) :=
  [("css", .css), ("image-background", .imageBackground)]

/-- Whether an option takes a value, and which values it takes. -/
def accepts? (foldered : Bool) (name : String) : Option (String → Bool) :=
  match name with
  | "in" => some (!·.isEmpty)
  | "config" => some (!·.isEmpty)
  | "root" => some fun _ => true
  | "component-name" => some fun _ => true
  | "image-fills" => some fun value => (imageFillsNames.lookup value).isSome
  | "out-dir" => if foldered then some (!·.isEmpty) else none
  | _ => none

/-- The options that have been given. -/
abbrev Given := List (String × String)

/-- Add an option, which may stand once. -/
def give (foldered : Bool) (given : Given) (name value : String) : Except Stop Given :=
  match accepts? foldered name with
  | none => .error .usage
  | some accepts =>
    if accepts value && (given.lookup name).isNone then .ok ((name, value) :: given)
    else .error .usage

/-- Read the options of a command. Nothing plain may stand alone. -/
def options (foldered : Bool) (verbose : Bool) (given : Given) :
    List String → Except Stop Given
  | [] => .ok given
  | [argument] =>
    match Form.of argument with
    | .separator => .ok given
    | .plain => .error .usage
    | .short cs => (letters false verbose cs).map fun _ => given
    | .long name (some value) => give foldered given name value
    | .long name none => (switch false verbose name).map fun _ => given
  | argument :: following :: rest =>
    match Form.of argument with
    | .separator => .error .usage
    | .plain => .error .usage
    | .short cs =>
      match letters false verbose cs with
      | .error stop => .error stop
      | .ok verbose => options foldered verbose given (following :: rest)
    | .long name (some value) =>
      match give foldered given name value with
      | .error stop => .error stop
      | .ok given => options foldered verbose given (following :: rest)
    | .long name none =>
      -- an option without a value of its own takes the argument after it
      if (accepts? foldered name).isSome then
        match Form.of following with
        | .plain =>
          match give foldered given name following with
          | .error stop => .error stop
          | .ok given => options foldered verbose given rest
        | _ => .error .usage
      else
        match switch false verbose name with
        | .error stop => .error stop
        | .ok verbose => options foldered verbose given (following :: rest)

/-- The selection that options describe. -/
def selection? (given : Given) : Option Selection :=
  (given.lookup "in").map fun input =>
    { input
      root := given.lookup "root"
      config := given.lookup "config"
      imageFills := (given.lookup "image-fills").bind fun name => imageFillsNames.lookup name
      componentName := given.lookup "component-name" }

/-! ### The whole command line -/

/-- Read a command that writes into a folder. -/
def readCompile (arguments : List String) : Except Stop Invocation := do
  let given ← options true false [] arguments
  match selection? given, given.lookup "out-dir" with
  | some selection, some folder => .ok (.compile selection folder)
  | _, _ => .error .usage

/-- Read a command that prints. -/
def readPrint (arguments : List String) : Except Stop Invocation := do
  match selection? (← options false false [] arguments) with
  | some selection => .ok (.print selection)
  | none => .error .usage

/-- Read a request for help with a command. -/
def readHelp : List String → Except Stop Invocation
  | [] | ["compile"] | ["ir"] | ["help"] => .ok .help
  | _ => .error .usage

/-- Read what stands before the name of a command, then the command. -/
def readCommand (verbose : Bool) : List String → Except Stop Invocation
  | [] => .error .usage
  | argument :: rest =>
    match Form.of argument with
    | .separator => .error .usage
    | .long name none =>
      match switch true verbose name with
      | .error stop => .error stop
      | .ok verbose => readCommand verbose rest
    | .long _ (some _) => .error .usage
    | .short cs =>
      match letters true verbose cs with
      | .error stop => .error stop
      | .ok verbose => readCommand verbose rest
    | .plain =>
      match argument with
      | "compile" => readCompile rest
      | "ir" => readPrint rest
      | "help" => readHelp rest
      | _ => .error .usage

/-- The invocation of a list of arguments; none when they are used wrongly. -/
def read (arguments : List String) : Option Invocation :=
  match readCommand false arguments with
  | .ok invocation => some invocation
  | .error .help => some .help
  | .error .version => some .version
  | .error .usage => none

end Invocation

end Viewsmith
