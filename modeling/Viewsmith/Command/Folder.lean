/-!
# Folders

The files that a command can read and write, seen from its working folder, and how a path leads to
one of them. A path is walked part by part: every part but the last has to lead to a folder. There
are no links, so a part names the place right below the one before it, and `..` names the one above.
Names are compared exactly: two names that differ in the case of a letter are two places.

## Main definitions

* `Folder`: files and folders at their places.
* `Folder.find?`: the place a path leads to.
* `Folder.read`, `Folder.makeFolders`, `Folder.write`: what a command can do.
* `Folder.files`: the files below the working folder.
-/

namespace Viewsmith

/-! ### Paths -/

namespace Path

/-- The parts of a path between its slashes; they may be empty. -/
def parts (path : String) : List String := (path.toList.splitOn '/').map String.ofList

/-- A file name below a path. A name that starts at the top replaces the path. -/
def join (path file : String) : String :=
  if file.startsWith "/" then file
  else if path.endsWith "/" then path ++ file
  else path ++ "/" ++ file

end Path

/-- The place of a file: the names that lead to it from the working folder. A place above the
working folder starts with `..`, and one that is counted from the top starts with `/`. -/
abbrev Place := List String

namespace Place

/-- The place above a place. -/
def up (place : Place) : Place :=
  match place.getLast? with
  | none => [".."]
  | some ".." => place ++ [".."]
  | some "/" => place
  | some _ => place.dropLast

/-- The place that a part of a path leads to. -/
def step (place : Place) (part : String) : Place :=
  if part = "" ∨ part = "." then place
  else if part = ".." then place.up
  else place ++ [part]

/-- Where a path starts. -/
def start (path : String) : Place := if path.startsWith "/" then ["/"] else []

/-- The text of a place. -/
def text (place : Place) : String := String.intercalate "/" place

/-- Whether there is a folder at a place whatever happens: the working folder, those above it and
the top. -/
def isFixed (place : Place) : Bool := place = ["/"] || place.all (· = "..")

/-- Whether a place is below the working folder. -/
def isInside (place : Place) : Bool := place.head? != some ".." && place.head? != some "/"

/-- Whether the last name of a place can be given to a file: it has at most 255 bytes, none of them
zero. -/
def isNameable (place : Place) : Bool :=
  match place.getLast? with
  | some name => name.utf8ByteSize ≤ 255 && !name.toList.contains (Char.ofNat 0)
  | none => true

end Place

/-! ### Folders -/

/-- What stands at a place. -/
inductive Entry where
  | file (bytes : List UInt8)
  | folder
  deriving Repr, DecidableEq

/-- Files and folders at their places; the first entry of a place counts. -/
structure Folder where
  entries : List (Place × Entry) := []

namespace Folder

/-- What stands at a place. -/
def entry? (f : Folder) (place : Place) : Option Entry :=
  if place.isFixed then some .folder else f.entries.lookup place

/-- Whether a folder stands at a place. -/
def isFolder (f : Folder) (place : Place) : Bool := f.entry? place = some .folder

/-- Put an entry at a place. -/
def put (f : Folder) (place : Place) (entry : Entry) : Folder := ⟨(place, entry) :: f.entries⟩

/-- Walk the parts of a path, each from a folder. -/
def walk? (f : Folder) (place : Place) : List String → Option Place
  | [] => some place
  | part :: parts => if f.isFolder place then f.walk? (place.step part) parts else none

/-- The place a path leads to. -/
def find? (f : Folder) (path : String) : Option Place :=
  if path.isEmpty then none else f.walk? (Place.start path) (Path.parts path)

/-- The text of the file at a path. -/
def read (f : Folder) (path : String) : Option String :=
  match (f.find? path).bind f.entry? with
  | some (.file bytes) => String.fromUTF8? ⟨bytes.toArray⟩
  | _ => none

/-- Walk the parts of a path and make the folders that are missing; the flag tells whether no file
was in the way. -/
def makeAlong (f : Folder) (place : Place) : List String → Bool × Folder
  | [] => (true, f)
  | part :: parts =>
    let next := place.step part
    match f.entry? next with
    | some .folder => f.makeAlong next parts
    | some (.file _) => (false, f)
    | none => if next.isNameable then (f.put next .folder).makeAlong next parts else (false, f)

/-- Make all folders of a path. -/
def makeFolders (f : Folder) (path : String) : Bool × Folder :=
  f.makeAlong (Place.start path) (Path.parts path)

/-- Write a file; the flag tells whether it could be written. -/
def write (f : Folder) (path : String) (bytes : List UInt8) : Bool × Folder :=
  match f.find? path with
  | none => (false, f)
  | some place =>
    if f.isFolder place || !place.isNameable then (false, f) else (true, f.put place (.file bytes))

/-- The places of files below the working folder, each once. -/
def places (f : Folder) : List Place :=
  ((f.entries.filter fun e => e.2 != .folder && e.1.isInside).map Prod.fst).eraseDups

/-- The files below the working folder. -/
def files (f : Folder) : List (String × List UInt8) :=
  f.places.filterMap fun place =>
    match f.entry? place with
    | some (.file bytes) => some (place.text, bytes)
    | _ => none

/-- A folder with these files, and the folders that they need. -/
def ofFiles (files : List (String × List UInt8)) : Folder :=
  files.foldl (fun f (path, bytes) =>
    let place := (Path.parts path).foldl Place.step (Place.start path)
    ((f.makeAlong [] place.dropLast).2.put place (.file bytes))) {}

end Folder

end Viewsmith
