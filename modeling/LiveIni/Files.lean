import LiveIni.Encoding
import LiveIni.Path
import LiveIni.Table
import LiveIni.Text.Quoted

/-!
Files and directories below a working directory. A path is followed part by part, so that
every part but the last must be a directory that exists. What stands at a path is found under
its resolved form.
-/

namespace LiveIni

/-- A file with its bytes, or a directory. -/
inductive Node where
  | file (content : Bytes)
  | directory
deriving DecidableEq, Repr

/-- The files and directories, by the texts of their resolved paths. -/
abbrev Files := Table Node

/-- Why a path cannot be used. -/
inductive PathFault where
  | missing
  | exists
  | notDirectory
  | isDirectory
deriving DecidableEq, Repr

def PathFault.message (fault : PathFault) (path : Path) : String :=
  let (number, reason) := match fault with
    | missing => (2, "No such file or directory")
    | .exists => (17, "File exists")
    | notDirectory => (20, "Not a directory")
    | isDirectory => (21, "Is a directory")
  "[Errno " ++ toString number ++ "] " ++ reason ++ ": " ++ path.text.quotedString

namespace Files

/-- What stands at a resolved path, if anything does. -/
def node? (files : Files) (place : Path) : Option Node :=
  if place.parts = [] ∨ place.parts = [[]] then some .directory
  else Table.get? place.text files

/-- Follows the parts of a path from a directory `above`, whose parts are in reverse. The last
part need not exist.
-/
def follow (files : Files) (above : List Text) : List Text → Except PathFault Path
  | [] => .ok ⟨above.reverse⟩
  | part :: rest =>
    match node? files ⟨above.reverse⟩ with
    | none => .error .missing
    | some (.file _) => .error .notDirectory
    | some .directory =>
      follow files (Path.enter above part) rest

/-- The resolved form of a path, if all directories on the way exist. -/
def place (files : Files) (path : Path) : Except PathFault Path :=
  follow files [] path.parts

/-- Whether a path leads to a directory. -/
def isDirectory (files : Files) (path : Path) : Bool :=
  match place files path with
  | .ok p => node? files p = some .directory
  | .error _ => false

def read (files : Files) (path : Path) : Except PathFault Bytes := do
  match node? files (← place files path) with
  | none => .error .missing
  | some .directory => .error .isDirectory
  | some (.file content) => .ok content

/-- Makes a directory at a path where nothing stands yet. -/
def makeDirectory (files : Files) (path : Path) : Except PathFault Files := do
  let p ← place files path
  match node? files p with
  | some _ => .error .exists
  | none => .ok (Table.set p.text .directory files)

/-- Makes the directory whose parts are given in reverse, and those above it that are missing.
A directory that exists already is kept.
-/
def makeDirectoriesAt (files : Files) : List Text → Except PathFault Files
  | [] => .ok files
  | part :: above =>
    let path : Path := ⟨(part :: above).reverse⟩
    let keepExisting (files : Files) : PathFault → Except PathFault Files := fun fault =>
      if isDirectory files path then .ok files else .error fault
    match makeDirectory files path with
    | .ok more => .ok more
    | .error .missing => do
      let made ← makeDirectoriesAt files above
      match makeDirectory made path with
      | .ok more => .ok more
      | .error fault => keepExisting made fault
    | .error fault => keepExisting files fault

/-- Makes a directory and those above it. -/
def makeDirectories (files : Files) (path : Path) : Except PathFault Files :=
  makeDirectoriesAt files path.parts.reverse

/-- How a file is opened for writing: it must be new, it is replaced, or it is extended. -/
inductive WriteMode where
  | new | replace | extend
deriving DecidableEq, Repr

/-- Opens a file for writing: the files with it created, or emptied if it is to be replaced;
its resolved path; and the bytes that it now has.
-/
def openForWriting (files : Files) (path : Path) (mode : WriteMode)
    : Except PathFault (Files × Path × Bytes) := do
  let p ← place files path
  match node? files p, mode with
  | none, _ => .ok (Table.set p.text (.file []) files, p, [])
  | some _, .new => .error .exists
  | some .directory, _ => .error .isDirectory
  | some (.file _), .replace => .ok (Table.set p.text (.file []) files, p, [])
  | some (.file content), .extend => .ok (files, p, content)

/-- The files with the content of one changed. -/
def write (files : Files) (place : Path) (content : Bytes) : Files :=
  Table.set place.text (.file content) files

/-- Writes a file and makes the directories on its way; nothing changes if that cannot be
done.
-/
def store (files : Files) (path : Path) (content : Bytes) : Files :=
  match makeDirectories files path.parent with
  | .error _ => files
  | .ok made =>
    match openForWriting made path .replace with
    | .ok (opened, p, _) => write opened p content
    | .error _ => files

/-- Adds bytes to the end of a file, which is made if it is missing. -/
def append (files : Files) (place : Path) (content : Bytes) : Files :=
  match node? files place with
  | some (.file old) => write files place (old ++ content)
  | some .directory => files
  | none => write files place content

/-- The paths of all files and directories, those of directories with a slash at the end, in
the order of their code points.
-/
def listing (files : Files) : List Text :=
  let paths := files.map fun (path, node) =>
    match node with
    | .file _ => path
    | .directory => path ++ ['/']
  paths.mergeSort fun a b => Text.compare a b ≠ .gt

end Files

end LiveIni
