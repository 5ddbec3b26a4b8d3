import RemoteTerminal.Text.Bytes

/-!
A tree of files. A path is looked up part by part, and each part that is passed has to be a
directory; `FileFault` lists what may go wrong and `FileFault.message` is its wording.
-/
namespace RemoteTerminal

/-- Why a file was not read or written. -/
inductive FileFault where
  | missing
  | exists
  | notDirectory
  | isDirectory
  | nameTooLong
  | nulInName
  | notText
  | other (reason : Text)
  deriving DecidableEq, Repr

def FileFault.message : FileFault → Text
  | .missing => "No such file or directory (os error 2)".toList
  | .exists => "File exists (os error 17)".toList
  | .notDirectory => "Not a directory (os error 20)".toList
  | .isDirectory => "Is a directory (os error 21)".toList
  | .nameTooLong => "File name too long (os error 36)".toList
  | .nulInName => "file name contained an unexpected NUL byte".toList
  | .notText => "stream did not contain valid UTF-8".toList
  | .other reason => reason

inductive FileNode where
  | file (content : Bytes)
  | directory
  deriving DecidableEq, Repr

/-- A place in a tree, by the names on the way to it from the root. -/
abbrev Place := List Text

/-- The files of a tree by their places. The root is a directory, whatever the list holds. -/
structure Files where
  nodes : List (Place × FileNode)
  deriving DecidableEq, Repr

namespace Files

def empty : Files := ⟨[]⟩

def node? (files : Files) (place : Place) : Option FileNode :=
  if place.isEmpty then some .directory else files.nodes.lookup place

/-- The tree with `node` at a place. -/
def put (files : Files) (place : Place) (node : FileNode) : Files :=
  ⟨(place, node) :: files.nodes.filter fun p => p.1 ≠ place⟩

/-- A tree of the given nodes, with the directories that they lie in. -/
def ofList (nodes : List (Place × FileNode)) : Files :=
  nodes.foldl (fun files (place, node) =>
    let parents := (List.range place.length).map fun n => place.take n
    let files := parents.foldl (fun files parent =>
      if (files.node? parent).isSome then files else files.put parent .directory) files
    if node = .directory ∧ (files.node? place).isSome then files else files.put place node) empty

def greatestName : Nat := 255

/-- Follows the parts of a path from a place. The place that it ends at need not exist. -/
def follow (files : Files) : Place → List Text → Except FileFault Place
  | here, [] => .ok here
  | here, part :: parts =>
    match files.node? here with
    | none => .error .missing
    | some (.file _) => .error .notDirectory
    | some .directory =>
      if part.isEmpty ∨ part = ['.'] then follow files here parts
      else if part = ['.', '.'] then follow files here.dropLast parts
      else if greatestName < (Bytes.encode part).length then .error .nameTooLong
      else follow files (here ++ [part]) parts

/-- The place that a path leads to from a working directory. -/
def locate (files : Files) (working : Place) (path : Text) : Except FileFault Place :=
  if path.contains '\x00' then .error .nulInName
  else if path.isEmpty then .error .missing
  else files.follow (if path.head? = some '/' then [] else working) (path.splitOn '/')

def isDirectory (files : Files) (working : Place) (path : Text) : Bool :=
  match files.locate working path with
  | .ok place => files.node? place = some .directory
  | .error _ => false

/-- The content of a file. -/
def readBytes (files : Files) (working : Place) (path : Text) : Except FileFault Bytes := do
  match files.node? (← files.locate working path) with
  | none => .error .missing
  | some .directory => .error .isDirectory
  | some (.file content) => .ok content

/-- The text that bytes hold. -/
def textOf (bytes : Bytes) : Except FileFault Text :=
  (Bytes.decode bytes).mapError fun _ => .notText

/-- The content of a file, as text. -/
def readText (files : Files) (working : Place) (path : Text) : Except FileFault Text := do
  textOf (← files.readBytes working path)

/-- The place of a node that is to be made: the directory that it lies in has to exist. -/
def target (files : Files) (working : Place) (path : Text) : Except FileFault Place := do
  let place ← files.locate working path
  match files.node? place, files.node? place.dropLast with
  | some _, _ => .ok place
  | none, none => .error .missing
  | none, some (.file _) => .error .notDirectory
  | none, some .directory => .ok place

/-- The place of a file that is to be written. A path that ends in `/` can only name a directory. -/
def fileTarget (files : Files) (working : Place) (path : Text) : Except FileFault Place :=
  match files.target working path with
  | .error .missing =>
    let bare := (path.reverse.dropWhile (· = '/')).reverse
    if bare ≠ path ∧ (files.target working bare).isOk then .error .isDirectory
    else .error .missing
  | found => found

/-- Writes a file, over the one that may be there. -/
def write (files : Files) (working : Place) (path : Text) (content : Bytes) :
    Except FileFault Files := do
  let place ← files.fileTarget working path
  match files.node? place with
  | some .directory => .error .isDirectory
  | _ => .ok (files.put place (.file content))

/-- Writes a file that is not there yet. -/
def create (files : Files) (working : Place) (path : Text) (content : Bytes) :
    Except FileFault Files := do
  let place ← files.fileTarget working path
  match files.node? place with
  | some _ => .error .exists
  | none => .ok (files.put place (.file content))

/-- Makes one directory. -/
def makeDirectory (files : Files) (working : Place) (path : Text) : Except FileFault Files := do
  let place ← files.target working path
  match files.node? place with
  | some _ => .error .exists
  | none => .ok (files.put place .directory)

/-- An absolute path from its parts, the last first. -/
def absolute (parts : List Text) : Text := '/' :: List.intercalate ['/'] parts.reverse

/-- A path from its parts, the last first: from the root, or from the working directory. -/
def pathOf (rooted : Bool) (parts : List Text) : Text :=
  if rooted then absolute parts else List.intercalate ['/'] parts.reverse

/-- Makes one directory unless it is there: the fault, if any, and the files that are left. -/
def ensureDirectory (files : Files) (working : Place) (path : Text) : Option FileFault × Files :=
  match files.makeDirectory working path with
  | .ok made => (none, made)
  | .error fault => (if files.isDirectory working path then none else some fault, files)

/-- Makes the directory of a path, whose parts are given from the last to the first, and those that
it lies in, unless they are there. Where one cannot be made, those above it stay. -/
def makeDirectories (files : Files) (working : Place) (rooted : Bool) :
    List Text → Option FileFault × Files
  | [] => (none, files)
  | part :: parents =>
    let path := pathOf rooted (part :: parents)
    match files.makeDirectory working path with
    | .error .missing =>
      match makeDirectories files working rooted parents with
      | (none, files) => files.ensureDirectory working path
      | failed => failed
    | _ => files.ensureDirectory working path

end Files
end RemoteTerminal
