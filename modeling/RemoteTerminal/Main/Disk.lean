import RemoteTerminal.Files

/-!
The disk as a tree of files: what is at the paths that a run may meet is read beforehand, and what
the run has changed is written afterwards.
-/
namespace RemoteTerminal.Disk

/-- The absolute path of a place. -/
def path (place : Place) : String := String.ofList (Files.absolute place.reverse)

/-- What is at a place. -/
def node? (place : Place) : IO (Option FileNode) := do
  try
    let real ← IO.FS.realPath (path place)
    if ← real.isDir then pure (some .directory)
    else pure (some (.file (← IO.FS.readBinFile real).toList))
  catch _ => pure none

/-- What is on the way from a place along the parts of a path. -/
def visit (here : Place) : List Text → IO (List (Place × FileNode))
  | [] => pure []
  | part :: parts => do
    if part.isEmpty || part = ['.'] then visit here parts
    else
      let there := if part = ['.', '.'] then here.dropLast else here ++ [part]
      let rest ← visit there parts
      match ← node? there with
      | some node => pure ((there, node) :: rest)
      | none => pure rest

/-- The place that a run works in. -/
def working : IO Place := do
  let directory := (← IO.currentDir).toString.toList
  pure ((List.splitOn '/' directory).filter fun part => !part.isEmpty)

/-- What is at paths and on the way to them. -/
def gather (working : Place) (paths : List Text) : IO Files := do
  let nodes ← paths.mapM fun path => do
    let start := if path.head? = some '/' then [] else working
    visit [] (start ++ path.splitOn '/')
  pure (Files.ofList ((working, .directory) :: nodes.flatten))

/-- Writes what a run has changed. -/
def save (before after : Files) : IO (Option FileFault) := do
  try
    for (place, node) in after.nodes.reverse do
      if before.node? place ≠ some node then
        match node with
        | .directory => IO.FS.createDirAll (path place)
        | .file content => IO.FS.writeBinFile (path place) ⟨content.toArray⟩
    pure none
  catch error => pure (some (.other error.toString.toList))

end RemoteTerminal.Disk
