import RemoteTerminal.Config.Search

/-!
The document that a new user's configuration starts from, and putting it in place: a file that is
there already is left as it is.
-/
namespace RemoteTerminal.Config

/-- A document that sets each part to what it usually is, line by line. -/
def templateLines : List String :=
  ["# webterm configuration.",
   "#",
   "# Search order: --config PATH, ./webterm.toml, ~/.config/webterm/webterm.toml.",
   "# Every key is optional; omitted keys keep their built-in defaults.",
   "",
   "[endpoint]",
   "# Command endpoint that receives each submitted line.",
   "# url = \"http://127.0.0.1:8000/\"",
   "timeout_secs = 30",
   "",
   "[terminal]",
   "max_height = \"fill\"",
   "form_method = \"POST\"",
   "input_field_name = \"input\"",
   "# prompt_text = \"$\"",
   "focus_on_load = true",
   "submit_on_load = false",
   "grab_focus_on_click = true",
   "# hello_message = \"Welcome.\"",
   "theme_enabled = true",
   "allow_empty_input = false",
   "tab_width = 4",
   "input_disabled = false",
   "",
   "[terminal.extra_post_fields]",
   "# session = \"demo\"",
   "",
   "[display]",
   "color = true"]

def template : Text := templateLines.flatMap fun line => line.toList ++ ['\n']

/-- What placing the document came to. -/
inductive Placed where
  | created (path : Text)
  | present (path : Text)
  deriving DecidableEq, Repr

/-- The parts of a path, the last first. -/
def partsOf (path : Text) : List Text :=
  ((path.splitOn '/').filter fun part => !part.isEmpty && part ≠ ['.']).reverse

/-- Makes the directory of a user's file. -/
def makeUserDirectory (files : Files) (working : Place) (root : Text) : Option FileFault × Files :=
  let directory := userDirectory root
  files.makeDirectories working (directory.head? = some '/') (partsOf directory)

/-- Writes the document to a user's file, and tells what came of it. Also where it is not written,
directories may have been made. -/
def writeTemplate (files : Files) (working : Place) (root : Text) :
    Except FileFault Placed × Files :=
  let path := userFile root
  match makeUserDirectory files working root with
  | (some fault, files) => (.error fault, files)
  | (none, files) =>
    match files.create working path (Bytes.encode template) with
    | .ok files => (.ok (.created path), files)
    | .error .exists => (.ok (.present path), files)
    | .error fault => (.error fault, files)

/-- Places the document where the user's configuration is looked for, and tells what came of it. -/
def place (files : Files) (working : Place) (env : Environment) :
    Except ConfigError Placed × Files :=
  match env.configRoot with
  | none => (.error (.unfit .noDirectory), files)
  | some root =>
    let (placed, files) := writeTemplate files working root
    (placed.mapError .file, files)

end RemoteTerminal.Config
