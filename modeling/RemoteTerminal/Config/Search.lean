import RemoteTerminal.Config.Environment
import RemoteTerminal.Json.Parse
import RemoteTerminal.Toml.Parse

/-!
Where a configuration is looked for. A path that was asked for is the only one; otherwise the
first file counts that can be read, of the one in the working directory and the user's own, if
there is a directory for that, and without any of them everything is as usual.
-/
namespace RemoteTerminal

/-- Where a configuration came from. -/
inductive ConfigSource where
  | explicit (path : Text)
  | «local»
  | user (path : Text)
  | defaults
  deriving DecidableEq, Repr

def configFileName : Text := "webterm.toml".toList

/-- The directory of a user's file, in that of the user's configurations. -/
def userDirectory (root : Text) : Text := joinPath root "webterm".toList

def userFile (root : Text) : Text := joinPath (userDirectory root) configFileName

/-- The path of the user's file, if there is a directory for it. -/
def userConfigPath (env : Environment) : Option Text := env.configRoot.map userFile

/-- The file behind a source. -/
def ConfigSource.path? : ConfigSource → Option Text
  | .explicit path | .user path => some path
  | .local => some configFileName
  | .defaults => none

/-- The options that a JSON text sets. -/
def Options.ofJson (text : Text) : Except ReadError Options := do
  let document := Json.parse text
  let options ← Options.read document.root
  Read.passing document.close
  pure options

/-- The configuration that a TOML text holds. -/
def Config.ofToml (text : Text) : Except ReadError Config :=
  match Toml.parse text with
  | some tree => Config.read tree
  | none => .error (.broken .malformed)

namespace Config

/-- How files are read: the text at a path, or why there is none. -/
abbrev Reader := Text → Except FileFault Text

/-- The sources of a configuration that was not asked for by its path, in their order. -/
def searchOrder (env : Environment) : List ConfigSource :=
  .local :: (userConfigPath env).toList.map .user

/-- The text of the first source that can be read. -/
def firstReadable (read : Reader) : List ConfigSource → Text × ConfigSource
  | [] => ([], .defaults)
  | source :: sources =>
    match source.path?.map read with
    | some (.ok text) => (text, source)
    | _ => firstReadable read sources

/-- The text of the configuration, and its source. -/
def text (read : Reader) (env : Environment) (asked : Option Text) :
    Except ConfigError (Text × ConfigSource) :=
  match asked with
  | some path =>
    match read path with
    | .ok text => .ok (text, .explicit path)
    | .error fault => .error (.file fault)
  | none => .ok (firstReadable read (searchOrder env))

/-- The configuration of a run, and where it came from. -/
def loadBy (read : Reader) (env : Environment) (asked : Option Text) :
    Except ConfigError (Config × ConfigSource) := do
  let (text, source) ← text read env asked
  let config ← (ofToml text).mapError .document
  pure (← env.apply config, source)

/-- The configuration that a tree of files holds, and where it came from. -/
def load (files : Files) (working : Place) (env : Environment) (asked : Option Text) :
    Except ConfigError (Config × ConfigSource) :=
  loadBy (files.readText working) env asked

end Config
end RemoteTerminal
