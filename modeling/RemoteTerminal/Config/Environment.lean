import RemoteTerminal.Config

/-!
The environment of a run, and the variables in it that count over the configuration's document.
-/
namespace RemoteTerminal

/-- A path with a name after it. -/
def joinPath (path name : Text) : Text :=
  if path.isEmpty ∨ path.getLast? = some '/' then path ++ name else path ++ '/' :: name

/-- What surrounds a run besides files: its variables, and the directory in which the platform keeps
the configurations of a user. It may know of none. -/
structure Environment where
  bindings : List (Text × Text)
  platformRoot : Option Text
  deriving DecidableEq

namespace Environment

def urlVariable : Text := "WEBTERM_URL".toList
def timeoutVariable : Text := "WEBTERM_TIMEOUT_SECS".toList
def configHomeVariable : Text := "XDG_CONFIG_HOME".toList
def homeVariable : Text := "HOME".toList

/-- The variables that count. -/
def names : List Text := [urlVariable, timeoutVariable, configHomeVariable, homeVariable]

def lookup (env : Environment) (name : Text) : Option Text := env.bindings.lookup name

/-- The environment of a platform that keeps configurations in the user's home. Where no variable
names that, it knows of no home. -/
def ofVariables (bindings : List (Text × Text)) : Environment where
  bindings
  platformRoot := ((bindings.lookup homeVariable).filter fun home => !home.isEmpty).map fun home =>
    joinPath home ".config".toList

/-- A variable without the white space around it, unless it is blank. -/
def trimmed? (env : Environment) (name : Text) : Option Text :=
  ((env.lookup name).map Text.trim).filter fun value => !value.isEmpty

/-- Seconds are below this. -/
def secondsBound : Nat := Nat.pow 2 64

/-- The configuration with what the environment sets in it. A timeout is at least one second. -/
def apply (env : Environment) (config : Config) : Except ConfigError Config := do
  let config := match env.trimmed? urlVariable with
    | some url => { config with endpoint.url := some url }
    | none => config
  match env.trimmed? timeoutVariable with
  | none => .ok config
  | some given =>
    match Text.count? secondsBound given with
    | some seconds => .ok { config with endpoint.timeoutSeconds := max seconds 1 }
    | none => .error (.unfit (.timeout given))

/-- The directory of a user's configurations: the variable for it if that is an absolute path, else
the directory of the platform. -/
def configRoot (env : Environment) : Option Text :=
  ((env.lookup configHomeVariable).filter fun root => root.head? = some '/').or env.platformRoot

end Environment
end RemoteTerminal
