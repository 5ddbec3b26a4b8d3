import RemoteTerminal.CommandLine

/-!
What the program says about its own command line.
-/
namespace RemoteTerminal

def programName : Text := "webterm".toList

def programVersion : Text := "0.1.0".toList

def versionText : Text := programName ++ ' ' :: programVersion ++ ['\n']

def aboutLine : String :=
  "A line-oriented terminal that submits each command to a remote endpoint and prints the " ++
    "plain-text response"

/-- The arguments, with what each is for. -/
def argumentHelp : List (String × String) :=
  [("[URL]", "Command endpoint URL (overrides config and WEBTERM_URL)")]

/-- The options, with what each is for. -/
def optionHelp : List (String × String) :=
  [("-c, --config <CONFIG>",
      "Path to config file (default: ./webterm.toml or ~/.config/webterm/webterm.toml)"),
   ("    --options <JSON>",
      "Widget options as a JSON object, e.g. '\x7b\"promptText\":\"$\"\x7d'"),
   ("-p, --prompt <PROMPT>", "Prompt echoed before each command"),
   ("-X, --method <METHOD>", "HTTP method used for submissions"),
   ("    --field <FIELD>", "Form field carrying the command text"),
   ("    --post <NAME=VALUE>", "Extra form field sent with every submission (repeatable)"),
   ("    --hello <HELLO>", "Message printed once before the first command"),
   ("    --submit-on-load", "Fire one submission with empty input at startup"),
   ("    --allow-empty", "Send blank lines to the endpoint instead of ignoring them"),
   ("    --tab-width <TAB_WIDTH>", "Spaces substituted per tab character"),
   ("    --disable-input", "Render output only; typed lines are ignored"),
   ("    --timeout <SECS>", "Request timeout in seconds"),
   ("    --no-theme", "Disable the dark monospace theme"),
   ("    --no-color", "Disable color output"),
   ("    --dump-html <PATH>", "Write the widget markup to PATH on exit"),
   ("    --init", "Write the default config to ~/.config/webterm/webterm.toml and exit"),
   ("-h, --help", "Print help"),
   ("-V, --version", "Print version")]

/-- Names and what they are for, in two columns. -/
def helpRows (rows : List (String × String)) : List Text :=
  let width := (rows.map fun row => row.1.length).foldl max 0
  rows.map fun row =>
    ' ' :: ' ' :: row.1.toList ++ List.replicate (width + 2 - row.1.length) ' ' ++ row.2.toList

/-- The command line explained. -/
def helpText : Text :=
  let lines := [aboutLine.toList, [], "Usage: webterm [OPTIONS] [URL]".toList, [],
    "Arguments:".toList] ++ helpRows argumentHelp ++ [[], "Options:".toList] ++ helpRows optionHelp
  lines.flatMap (· ++ ['\n'])

/-- What the program has to say of a command line that is not carried out: the help or the version
that was asked for, or why a value was not accepted. It does not word the other faults itself. -/
def UsageError.message : UsageError → Text
  | .help => helpText
  | .version => versionText
  | .badValue (some reason) => reason ++ ['\n']
  | .badValue none | .unknownArgument | .missingValue | .surplusValue | .repeatedArgument => []

/-- Help and the version were asked for; anything else is a fault. -/
def UsageError.isFault : UsageError → Bool
  | .help | .version => false
  | _ => true

end RemoteTerminal
