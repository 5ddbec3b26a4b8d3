import RemoteTerminal.Options
import RemoteTerminal.Text
import RemoteTerminal.Text.Digits

/-!
The command line: flags, options that take a value, and one url. Arguments are met one by one; an
option without a value waits for the next argument, and its value is read when the argument after
that is met, or the end. Main definition: `CommandLine.read`.
-/
namespace RemoteTerminal

/-- What a command line asks for. -/
structure CommandLine where
  url : Option Text := none
  config : Option Text := none
  options : Option Text := none
  prompt : Option Text := none
  method : Option Text := none
  field : Option Text := none
  post : List (Text × Text) := []
  hello : Option Text := none
  submitOnLoad : Bool := false
  allowEmpty : Bool := false
  tabWidth : Option Nat := none
  disableInput : Bool := false
  timeout : Option Nat := none
  noTheme : Bool := false
  noColor : Bool := false
  dumpHtml : Option Text := none
  init : Bool := false
  deriving DecidableEq, Repr

/-- Why a command line is not carried out. Help and the version are asked for, and end the reading
as a fault does; a value that was not accepted may come with a reason. -/
inductive UsageError where
  | unknownArgument
  | missingValue
  | surplusValue
  | repeatedArgument
  | badValue (reason : Option Text)
  | help
  | version
  deriving DecidableEq, Repr

/-- What makes a pair of a field and its value unfit. -/
inductive PostFault where
  | noValue
  | noName
  deriving DecidableEq, Repr

namespace CommandLine

inductive Flag where
  | submitOnLoad
  | allowEmpty
  | disableInput
  | noTheme
  | noColor
  | init
  | help
  | version
  deriving DecidableEq, Repr

/-- The arguments that take a value. -/
inductive Setting where
  | url
  | config
  | options
  | prompt
  | method
  | field
  | post
  | hello
  | tabWidth
  | timeout
  | dumpHtml
  deriving DecidableEq, Repr

inductive Argument where
  | flag (flag : Flag)
  | setting (setting : Setting)

/-- The arguments by their long names. -/
def long? (name : Text) : Option Argument :=
  match String.ofList name with
  | "config" => some (.setting .config)
  | "options" => some (.setting .options)
  | "prompt" => some (.setting .prompt)
  | "method" => some (.setting .method)
  | "field" => some (.setting .field)
  | "post" => some (.setting .post)
  | "hello" => some (.setting .hello)
  | "tab-width" => some (.setting .tabWidth)
  | "timeout" => some (.setting .timeout)
  | "dump-html" => some (.setting .dumpHtml)
  | "submit-on-load" => some (.flag .submitOnLoad)
  | "allow-empty" => some (.flag .allowEmpty)
  | "disable-input" => some (.flag .disableInput)
  | "no-theme" => some (.flag .noTheme)
  | "no-color" => some (.flag .noColor)
  | "init" => some (.flag .init)
  | "help" => some (.flag .help)
  | "version" => some (.flag .version)
  | _ => none

/-- The arguments that have a name of one letter. -/
def short? : Char → Option Argument
  | 'c' => some (.setting .config)
  | 'p' => some (.setting .prompt)
  | 'X' => some (.setting .method)
  | 'h' => some (.flag .help)
  | 'V' => some (.flag .version)
  | _ => none

/-- A field to send along: its name, trimmed, up to the first `=`, and its value as it is. -/
def postField (raw : Text) : Except PostFault (Text × Text) :=
  match raw.cut? '=' with
  | none => .error .noValue
  | some (name, value) =>
    if (Text.trim name).isEmpty then .error .noName else .ok (Text.trim name, value)

/-- What is said of an unfit field. -/
def postReason (raw : Text) (fault : PostFault) : Text :=
  "error: invalid value '".toList ++ raw ++ "' for '--post <NAME=VALUE>': ".toList ++
    (match fault with
      | .noValue => "expected NAME=VALUE, got `".toList
      | .noName => "missing field name in `".toList) ++ raw ++ ['`']

/-- Counts on the command line are below this. -/
def countBound : Nat := Nat.pow 2 64

def count (value : Text) : Except UsageError Nat :=
  match Text.count? countBound value with
  | some n => .ok n
  | none => .error (.badValue none)

/-- Whether a setting has its value, and takes no further one. -/
def holds (line : CommandLine) : Setting → Bool
  | .url => line.url.isSome
  | .config => line.config.isSome
  | .options => line.options.isSome
  | .prompt => line.prompt.isSome
  | .method => line.method.isSome
  | .field => line.field.isSome
  | .post => false
  | .hello => line.hello.isSome
  | .tabWidth => line.tabWidth.isSome
  | .timeout => line.timeout.isSome
  | .dumpHtml => line.dumpHtml.isSome

/-- The command line with the value of a setting. -/
def assign (line : CommandLine) (setting : Setting) (value : Text) :
    Except UsageError CommandLine :=
  match setting with
  | .url => .ok { line with url := some value }
  | .config => .ok { line with config := some value }
  | .options => .ok { line with options := some value }
  | .prompt => .ok { line with prompt := some value }
  | .method => .ok { line with method := some value }
  | .field => .ok { line with field := some value }
  | .post =>
    match postField value with
    | .ok pair => .ok { line with post := line.post ++ [pair] }
    | .error fault => .error (.badValue (some (postReason value fault)))
  | .hello => .ok { line with hello := some value }
  | .tabWidth => do pure { line with tabWidth := some (← count value) }
  | .timeout => do pure { line with timeout := some (← count value) }
  | .dumpHtml => .ok { line with dumpHtml := some value }

/-- Gives a setting its value. A value that comes twice is found before a value that is bad. -/
def give (line : CommandLine) (setting : Setting) (value : Text) :
    Except UsageError CommandLine :=
  if line.holds setting then .error .repeatedArgument else line.assign setting value

/-- Raises a flag. -/
def raise (line : CommandLine) : Flag → Except UsageError CommandLine
  | .submitOnLoad =>
    if line.submitOnLoad then .error .repeatedArgument else .ok { line with submitOnLoad := true }
  | .allowEmpty =>
    if line.allowEmpty then .error .repeatedArgument else .ok { line with allowEmpty := true }
  | .disableInput =>
    if line.disableInput then .error .repeatedArgument else .ok { line with disableInput := true }
  | .noTheme =>
    if line.noTheme then .error .repeatedArgument else .ok { line with noTheme := true }
  | .noColor =>
    if line.noColor then .error .repeatedArgument else .ok { line with noColor := true }
  | .init => if line.init then .error .repeatedArgument else .ok { line with init := true }
  | .help => .error .help
  | .version => .error .version

/-- A command line that is being read: the setting that is still to be given its value, with that
value once it is there, and whether only values may follow. -/
structure Reading where
  line : CommandLine := {}
  pending : Option (Setting × Option Text) := none
  urlMet : Bool := false
  valuesOnly : Bool := false

namespace Reading

/-- Gives the pending setting its value. -/
def resolve (r : Reading) : Except UsageError Reading :=
  match r.pending with
  | none => .ok r
  | some (_, none) => .error .missingValue
  | some (setting, some value) => do
    pure { r with line := ← r.line.give setting value, pending := none }

def meetFlag (r : Reading) (flag : Flag) : Except UsageError Reading := do
  let r ← r.resolve
  pure { r with line := ← r.line.raise flag }

/-- Meets a setting, with a value if that is in the same argument. -/
def meetSetting (r : Reading) (setting : Setting) (value : Option Text) :
    Except UsageError Reading := do
  let r ← r.resolve
  match value with
  | some value => pure { r with line := ← r.line.give setting value }
  | none => pure { r with pending := some (setting, none) }

/-- Meets the letters of an argument. What follows the letter of a setting is its value. -/
def meetLetters : Text → Reading → Except UsageError Reading
  | [], r => .ok r
  | letter :: rest, r =>
    match short? letter with
    | none => .error .unknownArgument
    | some (.flag flag) => do meetLetters rest (← r.meetFlag flag)
    | some (.setting setting) =>
      r.meetSetting setting (match rest with
        | [] => none
        | '=' :: value => some value
        | value => some value)

/-- Meets an argument by its long name, with what follows the first `=` in it. -/
def meetName (r : Reading) (name : Text) (value : Option Text) : Except UsageError Reading :=
  match long? name, value with
  | none, _ => .error .unknownArgument
  | some (.flag flag), none => r.meetFlag flag
  | some (.flag _), some _ => .error .surplusValue
  | some (.setting setting), value => r.meetSetting setting value

/-- Meets a value: that of the pending setting, or the url. -/
def meetValue (r : Reading) (value : Text) : Except UsageError Reading :=
  match r.pending, r.valuesOnly with
  | some (setting, none), false => .ok { r with pending := some (setting, some value) }
  | _, _ =>
    if r.urlMet then .error .unknownArgument
    else do
      let r ← r.resolve
      pure { r with pending := some (.url, some value), urlMet := true }

/-- Meets an argument. After `--` all of them are values. -/
def meet (r : Reading) (argument : Text) : Except UsageError Reading :=
  if r.valuesOnly then r.meetValue argument
  else match argument with
    | ['-', '-'] => .ok { r with valuesOnly := true }
    | '-' :: '-' :: body =>
      match Text.cut? '=' body with
      | some (name, value) => r.meetName name (some value)
      | none => r.meetName body none
    | '-' :: letter :: letters => meetLetters (letter :: letters) r
    | value => r.meetValue value

end Reading

/-- Reads the arguments of a command line. -/
def read (arguments : List Text) : Except UsageError CommandLine := do
  let r ← arguments.foldlM Reading.meet {}
  pure (← r.resolve).line

/-- The options that a command line sets. A flag that is not raised leaves its option unset. -/
def toOptions (line : CommandLine) : Options where
  formMethod := line.method
  inputFieldName := line.field
  extraPostFields := if line.post.isEmpty then none else some (.ofList line.post)
  promptText := line.prompt
  submitOnLoad := if line.submitOnLoad then some true else none
  helloMessage := line.hello
  themeEnabled := if line.noTheme then some false else none
  allowEmptyInput := if line.allowEmpty then some true else none
  tabWidth := line.tabWidth
  inputDisabled := if line.disableInput then some true else none

end CommandLine
end RemoteTerminal
