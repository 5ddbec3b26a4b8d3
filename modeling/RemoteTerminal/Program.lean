import RemoteTerminal.CommandLine.Usage
import RemoteTerminal.Config.Template
import RemoteTerminal.Host.Run
import RemoteTerminal.Http.Exchange

/-!
The program: what a command line, a tree of files, an environment, typed lines and a network come
to. `prepare` settles everything that a run starts from, `run` carries it out, and `execute` is the
whole program, with its exit code.
-/
namespace RemoteTerminal.Program

/-- What surrounds a run. -/
structure Surroundings where
  files : Files
  working : Place
  environment : Environment

/-- What a run starts from. -/
structure Start where
  url : Text
  timeoutSeconds : Nat
  options : Options
  console : Console

/-- The paths that a run may read or write. -/
def paths (environment : Environment) (line : CommandLine) : List Text :=
  configFileName :: (userConfigPath environment).toList ++ line.config.toList ++
    line.dumpHtml.toList

/-- The url of a run: the one on the command line, else that of the configuration. A blank one is
none. -/
def urlOf (line : CommandLine) (config : Config) : Except HostError Text :=
  match (line.url.or config.endpoint.url).filter fun url => !url.blank with
  | some url => .ok url
  | none => .error (.config (.unfit .noUrl))

/-- The options of a run, from three layers: the configuration, the JSON text on the command line,
and its flags. -/
def optionsOf (line : CommandLine) (config : Config) : Except HostError Options := do
  let given ← match line.options with
    | none => .ok .unset
    | some json => (Options.ofJson json).mapError fun error => .config (.options error)
  pure ((config.terminal.overlay given).overlay line.toOptions)

/-- Settles what a run starts from. An answer is given at least a second. -/
def prepare (s : Surroundings) (line : CommandLine) (interactive : Bool) :
    Except HostError Start := do
  let (config, _) ← (Config.load s.files s.working s.environment line.config).mapError .config
  let url ← urlOf line config
  let options ← optionsOf line config
  pure {
    url
    timeoutSeconds := max (line.timeout.getD config.endpoint.timeoutSeconds) 1
    options
    console := {
      color := config.display.color && !line.noColor
      interactive
      prompt := (options.promptText.bind normalizePrompt).getD [] } }

def Start.widget (start : Start) (height : Nat) : Widget :=
  Widget.start start.url start.options height true

/-- What a run has come to: what was printed, on the two streams, without what is logged; the files,
the network, and the fault for which it failed. -/
structure Report (σ : Type) where
  out : Text := []
  err : Text := []
  files : Files
  network : σ
  fault : Option HostError := none

/-- What is said of a document that was placed. -/
def placedMessage : Config.Placed → Text
  | .created path => "wrote default config to ".toList ++ path ++ ['\n']
  | .present path => "config already exists at ".toList ++ path ++ ['\n']

/-- Places the default configuration, and does nothing else. -/
def placeDefaults {σ : Type} (s : Surroundings) (network : σ) : Report σ :=
  match Config.place s.files s.working s.environment with
  | (.ok placed, files) => { out := placedMessage placed, files, network }
  | (.error error, files) => { files, network, fault := some (.config error) }

/-- The files after a run: where a document is asked for, it is written. -/
def keep (s : Surroundings) (line : CommandLine) (widget : Widget) : Except FileFault Files :=
  match line.dumpHtml with
  | none => .ok s.files
  | some path => s.files.write s.working path (Bytes.encode widget.session.document)

/-- Carries a command line out over a network, with the bytes that are typed, not at a terminal. -/
def run {σ : Type} (network : Http.Network σ) (stamp : Text) (state : σ) (s : Surroundings)
    (typed : Bytes) (line : CommandLine) : Report σ :=
  if line.init then placeDefaults s state
  else match prepare s line false with
    | .error fault => { files := s.files, network := state, fault := some fault }
    | .ok start =>
      let transport : Host.Transport σ := fun state request =>
        let (result, state) := Http.send network start.timeoutSeconds stamp state request
        (some (.answered result), state)
      let progress := Host.run transport state (start.widget Console.usualHeight)
        (inputLines typed)
      let report : Report σ := {
        out := (start.console.run progress.host.widget.panel.signals).2
        err := progress.host.notices start.console
        files := s.files
        network := progress.transport
        fault := progress.fault.map .file }
      if report.fault.isSome then report
      else match keep s line progress.host.widget with
        | .ok files => { report with files }
        | .error fault => { report with fault := some (.file fault) }

/-- What is said of a run that ended with a fault. -/
def faultMessage (line : CommandLine) (fault : HostError) : Text :=
  let console : Console := { color := !line.noColor, interactive := false, prompt := [] }
  console.error fault.message

/-- The whole program, and its exit code. -/
def execute {σ : Type} (network : Http.Network σ) (stamp : Text) (state : σ) (s : Surroundings)
    (typed : Bytes) (arguments : List Text) : Report σ × Nat :=
  match CommandLine.read arguments with
  | .error error =>
    if error.isFault then ({ err := error.message, files := s.files, network := state }, 2)
    else ({ out := error.message, files := s.files, network := state }, 0)
  | .ok line =>
    let report := run network stamp state s typed line
    match report.fault with
    | none => (report, 0)
    | some fault => ({ report with err := report.err ++ faultMessage line fault }, 1)

end RemoteTerminal.Program
