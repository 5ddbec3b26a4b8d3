import RemoteTerminal.Main.Disk
import RemoteTerminal.Main.Wire
import RemoteTerminal.Program

/-!
The program at work: real files, a real network, and lines from standard input as they are typed.
-/
namespace RemoteTerminal.Live

/-- A host at work: the console that shows it, and how many of its signals and warnings are on the
screen. -/
structure Screen where
  host : Host
  console : Console
  shown : Nat := 0
  warned : Nat := 0

def put (stream : IO.FS.Stream) (t : Text) : IO Unit := do
  stream.putStr (String.ofList t)
  stream.flush

/-- Shows what is new. -/
def refresh (screen : Screen) : IO Screen := do
  let signals := screen.host.widget.panel.signals
  let (console, printed) := screen.console.run (signals.drop screen.shown)
  put (← IO.getStdout) printed
  put (← IO.getStderr) (screen.host.noticesAfter screen.warned console)
  pure { screen with
    console, shown := signals.length, warned := screen.host.warnings.length }

/-- Answers the requests that run, and those that follow from the answers. -/
partial def answer (seconds : Nat) (screen : Screen) : IO Screen := do
  let screen ← refresh screen
  match screen.host.widget.running with
  | [] => pure screen
  | task :: _ =>
    let result ← Wire.send seconds task.request
    let widget := screen.host.widget.finish task (.answered result)
    let host := Host.Progress.meetEvents widget.queue.length { screen.host with widget }
    answer seconds { screen with host }

/-- The bytes of the next typed line, after those in `got`, the last first. -/
partial def typedBytes (stream : IO.FS.Stream) (got : Bytes) : IO Bytes := do
  match (← stream.read 1).toList with
  | b :: _ => if b = 10 then pure (b :: got).reverse else typedBytes stream (b :: got)
  | [] => pure got.reverse

/-- The next typed line; none at the end of the lines. -/
def nextLine (stream : IO.FS.Stream) : IO (Option (Except FileFault Text)) := do
  try pure (inputLines (← typedBytes stream [])).head?
  catch error => pure (some (.error (.other error.toString.toList)))

/-- Meets typed lines to their end. -/
partial def meetLines (seconds : Nat) (screen : Screen) : IO (Screen × Option FileFault) := do
  let screen ← answer seconds screen
  match ← nextLine (← IO.getStdin) with
  | none =>
    let host := { screen.host with inputOpen := false }
    pure (← refresh { screen with host.widget := host.meetEnd.widget.drain }, none)
  | some (.error fault) => pure (screen, some fault)
  | some (.ok line) => meetLines seconds { screen with host := screen.host.meetLine line }

/-- The environment, as far as it counts. -/
def environment : IO Environment := do
  let found ← Environment.names.mapM fun name => do
    pure ((← IO.getEnv (String.ofList name)).map fun value => (name, value.toList))
  pure (.ofVariables (found.filterMap id))

/-- Shows what a report holds. -/
def present {σ : Type} (report : Program.Report σ) : IO Unit := do
  put (← IO.getStdout) report.out
  put (← IO.getStderr) report.err

/-- Carries a command line out. -/
def run (line : CommandLine) : IO (Option HostError) := do
  let env ← environment
  let working ← Disk.working
  let surroundings : Program.Surroundings :=
    { files := ← Disk.gather working (Program.paths env line), working, environment := env }
  if line.init then
    let report := Program.placeDefaults surroundings ()
    match ← Disk.save surroundings.files report.files with
    | some fault => pure (some (.config (.file fault)))
    | none =>
      present report
      pure report.fault
  else
    let interactive := (← (← IO.getStdin).isTty) && (← (← IO.getStdout).isTty)
    match Program.prepare surroundings line interactive with
    | .error fault => pure (some fault)
    | .ok start =>
      let widget := start.widget Console.usualHeight
      let (screen, fault) ← meetLines start.timeoutSeconds
        { host := { widget }, console := start.console }
      match fault, Program.keep surroundings line screen.host.widget with
      | some fault, _ | none, .error fault => pure (some (.file fault))
      | none, .ok files => pure ((← Disk.save surroundings.files files).map .file)

end RemoteTerminal.Live

open RemoteTerminal in
def main (arguments : List String) : IO UInt32 := do
  match CommandLine.read (arguments.map String.toList) with
  | .error error =>
    if error.isFault then
      Live.put (← IO.getStderr) error.message
      pure 2
    else
      Live.put (← IO.getStdout) error.message
      pure 0
  | .ok line =>
    match ← Live.run line with
    | none => pure 0
    | some fault =>
      Live.put (← IO.getStderr) (Program.faultMessage line fault)
      pure 1
