import RemoteTerminal.Transcript
import RemoteTerminal.InputLine
import RemoteTerminal.Theme
import RemoteTerminal.Options.Settings

/-!
The panel: the transcript and the input line below it. Each change is signalled to whatever surface
shows the panel; the signals are kept in the order in which they were given.
-/
namespace RemoteTerminal

/-- What a surface is told: the theme to put on, a new entry, the state of the input line, that
the prompt is due once more, and that the start is over. -/
inductive Signal where
  | theme
  | entry (entry : Entry)
  | input (line : InputLine)
  | prompt (line : InputLine)
  | loaded (hook : LoadHook)
  deriving DecidableEq, Repr

structure Panel where
  transcript : Transcript := []
  input : InputLine := {}
  signals : List Signal := []
  deriving DecidableEq, Repr, Inhabited

namespace Panel

def signal (p : Panel) (s : Signal) : Panel := { p with signals := p.signals ++ [s] }

def push (p : Panel) (entry : Entry) : Panel :=
  { p with transcript := p.transcript ++ [entry] }.signal (.entry entry)

def signalInput (p : Panel) : Panel := p.signal (.input p.input)

/-- Shows output and makes the input line ready. A disabled line is brought into view by a moment
of focus. -/
def append (p : Panel) (settings : Settings) (output : Text) : Panel :=
  let rows := Row.ofOutput settings.tabWidth settings.promptText.isSome output
  let p := p.push ⟨.output, rows⟩
  let line := p.input.reveal.clear.focus
  { p with input := if settings.inputDisabled then line.pulse else line }.signalInput

/-- Shows a command after the prompt. -/
def echo (p : Panel) (settings : Settings) (command : Text) : Panel :=
  p.push ⟨.echo, [.literal (settings.promptText.getD [] ++ command.trim)]⟩

/-- Shows a welcome, which counts as markup as it is. -/
def greet (p : Panel) (message : Text) : Panel := p.push ⟨.greeting, [.literal message]⟩

/-- Puts a typed value into the input line. -/
def type (p : Panel) (value : Text) : Panel := { p with input := p.input.setValue value }

/-- Hides the input line and clears it. -/
def hideInput (p : Panel) : Panel := { p with input := p.input.hide.clear }.signalInput

def focusInput (p : Panel) : Panel := { p with input := p.input.focus }.signalInput

def disableInput (p : Panel) : Panel := { p with input := p.input.disable }.signalInput

def applyTheme (p : Panel) : Panel := p.signal .theme

end Panel
end RemoteTerminal
