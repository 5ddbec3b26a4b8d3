import RemoteTerminal.Text

/-!
The line in which commands are typed. It takes the focus only while it is visible and enabled.
-/
namespace RemoteTerminal

/-- The state of the input line. `scrollSyncs` counts how often it was focused for a moment only, to
keep the end of the transcript in view. -/
structure InputLine where
  value : Text := []
  visible : Bool := true
  focused : Bool := false
  disabled : Bool := false
  scrollSyncs : Nat := 0
  deriving DecidableEq, Repr, Inhabited

namespace InputLine

/-- Puts a typed value in; a disabled line keeps what it has. -/
def setValue (line : InputLine) (value : Text) : InputLine :=
  if line.disabled then line else { line with value }

/-- Whether the next command may be typed. -/
def ready (line : InputLine) : Bool := line.visible && line.focused && !line.disabled

def clear (line : InputLine) : InputLine := { line with value := [] }

def hide (line : InputLine) : InputLine := { line with visible := false, focused := false }

def reveal (line : InputLine) : InputLine := { line with visible := true }

/-- Gives the line the focus if it can take it, and takes it away otherwise. -/
def focus (line : InputLine) : InputLine := { line with focused := line.visible && !line.disabled }

def disable (line : InputLine) : InputLine := { line with disabled := true, focused := false }

/-- Enables and focuses a disabled line for a moment. -/
def pulse (line : InputLine) : InputLine :=
  if !line.disabled then line
  else
    let lit := { line with disabled := false }.focus
    let counted := if lit.focused then { lit with scrollSyncs := lit.scrollSyncs + 1 } else lit
    counted.disable

end InputLine
end RemoteTerminal
