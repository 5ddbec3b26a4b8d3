import RemoteTerminal.Widget
import RemoteTerminal.Console
import RemoteTerminal.Files

/-!
The console host: it feeds typed lines to a widget. A line waits while a request hides the input
line. The host meets one thing at a time, a line, the end of the lines or an event of the widget,
and submits after each what it can; it is done when the lines have ended and nothing is in flight.
-/
namespace RemoteTerminal

/-- A widget with the lines that wait for it. `warned` tells whether a line was ignored, and
`warnings` holds what was printed for that, apart from the panel. -/
structure Host where
  widget : Widget
  queued : List Text := []
  inputOpen : Bool := true
  warned : Bool := false
  warnings : List Text := []
  deriving DecidableEq

namespace Host

/-- Submits a line. Where it is not accepted, the prompt is due again. -/
def submitLine (w : Widget) (line : Text) : Widget :=
  match (w.type line).submit true with
  | (w, true) => w
  | (w, false) => w.onPanel fun p => p.signal (.prompt p.input)

def ignoredWarning : Text := "input is disabled; typed lines are ignored".toList

/-- Ignores a line. The first one is answered with a warning. -/
def ignoreLine (h : Host) : Host :=
  { h with
    warned := true
    warnings := if h.warned then h.warnings else h.warnings ++ [ignoredWarning] }

/-- Submits the given lines as long as the input line is visible, and queues the others. Lines for
a disabled input line are ignored. -/
def submitLines : List Text → Host → Host
  | [], h => { h with queued := [] }
  | line :: lines, h =>
    if !h.widget.input.visible then { h with queued := line :: lines }
    else if h.widget.input.disabled then submitLines lines h.ignoreLine
    else submitLines lines { h with widget := submitLine h.widget line }

/-- Submits what waits. -/
def pump (h : Host) : Host := submitLines h.queued h

/-- Meets a typed line. -/
def meetLine (h : Host) (line : Text) : Host := { h with queued := h.queued ++ [line] }.pump

/-- Meets the end of the lines. -/
def meetEnd (h : Host) : Host := { h with inputOpen := false }.pump

/-- Meets an event of the widget. -/
def meetEvent (h : Host) (event : Event) : Host :=
  { h with widget := h.widget.handle event }.pump

def done (h : Host) : Bool := !h.inputOpen && h.widget.inFlight = 0

/-- What is printed apart from the panel after the first `shown` warnings. -/
def noticesAfter (h : Host) (shown : Nat) (console : Console) : Text :=
  (h.warnings.drop shown).flatMap console.warning

/-- All that is printed apart from the panel. -/
def notices (h : Host) (console : Console) : Text := h.noticesAfter 0 console

end Host

/-- The lines that bytes hold. A line ends before a line feed, and before a carriage return that
comes right before one; bytes that are not text make a line that cannot be read. -/
def inputLines (bytes : Bytes) : List (Except FileFault Text) :=
  let pieces := bytes.splitOn 10
  let closed := pieces.dropLast.map fun piece =>
    if piece.getLast? = some 13 then piece.dropLast else piece
  let open? := pieces.getLast?.filter fun piece => !piece.isEmpty
  (closed ++ open?.toList).map Files.textOf

end RemoteTerminal
