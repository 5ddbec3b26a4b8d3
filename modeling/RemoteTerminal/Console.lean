import RemoteTerminal.Panel
import RemoteTerminal.Text.Digits

/-!
A console as the surface of a panel. Entries are printed as they come, and on an interactive console
the prompt is printed when a command may be typed. The echo of a command is printed over the line in
which it was typed, so that it stands on the screen once.
-/
namespace RemoteTerminal

/-- A console: whether it shows colors, whether commands are typed at it, its prompt, the theme put
on it, and whether the prompt is on the screen. -/
structure Console where
  color : Bool
  interactive : Bool
  prompt : Text
  themed : Bool := false
  promptShown : Bool := false
  deriving DecidableEq, Repr

namespace Console

/-- A control sequence: the escape character, an opening bracket, and the rest. -/
def control (rest : String) : Text := '\x1b' :: '[' :: rest.toList

def lineUp : Text := control "1A"
def lineStart : Text := control "1G"
def clearLine : Text := control "2K"
def bold : Text := control "1m"
def plain : Text := control "0m"
def usualForeground : Text := control "39m"
def usualBackground : Text := control "49m"

def foreground (color : Color) : Text := control "38;5;" ++ Text.decimal color.palette ++ ['m']

def background (color : Color) : Text := control "48;5;" ++ Text.decimal color.palette ++ ['m']

/-- A text in the color of a token: the theme's colors, or without a theme the one of errors. -/
def paint (c : Console) (text : Text) (token : Token) : Text :=
  if text.isEmpty then []
  else if c.color && c.themed then
    background (Theme.unix.color .background) ++ foreground (Theme.unix.color token) ++ text ++
      usualBackground ++ usualForeground
  else if c.color && token = .error then foreground .red ++ text ++ usualForeground
  else text

/-- What starts the line of a failed request. -/
def errorMark : Text := "ERROR: ".toList

def tokenOf (kind : EntryKind) (row : Row) : Token :=
  match kind with
  | .echo => .echo
  | .output => if errorMark.isPrefixOf row.text then .error else .text
  | .greeting => .text

def printRow (c : Console) (kind : EntryKind) (row : Row) : Text :=
  c.paint row.text (tokenOf kind row) ++ if row.breaks then ['\n'] else []

/-- Prints an entry. A prompt on the screen is cleared first; the line typed after it has ended, so
an echo goes back up to it. -/
def printEntry (c : Console) (entry : Entry) : Text :=
  let makeRoom :=
    if c.promptShown then
      (if entry.kind = .echo then lineUp else []) ++ lineStart ++ clearLine
    else []
  makeRoom ++ entry.rows.flatMap (c.printRow entry.kind)

/-- Prints the prompt if a command may be typed and none is on the screen. -/
def showPrompt (c : Console) (line : InputLine) : Console × Text :=
  if !c.interactive || c.promptShown || !line.ready then (c, [])
  else ({ c with promptShown := true }, c.paint c.prompt .echo)

/-- Takes in one signal, and tells what is printed for it. -/
def step (c : Console) : Signal → Console × Text
  | .theme => ({ c with themed := true }, [])
  | .entry entry => ({ c with promptShown := false }, c.printEntry entry)
  | .input line => c.showPrompt line
  | .prompt line => { c with promptShown := false }.showPrompt line
  | .loaded _ => (c, [])

/-- Takes in signals in order. -/
def run (c : Console) : List Signal → Console × Text
  | [] => (c, [])
  | signal :: signals =>
    let (c, first) := c.step signal
    let (c, rest) := run c signals
    (c, first ++ rest)

/-- A line for whoever runs the program, apart from what the panel shows. -/
def notice (c : Console) (label : String) (color : Color) (message : Text) : Text :=
  let label := if c.color then foreground color ++ bold ++ label.toList ++ plain else label.toList
  '\r' :: label ++ ' ' :: message ++ ['\n']

def warning (c : Console) (message : Text) : Text := c.notice "warning:" .yellow message

def error (c : Console) (message : Text) : Text := c.notice "error:" .red message

/-- The pixels of one row, and the rows of a console of unknown size. -/
def rowHeight : Nat := 16
def usualRows : Nat := 24

/-- The height in pixels of a console of unknown size. -/
def usualHeight : Nat := usualRows * rowHeight

end Console
end RemoteTerminal
