import RemoteTerminal.Text

/-!
The one theme: light text on black, in letters of one width. It speaks to two surfaces, as style
declarations to markup and as colors to a console.
-/
namespace RemoteTerminal

/-- A style property and its value. -/
abbrev Declaration := Text × Text

/-- The parts of the widget that a theme dresses; `text` is whatever bears text. -/
inductive StyleTarget where
  | container
  | form
  | input
  | text
  deriving DecidableEq, Repr

/-- What a console colors. -/
inductive Token where
  | text
  | background
  | echo
  | error
  deriving DecidableEq, Repr

/-- The colors in use, by their place in the palette of a console. -/
inductive Color where
  | black
  | grey
  | white
  | red
  | yellow
  deriving DecidableEq, Repr

def Color.palette : Color → Nat
  | .black => 0
  | .grey => 7
  | .red => 9
  | .yellow => 11
  | .white => 15

def Color.name : Color → Text
  | .black => "black".toList
  | .grey => "grey".toList
  | .white => "white".toList
  | .red => "red".toList
  | .yellow => "yellow".toList

structure Theme where
  name : Text
  declarations : StyleTarget → List Declaration
  color : Token → Color

def declare (pairs : List (String × String)) : List Declaration :=
  pairs.map fun (property, value) => (property.toList, value.toList)

/-- Light grey on black, without borders or padding. -/
def Theme.unix : Theme where
  name := "unix".toList
  declarations
    | .container => declare [("border", "none"), ("background-color", "black")]
    | .form => declare [("padding", "0"), ("margin", "0")]
    | .input => declare
      [("border", "none"), ("background-color", "black"), ("padding", "0"), ("margin", "0")]
    | .text => declare
      [("color", "lightgrey"), ("font-family", "monospace"), ("font-size", "1em"),
       ("line-height", "1.3em")]
  color
    | .text => .grey
    | .background => .black
    | .echo => .white
    | .error => .red

/-- Declarations as the value of a style attribute. -/
def inlineStyle (declarations : List Declaration) : Text :=
  List.intercalate [' '] (declarations.map fun (property, value) =>
    property ++ ": ".toList ++ value ++ [';'])

end RemoteTerminal
