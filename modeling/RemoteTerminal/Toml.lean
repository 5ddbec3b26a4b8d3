import RemoteTerminal.Tree
import RemoteTerminal.Number.Shortest

/-!
The tree of a TOML document. Every tree of this kind is well formed: a document that is not does
not parse. A date or a time reads as a record with one member that holds its text.
-/
namespace RemoteTerminal.Toml

/-- A fraction, or what stands past the fractions. -/
inductive Real where
  | finite (value : Binary64)
  | infinite (negative : Bool)
  | notANumber
  deriving DecidableEq, Repr

def Real.shown : Real → Text
  | .finite value => value.plainText
  | .infinite negative => (if negative then "-inf" else "inf").toList
  | .notANumber => "NaN".toList

inductive Value where
  | boolean (value : Bool)
  | integer (value : Int)
  | real (value : Real)
  | text (value : Text)
  | moment (shown : Text)
  | list (items : List Value)
  | table (members : List (Text × Value))

/-- The name of the one member of a date or time. -/
def momentName : Text := "$__toml_private_datetime".toList

def Value.shape : Value → Shape Value
  | .boolean value => .boolean value
  | .integer value => .integer value
  | .real value => .real value.shown
  | .text value => .text value
  | .moment shown => .record [(momentName, .text shown)] (.ok ())
  | .list items => .list items (.ok ())
  | .table members => .record members (.ok ())

instance : Tree Value where
  shape := Value.shape
  skip _ := .ok ()
  scan _ := .ok ()
  surplus := .ok ()

end RemoteTerminal.Toml
