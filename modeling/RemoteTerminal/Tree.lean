import RemoteTerminal.Text.Digits
import RemoteTerminal.Text.Printed

/-!
Trees of values as a reader meets them, level by level. A level may be broken: the text that holds
the tree went wrong there, and a reader who never gets there never learns of it. `Refusal` lists
what a reader may hold against a well-formed tree, and `Refusal.message` is its wording.
-/
namespace RemoteTerminal

/-- How a text fails to hold a tree. -/
inductive Fault where
  | malformed
  | ended
  deriving DecidableEq, Repr

/-- One level of a tree. `close` tells how the end of a list or a record was found. -/
inductive Shape (ν : Type) where
  | broken (fault : Fault)
  | null
  | boolean (value : Bool)
  | integer (value : Int)
  | real (shown : Text)
  | text (value : Text)
  | list (items : List ν) (close : Except Fault Unit)
  | record (members : List (Text × ν)) (close : Except Fault Unit)

/-- A kind of tree. `skip` passes over a tree whatever it holds, `scan` reads all of it without
expecting anything of it, and `surplus` is what a list meets that has more items than its reader
has places. -/
class Tree (ν : Type) where
  shape : ν → Shape ν
  skip : ν → Except Fault Unit
  scan : ν → Except Fault Unit
  surplus : Except Fault Unit

/-- What stood in a place. -/
inductive Found where
  | null
  | boolean (value : Bool)
  | integer (value : Int)
  | real (shown : Text)
  | text (value : Text)
  | list
  | record
  deriving DecidableEq, Repr

/-- What a place is for. -/
inductive Expected where
  | text
  | boolean
  | fields
  | size
  | seconds
  | options
  | endpoint
  | display
  deriving DecidableEq, Repr

/-- What is held against a tree that is well formed. -/
inductive Refusal where
  | kind (found : Found) (expected : Expected)
  | range (found : Int) (expected : Expected)
  | repeated (name : Text)
  | noHeight
  deriving DecidableEq, Repr

/-- Why a tree was not read. -/
inductive ReadError where
  | broken (fault : Fault)
  | refused (refusal : Refusal)
  deriving DecidableEq, Repr

def Found.message : Found → Text
  | .null => "null".toList
  | .boolean value => "boolean `".toList ++ (if value then "true" else "false").toList ++ ['`']
  | .integer value => "integer `".toList ++ Text.signedDecimal value ++ ['`']
  | .real shown => "floating point `".toList ++ shown ++ ['`']
  | .text value => "string ".toList ++ Text.quoted value
  | .list => "sequence".toList
  | .record => "map".toList

def Expected.message : Expected → Text
  | .text => "a string".toList
  | .boolean => "a boolean".toList
  | .fields => "a map".toList
  | .size => "usize".toList
  | .seconds => "u64".toList
  | .options => "struct TerminalOptions".toList
  | .endpoint => "struct EndpointConfig".toList
  | .display => "struct DisplayConfig".toList

def Refusal.message : Refusal → Text
  | .kind found expected =>
    "invalid type: ".toList ++ found.message ++ ", expected ".toList ++ expected.message
  | .range found expected =>
    "invalid value: integer `".toList ++ Text.signedDecimal found ++ "`, expected ".toList ++
      expected.message
  | .repeated name => "duplicate field `".toList ++ name ++ ['`']
  | .noHeight => "data did not match any variant of untagged enum MaxHeightRepr".toList

end RemoteTerminal
