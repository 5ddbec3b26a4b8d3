import RemoteTerminal.Tree
import RemoteTerminal.Number.Binary64
import RemoteTerminal.Number.Shortest

/-!
The tree of a JSON text, with the faults of the text where they lie. A reader that wants a string
or a number checks more of it than one that passes over it, so a leaf holds what both of them find.
-/
namespace RemoteTerminal.Json

/-- A number: an integer of 64 bits with or without a sign, or a fraction. -/
inductive Numeral where
  | integer (value : Int)
  | real (value : Binary64)
  deriving DecidableEq, Repr

/-- A leaf as read, and as passed over. -/
structure Leaf (α : Type) where
  value : Except Fault α
  skip : Except Fault Unit

namespace Leaf

def sound {α : Type} (a : α) : Leaf α := ⟨.ok a, .ok ()⟩

/-- A leaf that is at fault for every reader. -/
def lost {α : Type} (fault : Fault) : Leaf α := ⟨.error fault, .error fault⟩

end Leaf

/-- A JSON tree. A level that is at fault for every reader is the last of its list or record. -/
inductive Node where
  | broken (fault : Fault)
  | null
  | boolean (value : Bool)
  | number (leaf : Leaf Numeral)
  | text (leaf : Leaf Text)
  | list (items : List Node) (close : Except Fault Unit)
  | record (members : List (Leaf Text × Node)) (close : Except Fault Unit)

/-- How deep lists and records may lie inside a value that is read whole. -/
def scanDepth : Nat := 126

namespace Node

mutual

/-- Passes over a tree. -/
def skip : Node → Except Fault Unit
  | .broken fault => .error fault
  | .null | .boolean _ => .ok ()
  | .number leaf => leaf.skip
  | .text leaf => leaf.skip
  | .list items close => do
    skipItems items
    close
  | .record members close => do
    skipMembers members
    close

def skipItems : List Node → Except Fault Unit
  | [] => .ok ()
  | item :: items => do
    skip item
    skipItems items

def skipMembers : List (Leaf Text × Node) → Except Fault Unit
  | [] => .ok ()
  | (key, value) :: members => do
    key.skip
    skip value
    skipMembers members

end

mutual

/-- Reads all of a tree that is at most `depth` levels of lists and records deep. -/
def scan (depth : Nat) : Node → Except Fault Unit
  | .broken fault => .error fault
  | .null | .boolean _ => .ok ()
  | .number leaf => leaf.value.map fun _ => ()
  | .text leaf => leaf.value.map fun _ => ()
  | .list items close =>
    if depth = 0 then .error .malformed
    else do
      scanItems (depth - 1) items
      close
  | .record members close =>
    if depth = 0 then .error .malformed
    else do
      scanMembers (depth - 1) members
      close

def scanItems (depth : Nat) : List Node → Except Fault Unit
  | [] => .ok ()
  | item :: items => do
    scan depth item
    scanItems depth items

def scanMembers (depth : Nat) : List (Leaf Text × Node) → Except Fault Unit
  | [] => .ok ()
  | (key, value) :: members => do
    discard key.value
    scan depth value
    scanMembers depth members

end

/-- Members up to the first whose key does not read, and how they end. -/
def readable : List (Leaf Text × Node) → Except Fault Unit →
    List (Text × Node) × Except Fault Unit
  | [], close => ([], close)
  | (key, value) :: members, close =>
    match key.value with
    | .error fault => ([], .error fault)
    | .ok name =>
      let (rest, close) := readable members close
      ((name, value) :: rest, close)

def shape : Node → Shape Node
  | .broken fault => .broken fault
  | .null => .null
  | .boolean value => .boolean value
  | .number leaf =>
    match leaf.value with
    | .error fault => .broken fault
    | .ok (.integer value) => .integer value
    | .ok (.real value) => .real value.compactText
  | .text leaf =>
    match leaf.value with
    | .error fault => .broken fault
    | .ok value => .text value
  | .list items close => .list items close
  | .record members close =>
    let (members, close) := readable members close
    .record members close

instance : Tree Node where
  shape := shape
  skip := skip
  scan := scan scanDepth
  surplus := .error .malformed

end Node

/-- A JSON text: its tree, and whether nothing but white space follows it. -/
structure Document where
  root : Node
  close : Except Fault Unit

end RemoteTerminal.Json
