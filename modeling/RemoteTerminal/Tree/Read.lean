import RemoteTerminal.Tree
import RemoteTerminal.Fields
import RemoteTerminal.Options

/-!
Readers of single values, and of records with fixed fields. A record is met as members, each under
one of the spellings of its field, or as a list, whose items are the fields in order.
-/
namespace RemoteTerminal.Read

variable {ν : Type} [Tree ν]

/-- Holds a level's kind against it, or passes its fault on. -/
def refuse {α : Type} (level : Shape ν) (expected : Expected) : Except ReadError α :=
  let kind (found : Found) := .error (.refused (.kind found expected))
  match level with
  | .broken fault => .error (.broken fault)
  | .null => kind .null
  | .boolean value => kind (.boolean value)
  | .integer value => kind (.integer value)
  | .real shown => kind (.real shown)
  | .text value => kind (.text value)
  | .list .. => kind .list
  | .record .. => kind .record

def passing {α : Type} (r : Except Fault α) : Except ReadError α := r.mapError .broken

/-- A value that may be null. -/
def optional {α : Type} (read : ν → Except ReadError α) (v : ν) : Except ReadError (Option α) :=
  match (Tree.shape v : Shape ν) with
  | .null => .ok none
  | _ => (read v).map some

def text (v : ν) : Except ReadError Text :=
  match (Tree.shape v : Shape ν) with
  | .text value => .ok value
  | level => refuse level .text

def boolean (v : ν) : Except ReadError Bool :=
  match (Tree.shape v : Shape ν) with
  | .boolean value => .ok value
  | level => refuse level .boolean

/-- A count of 64 bits. -/
def count (expected : Expected) (v : ν) : Except ReadError Nat :=
  match (Tree.shape v : Shape ν) with
  | .integer value =>
    if 0 ≤ value then .ok value.toNat else .error (.refused (.range value expected))
  | level => refuse level expected

def fieldMembers : List (Text × ν) → Fields → Except ReadError Fields
  | [], held => .ok held
  | (name, v) :: rest, held => do fieldMembers rest (held.insert name (← text v))

/-- Texts by name; of two members of one name the later counts. -/
def fields (v : ν) : Except ReadError Fields :=
  match (Tree.shape v : Shape ν) with
  | .record members close => do
    let held ← fieldMembers members .empty
    passing close
    pure held
  | level => refuse level .fields

/-- A height: a count of pixels or a text. The whole of the value is read before it is judged. -/
def height (v : ν) : Except ReadError Height := do
  passing (Tree.scan v)
  match (Tree.shape v : Shape ν) with
  | .integer value =>
    if 0 ≤ value ∧ value < Height.bound then .ok (.pixels value.toNat)
    else .error (.refused .noHeight)
  | .text value => .ok (.ofText value)
  | _ => .error (.refused .noHeight)

/-- How a record `σ` with fields `φ` is read: its fields in order, the spellings of each, the first
of which names it, and what the value of a field does to the record. -/
structure Layout (ν φ σ : Type) where
  expected : Expected
  order : List φ
  spellings : φ → List Text
  assign : φ → ν → σ → Except ReadError σ

namespace Layout

variable {φ σ : Type} [DecidableEq φ]

/-- The field that a key spells. -/
def fieldOf (layout : Layout ν φ σ) (key : Text) : Option φ :=
  layout.order.find? fun field => (layout.spellings field).contains key

def name (layout : Layout ν φ σ) (field : φ) : Text := ((layout.spellings field).head?).getD []

/-- Reads members from left to right. A key of no field is passed over with its value, and a field
that was met before, under whichever spelling, is refused. -/
def readMembers (layout : Layout ν φ σ) :
    List (Text × ν) → List φ → σ → Except ReadError σ
  | [], _, held => .ok held
  | (key, v) :: rest, met, held =>
    match layout.fieldOf key with
    | none => do
      passing (Tree.skip v)
      readMembers layout rest met held
    | some field =>
      if met.contains field then .error (.refused (.repeated (layout.name field)))
      else do
        let held ← layout.assign field v held
        readMembers layout rest (field :: met) held

/-- Reads items into the fields in order, and returns the items that are left over. -/
def readItems (layout : Layout ν φ σ) :
    List φ → List ν → σ → Except ReadError (σ × List ν)
  | field :: order, v :: rest, held => do readItems layout order rest (← layout.assign field v held)
  | _, rest, held => .ok (held, rest)

/-- Reads a record over what `start` holds. -/
def read (layout : Layout ν φ σ) (start : σ) (v : ν) : Except ReadError σ :=
  match (Tree.shape v : Shape ν) with
  | .record members close => do
    let held ← layout.readMembers members [] start
    passing close
    pure held
  | .list items close => do
    let (held, surplus) ← layout.readItems layout.order items start
    passing (if surplus.isEmpty then close else Tree.surplus ν)
    pure held
  | level => refuse level layout.expected

end Layout
end RemoteTerminal.Read
