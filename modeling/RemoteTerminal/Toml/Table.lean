import RemoteTerminal.Toml

/-!
How the tables of a document come about. A key with dots makes the tables on its way and may go on
in tables that such keys made; a header opens a table that no header opened before; a doubled
header adds a table to a list. Whatever meets something else is refused.
-/
namespace RemoteTerminal.Toml

/-- What a key holds while the document is read. A table is `implicit` until a header opens it, and
`dotted` if a key with dots made it. -/
inductive Entry where
  | value (value : Value)
  | table (implicit dotted : Bool) (entries : List (Text × Entry))
  | tables (elements : List (List (Text × Entry)))

abbrev Entries := List (Text × Entry)

namespace Entries

def get? (entries : Entries) (key : Text) : Option Entry := entries.lookup key

/-- Puts an entry in the place of the one that the key holds. -/
def replace (entries : Entries) (key : Text) (entry : Entry) : Entries :=
  entries.map fun (k, e) => if k = key then (k, entry) else (k, e)

def remove (entries : Entries) (key : Text) : Entries := entries.filter fun (k, _) => k ≠ key

/-- Changes the table at the end of a path, making the tables on the way that do not exist yet.
`change` gets to know whether a key with dots made the table. -/
def alter {α : Type} (dotted : Bool) (change : Bool → Entries → Option (Entries × α)) :
    List Text → Bool → Entries → Option (Entries × α)
  | [], isDotted, entries => change isDotted entries
  | key :: path, _, entries =>
    match entries.get? key with
    | none => do
      let (inner, a) ← alter dotted change path dotted []
      some (entries ++ [(key, .table true dotted inner)], a)
    | some (.value _) => none
    | some (.tables elements) =>
      match elements.reverse with
      | [] => none
      | last :: before => do
        let (inner, a) ← alter dotted change path false last
        some (entries.replace key (.tables (inner :: before).reverse), a)
    | some (.table implicit isDotted inner) =>
      if dotted && !implicit then none
      else do
        let (inner, a) ← alter dotted change path isDotted inner
        some (entries.replace key (.table implicit isDotted inner), a)

/-- Sets a key of a table, at the end of a path of dotted keys, that holds nothing yet. -/
def assign (entries : Entries) (path : List Text) (key : Text) (value : Value) : Option Entries :=
  (alter true (fun isDotted inner =>
    if isDotted = path.isEmpty then none
    else if (inner.get? key).isSome then none
    else some (inner ++ [(key, .value value)], ())) path false entries).map (·.1)

end Entries

mutual

/-- The value that an entry comes to. -/
def Entry.toValue : Entry → Value
  | .value value => value
  | .table _ _ entries => .table (membersOf entries)
  | .tables elements => .list (elementsOf elements)

def membersOf : List (Text × Entry) → List (Text × Value)
  | [] => []
  | (key, entry) :: entries => (key, entry.toValue) :: membersOf entries

def elementsOf : List (List (Text × Entry)) → List Value
  | [] => []
  | entries :: elements => .table (membersOf entries) :: elementsOf elements

end

/-- What the keys that are being read belong to. -/
inductive Place where
  | root
  | table (path : List Text) (key : Text)
  | element (path : List Text) (key : Text)

/-- A document part-way read: the finished tables, and the one whose keys are being read. -/
structure Draft where
  finished : Entries
  place : Place
  entries : Entries

namespace Draft

def start : Draft := ⟨[], .root, []⟩

/-- Puts the table being read into its place. -/
def close (d : Draft) : Option Entries :=
  match d.place with
  | .root => some d.entries
  | .table path key =>
    (Entries.alter false (fun _ inner =>
      some (inner ++ [(key, .table false false d.entries)], ())) path false d.finished).map (·.1)
  | .element path key =>
    (Entries.alter false (fun _ inner =>
      match inner.get? key with
      | some (.tables elements) =>
        some (inner.replace key (.tables (elements ++ [d.entries])), ())
      | _ => none) path false d.finished).map (·.1)

/-- Opens a table. One that other headers have only passed through goes on with what it holds. -/
def openTable (d : Draft) (path : List Text) (key : Text) : Option Draft := do
  let finished ← d.close
  let (finished, held) ← Entries.alter false (fun _ inner =>
    match inner.get? key with
    | none => some (inner, [])
    | some (.table true false held) => some (inner.remove key, held)
    | some _ => none) path false finished
  some ⟨finished, .table path key, held⟩

/-- Opens a further table of a list. -/
def openElement (d : Draft) (path : List Text) (key : Text) : Option Draft := do
  let finished ← d.close
  let (finished, _) ← Entries.alter false (fun _ inner =>
    match inner.get? key with
    | none => some (inner ++ [(key, .tables [])], ())
    | some (.tables _) => some (inner, ())
    | some _ => none) path false finished
  some ⟨finished, .element path key, []⟩

def assign (d : Draft) (path : List Text) (key : Text) (value : Value) : Option Draft :=
  (d.entries.assign path key value).map fun entries => { d with entries }

end Draft
end RemoteTerminal.Toml
