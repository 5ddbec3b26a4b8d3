import RemoteTerminal.Toml.Quote
import RemoteTerminal.Toml.Scalar
import RemoteTerminal.Toml.Table

/-!
Reading a TOML document into a tree. Main definition: `parse`.
-/
namespace RemoteTerminal.Toml

/-- Lists and inline tables may lie in one another, and keys have parts, up to this many. -/
def greatestDepth : Nat := 79

def isBare (c : Char) : Bool := c.isAlphanum || c = '-' || c = '_'

/-- One part of a key. -/
def keyPart? (t : Text) : Option (Text × Text) :=
  match t with
  | '"' :: rest => basic? (rest.length + 1) rest
  | '\'' :: rest => literal? rest
  | _ =>
    let part := t.takeWhile isBare
    if part.isEmpty then none else some (part, t.dropWhile isBare)

/-- The parts of a key, and what follows the space after it. -/
def keyParts? : Nat → Text → Option (List Text × Text)
  | 0, _ => none
  | fuel + 1, t => do
    let (part, rest) ← keyPart? (skipSpace t)
    match skipSpace rest with
    | '.' :: rest => do
      let (parts, rest) ← keyParts? fuel rest
      some (part :: parts, rest)
    | rest => some ([part], rest)

/-- A key as the path of tables to it, and its last part. -/
def key? (t : Text) : Option (List Text × Text × Text) := do
  let (parts, rest) ← keyParts? greatestDepth t
  some (parts.dropLast, ← parts.getLast?, rest)

mutual

/-- Reads a value that lies inside `depth` lists and inline tables, in at most `fuel` steps. -/
def value? : Nat → Nat → Text → Option (Value × Text)
  | 0, _, _ => none
  | fuel + 1, depth, t =>
    match t with
    | '"' :: _ | '\'' :: _ => (quote? t).map fun (s, rest) => (.text s, rest)
    | '[' :: rest =>
      if greatestDepth ≤ depth then none
      else (items? fuel (depth + 1) rest).map fun (items, rest) => (.list items, rest)
    | '\x7b' :: rest =>
      if greatestDepth ≤ depth then none
      else match skipSpace rest with
        | '\x7d' :: rest => some (.table [], rest)
        | rest => (members? fuel (depth + 1) rest []).map fun (entries, rest) =>
          (.table (membersOf entries), rest)
    | 't' :: 'r' :: 'u' :: 'e' :: rest => some (.boolean true, rest)
    | 'f' :: 'a' :: 'l' :: 's' :: 'e' :: rest => some (.boolean false, rest)
    | _ => numeric? t

/-- Reads the items of a list up to its end; one comma may follow the last. -/
def items? : Nat → Nat → Text → Option (List Value × Text)
  | 0, _, _ => none
  | fuel + 1, depth, t =>
    match skipLines false t with
    | ']' :: rest => some ([], rest)
    | t => do
      let (item, rest) ← value? fuel depth t
      match skipLines false rest with
      | ']' :: rest => some ([item], rest)
      | ',' :: rest => do
        let (items, rest) ← items? fuel depth rest
        some (item :: items, rest)
      | _ => none

/-- Reads the members of an inline table, at least one, on one line. -/
def members? : Nat → Nat → Text → Entries → Option (Entries × Text)
  | 0, _, _, _ => none
  | fuel + 1, depth, t, entries => do
    let (path, key, rest) ← key? t
    let rest ← mark? '=' rest
    let (value, rest) ← value? fuel depth (skipSpace rest)
    let entries ← entries.assign path key value
    match skipSpace rest with
    | '\x7d' :: rest => some (entries, rest)
    | ',' :: rest => members? fuel depth rest entries
    | _ => none

end

/-- Reads a header after its first bracket, and the rest of its line. -/
def header? (d : Draft) (t : Text) : Option (Draft × Text) :=
  match t with
  | '[' :: rest => do
    let (path, key, rest) ← key? rest
    let rest ← restOfLine? (← mark? ']' (← mark? ']' rest))
    some (← d.openElement path key, rest)
  | _ => do
    let (path, key, rest) ← key? t
    let rest ← restOfLine? (← mark? ']' rest)
    some (← d.openTable path key, rest)

/-- Reads a key with its value, and the rest of its line. -/
def keyValue? (d : Draft) (t : Text) : Option (Draft × Text) := do
  let (path, key, rest) ← key? t
  let rest := skipSpace (← mark? '=' rest)
  let (value, rest) ← value? (2 * rest.length + 2) 0 rest
  let rest ← restOfLine? rest
  some (← d.assign path key value, rest)

/-- Reads line after line, at most `fuel` of them. -/
def lines? : Nat → Draft → Text → Option Draft
  | 0, _, _ => none
  | fuel + 1, d, t =>
    match skipSpace t with
    | [] => some d
    | '#' :: rest => do lines? fuel d (← restOfLine? ('#' :: rest))
    | '[' :: rest => do
      let (d, rest) ← header? d rest
      lines? fuel d rest
    | c :: rest =>
      match newline? (c :: rest) with
      | some rest => lines? fuel d rest
      | none => do
        let (d, rest) ← keyValue? d (c :: rest)
        lines? fuel d rest

/-- The tree of a document, if its text is one. A byte order mark may stand before it. -/
def parse (t : Text) : Option Value := do
  let t := match t with
    | '\uFEFF' :: rest => rest
    | _ => t
  let d ← lines? (t.length + 1) .start t
  some (.table (membersOf (← d.close)))

end RemoteTerminal.Toml
