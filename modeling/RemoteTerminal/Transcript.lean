import RemoteTerminal.Markup

/-!
The transcript: all that the terminal has shown, in entries of rows. It has two projections, as
markup and as plain lines; a row that no break follows runs into the row after it.
-/
namespace RemoteTerminal

/-- One row of an entry, as text and as markup, and whether a line break follows it. -/
structure Row where
  text : Text
  markup : Text
  breaks : Bool
  deriving DecidableEq, Repr

namespace Row

/-- A row of text that counts as markup too. -/
def literal (text : Text) : Row := ⟨text, text, true⟩

/-- A text with each tab widened to that many spaces, where a space is written as `space`. -/
def widenTabs (tabWidth : Nat) (space t : Text) : Text :=
  t.flatMap fun c => if c = '\t' then (List.replicate tabWidth space).flatten else [c]

/-- The rows of output: one for each line, its tabs widened. A break follows every row but an empty
last one above a prompt. -/
def ofOutput (tabWidth : Nat) (prompted : Bool) (output : Text) : List Row :=
  let texts := output.splitOn '\n'
  let markups := (Markup.escape output).splitOn '\n'
  let last := texts.length - 1
  ((texts.zip markups).zipIdx).map fun ((text, markup), index) =>
    { text := widenTabs tabWidth [' '] text
      markup := widenTabs tabWidth Markup.hardSpaceEntity markup
      breaks := !(index == last && text.isEmpty && prompted) }

/-- The markup of a row. -/
def toMarkup (row : Row) : Text :=
  "<span>".toList ++ row.markup ++ (if row.breaks then "<br />".toList else []) ++ "</span>".toList

end Row

/-- What brought an entry about: the welcome, a command, or anything put out. -/
inductive EntryKind where
  | greeting
  | echo
  | output
  deriving DecidableEq, Repr

/-- One block of the transcript. -/
structure Entry where
  kind : EntryKind
  rows : List Row
  deriving DecidableEq, Repr

/-- The markup of an entry; output has an element of its own around its rows. -/
def Entry.toMarkup (entry : Entry) : Text :=
  let rows := entry.rows.flatMap Row.toMarkup
  match entry.kind with
  | .output => "<span>".toList ++ rows ++ "</span>".toList
  | .greeting | .echo => rows

/-- The entries shown so far, in order. -/
abbrev Transcript := List Entry

namespace Transcript

def toMarkup (t : Transcript) : Text := t.flatMap Entry.toMarkup

/-- The lines that rows make after `pending`, the start of a line. A last line without a break
counts unless it is empty. -/
def linesFrom (pending : Text) : List Row → List Text
  | [] => if pending.isEmpty then [] else [pending]
  | row :: rows =>
    let line := pending ++ row.text
    if row.breaks then line :: linesFrom [] rows else linesFrom line rows

/-- The lines of the transcript as a reader sees them. -/
def plainLines (t : Transcript) : List Text := linesFrom [] (t.flatMap Entry.rows)

end Transcript
end RemoteTerminal
