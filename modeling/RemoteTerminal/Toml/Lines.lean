import RemoteTerminal.Toml

/-!
What may stand between the values of a TOML document: spaces, comments and the ends of lines.
-/
namespace RemoteTerminal.Toml

def isSpace (c : Char) : Bool := c = ' ' || c = '\t'

def skipSpace (t : Text) : Text := t.dropWhile isSpace

/-- Whether a character may stand in a comment, or in a literal string of one line. -/
def isPlain (c : Char) : Bool :=
  c = '\t' || (decide (0x20 ≤ c.toNat) && decide (c.toNat ≠ 0x7F))

/-- What follows the end of a line. A carriage return ends a line only before a line feed. -/
def newline? : Text → Option Text
  | '\n' :: rest => some rest
  | '\r' :: '\n' :: rest => some rest
  | _ => none

/-- What follows the end of a line or of the document. -/
def lineEnd? : Text → Option Text
  | [] => some []
  | t => newline? t

def skipComment (t : Text) : Text :=
  match t with
  | '#' :: rest => rest.dropWhile isPlain
  | _ => t

/-- What follows the rest of a line on which nothing more may stand but a comment. -/
def restOfLine? (t : Text) : Option Text := lineEnd? (skipComment (skipSpace t))

/-- Passes over spaces, comments and ends of lines. It stops inside a comment at a character that
may not stand there, which nothing else accepts either. -/
def skipLines : Bool → Text → Text
  | _, [] => []
  | _, '\n' :: rest => skipLines false rest
  | _, '\r' :: '\n' :: rest => skipLines false rest
  | true, c :: rest => if isPlain c then skipLines true rest else c :: rest
  | false, c :: rest =>
    if c = '#' then skipLines true rest
    else if isSpace c then skipLines false rest
    else c :: rest

end RemoteTerminal.Toml
