import RemoteTerminal.Text.Bytes
import RemoteTerminal.Text.Digits

/-!
Percent notation and form encoding. In percent notation a character that has to be hidden is written
as its bytes, each as `%` and two hexadecimal digits; a `%` that no two digits follow stands for
itself. A form is pairs of texts as one text, in which letters, digits and `*-._` stand for
themselves and `+` stands for a space.
-/
namespace RemoteTerminal

namespace Text.Percent

/-- A byte in percent notation. -/
def escapeByte (b : UInt8) : Text := '%' :: hexByte b

/-- The text with each character hidden that is not to be kept. -/
def encode (keep : Char → Bool) (t : Text) : Text :=
  t.flatMap fun c => if keep c then [c] else (Bytes.ofChar c).flatMap escapeByte

/-- The bytes that a text stands for. -/
def decode : Text → Bytes
  | '%' :: high :: low :: rest =>
    match digitValue? 16 high, digitValue? 16 low with
    | some h, some l => Bytes.byte (h * 16 + l) :: decode rest
    | _, _ => Bytes.ofChar '%' ++ decode (high :: low :: rest)
  | c :: rest => Bytes.ofChar c ++ decode rest
  | [] => []

end Text.Percent

namespace Http.Form

/-- The characters that stand for themselves. -/
def isKept (c : Char) : Bool := c.isAlphanum || c = '*' || c = '-' || c = '.' || c = '_'

/-- One half of a pair. -/
def encodePart (t : Text) : Text :=
  (Text.Percent.encode (fun c => isKept c || c = ' ') t).map fun c => if c = ' ' then '+' else c

def encodePair (pair : Text × Text) : Text := encodePart pair.1 ++ '=' :: encodePart pair.2

def encode (pairs : List (Text × Text)) : Text := List.intercalate ['&'] (pairs.map encodePair)

/-- A query with pairs added at its end. -/
def extend (query : Text) (pairs : List (Text × Text)) : Text :=
  if query.isEmpty then encode pairs
  else if pairs.isEmpty then query
  else query ++ '&' :: encode pairs

def decodePart (t : Text) : Bytes :=
  Text.Percent.decode (t.map fun c => if c = '+' then ' ' else c)

def decodePair (piece : Text) : Bytes × Bytes :=
  match Text.cut? '=' piece with
  | some (name, value) => (decodePart name, decodePart value)
  | none => (decodePart piece, [])

/-- The pairs that a text holds, as bytes. Empty pieces hold none. -/
def decode (t : Text) : List (Bytes × Bytes) :=
  ((t.splitOn '&').filter fun piece => !piece.isEmpty).map decodePair

end Http.Form
end RemoteTerminal
