import RemoteTerminal.Text.Bytes
import RemoteTerminal.Text.Digits

/-!
The head of an answer: a status line and headers, up to an empty line. A line ends with a line
feed, with or without a carriage return before it. Bytes are given by their numbers: 9 is a tab, 10
a line feed, 13 a carriage return, 32 a space, 44 a comma, 58 a colon and 59 a semicolon.
-/
namespace RemoteTerminal.Http

/-- Whether a character may be in a token, such as a method or the name of a header. -/
def isTokenChar (c : Char) : Bool := c.isAlphanum || "!#$%&'*+-.^_`|~".toList.contains c

/-- The character of the same number. -/
def charOf (b : UInt8) : Char := Char.ofNat b.toNat

def isTokenByte (b : UInt8) : Bool := isTokenChar (charOf b)

def isBlankByte (b : UInt8) : Bool := b = 9 || b = 32

/-- Whether a byte may be in the value of a header or in a reason. -/
def isTextByte (b : UInt8) : Bool := b = 9 || (32 ≤ b && b ≠ 127)

/-- Bytes without the blanks at their ends. -/
def trimBlanks (bytes : Bytes) : Bytes :=
  ((bytes.dropWhile isBlankByte).reverse.dropWhile isBlankByte).reverse

/-- Bytes as characters of the same number. -/
def asText (bytes : Bytes) : Text := bytes.map charOf

/-- A line, and what follows its end. -/
def line? (bytes : Bytes) : Option (Bytes × Bytes) :=
  let line := bytes.takeWhile (· ≠ 10)
  match bytes.dropWhile (· ≠ 10) with
  | [] => none
  | _ :: rest => some (if line.getLast? = some 13 then line.dropLast else line, rest)

/-- A header, its name in lower case. -/
structure Header where
  name : Text
  value : Bytes
  deriving DecidableEq, Repr

def header? (line : Bytes) : Option Header :=
  let name := line.takeWhile isTokenByte
  match line.dropWhile isTokenByte with
  | 58 :: rest =>
    if name.isEmpty || !rest.all isTextByte then none
    else some ⟨Text.asciiLower (asText name), trimBlanks rest⟩
  | _ => none

/-- No answer has more headers than this. -/
def greatestHeaderCount : Nat := 100

/-- Headers, at most `room` of them, up to an empty line, and what follows that. -/
def headers? (room : Nat) (bytes : Bytes) : Option (List Header × Bytes) := do
  let (line, rest) ← line? bytes
  if line.isEmpty then some ([], rest)
  else match room with
    | 0 => none
    | room + 1 => do
      let header ← header? line
      let (headers, rest) ← headers? room rest
      some (header :: headers, rest)

/-- The head of an answer. `early` tells the older of two versions, 1.0, from the other, 1.1. -/
structure Head where
  early : Bool
  status : Nat
  headers : List Header
  deriving DecidableEq, Repr

/-- The version and the status that a line states. A status has three digits; a reason may
follow. -/
def statusLine? (line : Bytes) : Option (Bool × Nat) := do
  let early ← match asText (line.take 9) with
    | ['H', 'T', 'T', 'P', '/', '1', '.', '1', ' '] => some false
    | ['H', 'T', 'T', 'P', '/', '1', '.', '0', ' '] => some true
    | _ => none
  let digits := asText ((line.drop 9).take 3)
  guard (digits.length = 3)
  let status ← Text.digits? 10 digits
  guard (100 ≤ status)
  match line.drop 12 with
  | [] => some (early, status)
  | 32 :: reason => if reason.all isTextByte then some (early, status) else none
  | _ => none

/-- Bytes without the empty lines that they begin with. -/
def dropEmptyLines : Bytes → Bytes
  | [] => []
  | 10 :: rest => dropEmptyLines rest
  | 13 :: 10 :: rest => dropEmptyLines rest
  | b :: rest => b :: rest

/-- No head is longer than this: the buffer that a client reads one into holds no more bytes. -/
def greatestHead : Nat := 417792

/-- A head, and what follows it. -/
def head? (bytes : Bytes) : Option (Head × Bytes) := do
  let (line, rest) ← line? (dropEmptyLines bytes)
  let (early, status) ← statusLine? line
  let (headers, rest) ← headers? greatestHeaderCount rest
  guard (bytes.length ≤ rest.length + greatestHead)
  some (⟨early, status, headers⟩, rest)

/-- Whether the answer proper is still to come. A switch of protocols is final. -/
def Head.interim (h : Head) : Bool := h.status < 200 && h.status ≠ 101

/-- The head of the answer proper, after those of interim answers, of which there are fewer than
`fuel`. -/
def finalHead? : Nat → Bytes → Option (Head × Bytes)
  | 0, _ => none
  | fuel + 1, bytes => do
    let (head, rest) ← head? bytes
    if head.interim then finalHead? fuel rest else some (head, rest)

/-- The values of all headers of one name. -/
def Head.values (h : Head) (name : String) : List Bytes :=
  (h.headers.filter fun header => header.name = name.toList).map Header.value

/-- The statuses of an answer that may point to another place. -/
def redirects : List Nat := [301, 302, 303, 307, 308]

/-- Whether an answer points to another place. -/
def Head.pointsOn (h : Head) : Bool := redirects.contains h.status && !(h.values "location").isEmpty

end RemoteTerminal.Http
