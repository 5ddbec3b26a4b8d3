import RemoteTerminal.Http.Head

/-!
The body of an answer: where it ends, which the head says, and the bytes that it holds. A body in
chunks comes as pieces of stated sizes, the last of size zero, and a trailer of headers.
-/
namespace RemoteTerminal.Http

/-- How the end of a body is found. -/
inductive Framing where
  | empty
  | chunked
  | length (count : Nat)
  | untilClose
  deriving DecidableEq, Repr

/-- No body is as long as this. -/
def lengthBound : Nat := Nat.pow 2 64 - 2

/-- The length that headers state: each may state it several times, and all have to agree. -/
def statedLength? (values : List Bytes) : Option Nat := do
  let lengths ← (values.flatMap fun value => value.splitOn 44).mapM fun piece =>
    Text.digits? 10 (asText (trimBlanks piece))
  match lengths with
  | [] => none
  | first :: others => if others.all (· = first) ∧ first < lengthBound then some first else none

/-- Whether the last coding in a list of them is the one in chunks. -/
def endsChunked (value : Bytes) : Bool :=
  match (value.splitOn 44).getLast? with
  | some last => Text.asciiLower (asText (trimBlanks last)) = "chunked".toList
  | none => false

/-- The framing of the answer to a request; none if the head contradicts itself. -/
def framing? (method : Text) (head : Head) : Option Framing :=
  let codings := head.values "transfer-encoding"
  let lengths := head.values "content-length"
  let accepted := 200 ≤ head.status && head.status < 300
  if head.status = 101 ∨ head.status = 204 ∨ head.status = 304 then some .empty
  else if method = "HEAD".toList ∨ (method = "CONNECT".toList ∧ accepted) then some .empty
  else match codings.getLast? with
    | some coding =>
      if head.early then none
      else if endsChunked coding then some .chunked
      else some .untilClose
    | none =>
      if lengths.isEmpty then some .untilClose else (statedLength? lengths).map .length

/-- A line that ends with a carriage return and a line feed, and what follows it. -/
def strictLine? (bytes : Bytes) : Option (Bytes × Bytes) :=
  match bytes.dropWhile (· ≠ 13) with
  | _ :: 10 :: rest => some (bytes.takeWhile (· ≠ 13), rest)
  | _ => none

def isHexByte (b : UInt8) : Bool := (Text.digitValue? 16 (charOf b)).isSome

/-- The size that the line before a chunk states. After `;` it may say more. -/
def chunkSize? (line : Bytes) : Option Nat :=
  let size := (Text.digits? 16 (asText (line.takeWhile isHexByte))).filter (· < Nat.pow 2 64)
  match (line.dropWhile isHexByte).dropWhile isBlankByte with
  | [] => size
  | b :: more => if b = 59 ∧ !more.contains 10 then size else none

/-- The bytes of a trailer, up to an empty line. `fresh` tells whether a line begins. -/
def trailer? (fresh : Bool) : Bytes → Option Bytes
  | [] => none
  | 13 :: rest =>
    match rest with
    | 10 :: rest => if fresh then some [13, 10] else (trailer? true rest).map (13 :: 10 :: ·)
    | _ => none
  | b :: rest => (trailer? false rest).map (b :: ·)

/-- The content of a body in chunks, of which there are fewer than `fuel`. -/
def chunks? : Nat → Bytes → Option Bytes
  | 0, _ => none
  | fuel + 1, bytes => do
    let (line, rest) ← strictLine? bytes
    let size ← chunkSize? line
    if size = 0 then
      let trailer ← trailer? true rest
      let _ ← headers? greatestHeaderCount trailer
      some []
    else
      let data := rest.take size
      match rest.drop size with
      | 13 :: 10 :: rest => (chunks? fuel rest).map (data ++ ·)
      | _ => none

/-- The content of the body that bytes begin with; none if they end before it does. -/
def Framing.body? (framing : Framing) (bytes : Bytes) : Option Bytes :=
  match framing with
  | .empty => some []
  | .chunked => chunks? (bytes.length + 1) bytes
  | .length count => if bytes.length < count then none else some (bytes.take count)
  | .untilClose => some bytes

end RemoteTerminal.Http
