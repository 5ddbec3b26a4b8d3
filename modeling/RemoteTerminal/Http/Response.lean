import RemoteTerminal.Http.Body
import RemoteTerminal.Outcome

/-!
What becomes of an answer: the text in it, or why there is none. An answer of another status than
success is judged by its status alone.
-/
namespace RemoteTerminal.Http

/-- An answer as a server gives it. `length` is what it states in place of the body's true
length. -/
structure Response where
  status : Nat
  headers : List (Text × Text) := []
  body : Bytes := []
  length : Option Nat := none

namespace Response

/-- Whether answers of a status state the length of their body. -/
def statesLength (status : Nat) : Bool := status ≠ 204 && status ≠ 304

def headerLine (header : Text × Text) : Text := header.1 ++ ": ".toList ++ header.2 ++ "\r\n".toList

/-- The answer as bytes, on a connection that closes after it. -/
def write (r : Response) : Bytes :=
  let length : List (Text × Text) :=
    if statesLength r.status then
      [("Content-Length".toList, Text.decimal (r.length.getD r.body.length))]
    else []
  let close : List (Text × Text) := [("Connection".toList, "close".toList)]
  let head := "HTTP/1.1 ".toList ++ Text.decimal r.status ++ " Status\r\n".toList ++
    (r.headers ++ length ++ close).flatMap headerLine ++ "\r\n".toList
  Bytes.encode head ++ r.body

end Response

/-- Why bytes are not text. -/
def undecodableReason (fault : Bytes.Fault) : Text :=
  let place := "from index ".toList ++ Text.decimal fault.offset
  match fault.width with
  | some width =>
    "invalid utf-8 sequence of ".toList ++ Text.decimal width ++ " bytes ".toList ++ place
  | none => "incomplete utf-8 byte sequence ".toList ++ place

/-- The text of a body. -/
def textOfBody (body : Bytes) : Except TransportError Text :=
  (Bytes.decode body).mapError fun fault => .undecodable (undecodableReason fault)

def isSuccess (status : Nat) : Bool := 200 ≤ status && status < 300

/-- The text that the bytes of an answer hold. -/
def receive (method : Text) (bytes : Bytes) : Except TransportError Text :=
  match finalHead? (bytes.length + 1) bytes with
  | none => .error (.exchange .broken)
  | some (head, rest) =>
    match framing? method head with
    | none => .error (.exchange .broken)
    | some framing =>
      if !isSuccess head.status then .error (.status head.status)
      else match framing.body? rest with
        | none => .error (.exchange .unreadable)
        | some body => textOfBody body

end RemoteTerminal.Http
