import RemoteTerminal.Http.Exchange
import Std.Async.DNS
import Std.Async.TCP
import Std.Async.Timer
import Std.Time.DateTime.Timestamp

/-!
Calls on real connections, which are plain ones. A request that is not answered in time fails for
that; a call that finds no server is refused, and so is a secure one.
-/
namespace RemoteTerminal.Wire

open Std.Async
open Std.Net

/-- The most bytes that are read at once. -/
def pieceSize : UInt64 := 65536

def byteOf (bits shift : Nat) : UInt8 := UInt8.ofNat (bits / Nat.pow 2 shift)

/-- The addresses of a site. -/
def addresses : Http.Site → Async (List IPAddr)
  | .address bits =>
    pure [.v4 (.ofParts (byteOf bits 24) (byteOf bits 16) (byteOf bits 8) (byteOf bits 0))]
  | .bracketed address =>
    pure ((IPv6Addr.ofString (String.ofList address)).map IPAddr.v6).toList
  | .name name => do
    pure (← DNS.getAddrInfo (String.ofList name) "http").toList

def socketAddress (address : IPAddr) (port : Nat) : SocketAddress :=
  match address with
  | .v4 addr => .v4 ⟨addr, UInt16.ofNat port⟩
  | .v6 addr => .v6 ⟨addr, UInt16.ofNat port⟩

/-- Reads a connection to its end. -/
partial def readAll (socket : TCP.Socket.Client) (content : Bytes) : Async Bytes := do
  match ← socket.recv? pieceSize with
  | some piece => readAll socket (content ++ piece.toList)
  | none => pure content

/-- Sends a call to the first address that takes it. -/
def exchangeWith (call : Http.Call) : List IPAddr → Async Http.Answer
  | [] => pure .refusal
  | address :: others => do
    let socket ← TCP.Socket.Client.mk
    let connected ← try
        socket.connect (socketAddress address call.url.port)
        pure true
      catch _ => pure false
    if connected then
      socket.send ⟨call.write.toArray⟩
      pure (.bytes (← readAll socket []))
    else exchangeWith call others

def answer (call : Http.Call) : Async Http.Answer := do
  if call.url.secure then pure .refusal
  else
    try exchangeWith call (← addresses call.url.site)
    catch _ => pure .refusal

instance : Inhabited (Except TransportError Text) := ⟨.error (.exchange .timeout)⟩

/-- What a call comes to within some seconds, with all that its answers lead on to. -/
def meet (seconds : Nat) (call : Http.Call) : IO (Except TransportError Text) :=
  (Async.race (Http.exchange Http.Call.redirect answer Http.greatestHops call) do
    sleep (.ofNat (seconds * 1000))
    pure (.error (.exchange .timeout))).block

/-- A stamp that no earlier call has had: the milliseconds since 1970. -/
def stamp : IO Text := do
  let now ← Std.Time.Timestamp.now
  pure (Text.signedDecimal now.toMillisecondsSinceUnixEpoch.toInt)

/-- Sends a request, and waits for its answer. -/
def send (seconds : Nat) (request : Request) : IO (Except TransportError Text) := do
  match Http.Call.prepare Http.Url.parse (← stamp) request with
  | .error error => pure (.error error)
  | .ok call => meet seconds call

end RemoteTerminal.Wire
