import RemoteTerminal.Http.Call
import RemoteTerminal.Http.Response

/-!
An exchange: a call goes out over a network, and what comes back is read. Where an answer leads on
to another call, that goes out in its turn, and the last answer counts. `Server` is a server with
prepared answers.
-/
namespace RemoteTerminal.Http

/-- What comes back for a call: bytes up to the end of the connection, nothing at all in the time
that there is, or no connection. -/
inductive Answer where
  | bytes (content : Bytes)
  | silence
  | refusal
  deriving DecidableEq, Repr

/-- A network with a state of its own, and what its client takes for granted: how a text is read as
a url, which call the head of an answer leads on to, and the answer to a call, for which there are
so many seconds. -/
structure Network (σ : Type) where
  readUrl : Text → Option Url
  redirect : Call → Head → Option Call
  answer : Nat → σ → Call → Answer × σ

/-- The text that an answer to a call holds. -/
def read (call : Call) : Answer → Except TransportError Text
  | .bytes content => receive call.method content
  | .silence => .error (.exchange .timeout)
  | .refusal => .error (.exchange .broken)

/-- The call that an answer leads on to, if it points to another place. -/
def onward? (redirect : Call → Head → Option Call) (call : Call) : Answer → Option Call
  | .bytes content => do
    let (head, _) ← finalHead? (content.length + 1) content
    let _ ← framing? call.method head
    if head.pointsOn then redirect call head else none
  | .silence | .refusal => none

/-- Answers lead on no more often than this. -/
def greatestHops : Nat := 10

/-- Sends a call, and the calls that its answers lead on to, at most `hops` of them. The last answer
counts; one that leads on when no hop is left is as good as none. -/
def exchange {m : Type → Type} [Monad m] (redirect : Call → Head → Option Call)
    (answer : Call → m Answer) : Nat → Call → m (Except TransportError Text)
  | 0, call => do
    let reply ← answer call
    pure (if (onward? redirect call reply).isSome then .error (.exchange .broken)
      else read call reply)
  | hops + 1, call => do
    let reply ← answer call
    match onward? redirect call reply with
    | none => pure (read call reply)
    | some next => exchange redirect answer hops next

/-- The exchange that a call begins over a network. -/
def Network.exchange {σ : Type} (network : Network σ) (seconds hops : Nat) (state : σ)
    (call : Call) : Except TransportError Text × σ :=
  let answer (call : Call) : StateM σ Answer := fun state => network.answer seconds state call
  (Http.exchange network.redirect answer hops call).run state

/-- Sends a request over a network. -/
def send {σ : Type} (network : Network σ) (seconds : Nat) (stamp : Text) (state : σ)
    (request : Request) : Except TransportError Text × σ :=
  match Call.prepare network.readUrl stamp request with
  | .error error => (.error error, state)
  | .ok call => network.exchange seconds greatestHops state call

/-- A server with prepared answers, and the calls that have reached it. Past the last answer, all
calls are answered with an empty body. -/
structure Server where
  site : Site
  port : Nat
  answers : List Answer
  calls : List Call := []

/-- Answers a call. Secure calls and those to other servers find nobody. -/
def Server.answer (server : Server) (call : Call) : Answer × Server :=
  if call.url.secure ∨ call.url.site ≠ server.site ∨ call.url.port ≠ server.port then
    (.refusal, server)
  else
    let server := { server with calls := server.calls ++ [call] }
    match server.answers with
    | [] => (.bytes (Response.write { status := 200 }), server)
    | answer :: answers => (answer, { server with answers })

/-- The network of one server, which takes its time into account in its answers. -/
def Server.network : Network Server where
  readUrl := Url.parse
  redirect := Call.redirect
  answer _ server call := server.answer call

end RemoteTerminal.Http
