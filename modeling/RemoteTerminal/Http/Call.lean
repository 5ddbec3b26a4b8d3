import RemoteTerminal.Http.Form
import RemoteTerminal.Http.Head
import RemoteTerminal.Http.Url
import RemoteTerminal.Outcome

/-!
A call: a command's request as HTTP puts it. Two methods have their fields in the query, with a
stamp behind them that keeps answers out of caches; all others have them in the body. An answer that
points to another place leads on to a call there.
-/
namespace RemoteTerminal.Http

/-- A request on a connection to the server of its url. -/
structure Call where
  url : Url
  method : Text
  target : Text
  headers : List (Text × Text)
  body : Text
  deriving DecidableEq

namespace Call

def stampName : Text := ['_']

/-- A method is a token. -/
def isMethod (method : Text) : Bool := !method.isEmpty && method.all isTokenChar

/-- Whether requests of a method have their fields in the query. -/
def isQuerying (method : Text) : Bool := method = "GET".toList || method = "HEAD".toList

/-- A url as text is no longer than this. -/
def greatestUrl : Nat := 65534

def acceptHeader : Text × Text := ("accept".toList, "text/plain, */*; q=0.01".toList)
def cacheHeader : Text × Text := ("cache-control".toList, "no-cache".toList)
def formHeader : Text × Text := ("content-type".toList, "application/x-www-form-urlencoded".toList)

def lengthHeader (body : Text) : Text × Text :=
  ("content-length".toList, Text.decimal body.length)

def usualHeaders : List (Text × Text) := [acceptHeader, cacheHeader]

/-- What is asked for in the first line of a call. -/
def targetOf (method : Text) (url : Url) : Text :=
  if method = "CONNECT".toList then url.authority else url.target

/-- A call with its fields in the query. -/
def querying (stamp : Text) (method : Text) (url : Url) (fields : Fields) : Call :=
  let pairs := fields.pairs ++ [(stampName, stamp)]
  let url := { url with query := some (Form.extend (url.query.getD []) pairs) }
  ⟨url, method, targetOf method url, usualHeaders, []⟩

/-- A call with its fields in the body. -/
def posting (method : Text) (url : Url) (fields : Fields) : Call :=
  let body := Form.encode fields.pairs
  let headers := usualHeaders ++ [formHeader] ++ if body.isEmpty then [] else [lengthHeader body]
  ⟨url, method, targetOf method url, headers, body⟩

/-- The call that is made of a request to a url. -/
def formed (stamp : Text) (request : Request) (url : Url) : Call :=
  if isQuerying request.method then querying stamp request.method url request.fields
  else posting request.method url request.fields

/-- The call of a request, whose url is read by `readUrl`. A method that is none is found before a
url that is none. -/
def prepare (readUrl : Text → Option Url) (stamp : Text) (request : Request) :
    Except TransportError Call :=
  if !isMethod request.method then .error (.invalidMethod request.method)
  else match readUrl request.url with
    | none => .error (.exchange .broken)
    | some url =>
      let call := formed stamp request url
      if greatestUrl < call.url.text.length then .error (.exchange .broken) else .ok call

/-- The statuses that lead on with the same method and body; the others lead on to a page that is
asked for. -/
def isKeeping (status : Nat) : Bool := status = 307 || status = 308

/-- The headers of a call that tell of its body. -/
def bodyHeaders : List Text := ["content-type".toList, "content-length".toList]

def refererName : Text := "referer".toList

/-- The headers of a call that leads on to a url, with the call's own url among them. What is not
secure is not told of a place that is. -/
def referringHeaders (c : Call) (url : Url) : List (Text × Text) :=
  if c.url.secure && !url.secure then c.headers
  else
    let others := c.headers.filter fun header => header.1 ≠ refererName
    others ++ [(refererName, { c.url with fragment := none }.text)]

/-- The call that the head of an answer leads on to, if the place that it names is a url. -/
def redirect (c : Call) (head : Head) : Option Call := do
  let place ← (head.values "location").head?
  let url ← c.url.join (← (Bytes.decode place).toOption)
  guard (url.text.length ≤ greatestUrl)
  let headers := c.referringHeaders url
  if isKeeping head.status then some { c with url, target := targetOf c.method url, headers }
  else
    let method := if isQuerying c.method then c.method else "GET".toList
    let headers := headers.filter fun header => !bodyHeaders.contains header.1
    some { url, method, target := targetOf method url, headers, body := [] }

/-- The call as bytes, on a connection that closes after the answer. -/
def write (c : Call) : Bytes :=
  let headers := [("host".toList, c.url.host), ("connection".toList, "close".toList)] ++ c.headers
  let lines := headers.flatMap fun header =>
    header.1 ++ ": ".toList ++ header.2 ++ "\r\n".toList
  Bytes.encode (c.method ++ ' ' :: c.target ++ " HTTP/1.1\r\n".toList ++ lines ++
    "\r\n".toList ++ c.body)

end Call
end RemoteTerminal.Http
