import RemoteTerminal.Fields
import RemoteTerminal.Text.Digits

/-!
What a command's request came to, and the line that the transcript gets for it.
-/
namespace RemoteTerminal

/-- A command on its way: where it goes, how, and the fields of its form. -/
structure Request where
  url : Text
  method : Text
  fields : Fields
  deriving DecidableEq

/-- The kinds of failure that a user is told of. -/
inductive FailureKind where
  | timeout
  | notModified
  | parse
  | generic
  deriving DecidableEq, Repr

namespace FailureKind

/-- The word that a kind is reported under. -/
def status : FailureKind → Text
  | .timeout => "timeout".toList
  | .notModified => "notmodified".toList
  | .parse => "parsererror".toList
  | .generic => "error".toList

/-- The kind that a word reports; words of no kind report a generic failure. -/
def ofStatus (word : Text) : FailureKind :=
  if word = timeout.status then .timeout
  else if word = notModified.status then .notModified
  else if word = parse.status then .parse
  else .generic

def message : FailureKind → Text
  | .timeout => "Server timeout. Try again later.".toList
  | .notModified => "Server did not response properly. Try again.".toList
  | .parse => "Client error. Try again.".toList
  | .generic => "A server error has occured. Check your command.".toList

end FailureKind

/-- How an exchange broke off: no answer in time, an answer that could not be read through, or
anything else. -/
inductive ExchangeFault where
  | timeout
  | unreadable
  | broken
  deriving DecidableEq, Repr

/-- Why there is no text from a request. -/
inductive TransportError where
  | exchange (fault : ExchangeFault)
  | status (code : Nat)
  | undecodable (reason : Text)
  | invalidMethod (method : Text)
  | reported (kind : FailureKind)
  deriving DecidableEq, Repr

namespace TransportError

def kind : TransportError → FailureKind
  | .exchange .timeout => .timeout
  | .exchange .unreadable => .parse
  | .exchange .broken => .generic
  | .status code => if code = 304 then .notModified else .generic
  | .undecodable _ => .parse
  | .invalidMethod _ => .generic
  | .reported kind => kind

/-- The fault of an exchange is left to the side that saw it. -/
def message : TransportError → Text
  | .exchange _ => "http: ".toList
  | .status code => "status ".toList ++ Text.decimal code
  | .undecodable reason => "decode: ".toList ++ reason
  | .invalidMethod method => "invalid form method `".toList ++ method ++ ['`']
  | .reported kind => "reported ".toList ++ kind.status

end TransportError

/-- What a request came to. -/
inductive Outcome where
  | success (text : Text)
  | failure (kind : FailureKind)
  deriving DecidableEq, Repr

namespace Outcome

def ofResult : Except TransportError Text → Outcome
  | .ok text => .success text
  | .error error => .failure error.kind

/-- What marks the line of a failure. -/
def errorMark : Text := "ERROR: ".toList

/-- What the transcript gets. -/
def toText : Outcome → Text
  | .success text => text
  | .failure kind => errorMark ++ kind.message

end Outcome

/-- What a transport makes of a request: an answer, or a breakdown of its own. -/
inductive Reply where
  | answered (result : Except TransportError Text)
  | panicked

def Reply.outcome : Reply → Outcome
  | .answered result => .ofResult result
  | .panicked => .failure .generic

end RemoteTerminal
