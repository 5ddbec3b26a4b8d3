import RemoteTerminal.Files
import RemoteTerminal.Options.Read

/-!
The configuration: where commands go, how the terminal behaves, and how it is shown. A document
may leave out any part of it.
-/
namespace RemoteTerminal

/-- Where commands go, and how long an answer may take. -/
structure Endpoint where
  url : Option Text := none
  timeoutSeconds : Nat := 30
  deriving DecidableEq, Inhabited

structure Display where
  color : Bool := true
  deriving DecidableEq, Inhabited

structure Config where
  endpoint : Endpoint := {}
  terminal : Options := {}
  display : Display := {}
  deriving DecidableEq, Inhabited

/-- What makes a configuration unfit although it was read, or leaves no place for one. -/
inductive Unfit where
  | timeout (given : Text)
  | noUrl
  | noDirectory
  | other (reason : Text)
  deriving DecidableEq, Repr

def Unfit.message : Unfit → Text
  | .timeout given =>
    "invalid WEBTERM_TIMEOUT_SECS value `".toList ++ given ++
      "`: expected positive integer seconds".toList
  | .noUrl =>
    "no endpoint url; pass one as an argument, set WEBTERM_URL, or add [endpoint] url".toList
  | .noDirectory => "no config directory available for webterm.toml".toList
  | .other reason => reason

/-- Why there is no configuration. -/
inductive ConfigError where
  | file (fault : FileFault)
  | document (error : ReadError)
  | options (error : ReadError)
  | unfit (reason : Unfit)
  deriving DecidableEq, Repr

def Fault.message : Fault → Text
  | .malformed => "malformed text".toList
  | .ended => "the text ended early".toList

def ReadError.message : ReadError → Text
  | .broken fault => fault.message
  | .refused refusal => refusal.message

def ConfigError.message : ConfigError → Text
  | .file fault => "io: ".toList ++ fault.message
  | .document error => "toml: ".toList ++ error.message
  | .options error => "json: ".toList ++ error.message
  | .unfit reason => "invalid config: ".toList ++ reason.message

/-- Why a run ends without success. -/
inductive HostError where
  | file (fault : FileFault)
  | config (error : ConfigError)
  deriving DecidableEq, Repr

def HostError.message : HostError → Text
  | .file fault => "io: ".toList ++ fault.message
  | .config error => "config: ".toList ++ error.message

namespace Endpoint

inductive Field where
  | url
  | timeout
  deriving DecidableEq, Repr

def layout {ν : Type} [Tree ν] : Read.Layout ν Field Endpoint where
  expected := .endpoint
  order := [.url, .timeout]
  spellings
    | .url => ["url".toList]
    | .timeout => ["timeout_secs".toList]
  assign
    | .url, v, e => do pure { e with url := ← Read.optional Read.text v }
    | .timeout, v, e => do pure { e with timeoutSeconds := ← Read.count .seconds v }

end Endpoint

namespace Display

inductive Field where
  | color
  deriving DecidableEq, Repr

def layout {ν : Type} [Tree ν] : Read.Layout ν Field Display where
  expected := .display
  order := [.color]
  spellings
    | .color => ["color".toList]
  assign
    | .color, v, _ => do pure ⟨← Read.boolean v⟩

end Display

namespace Config

inductive Field where
  | endpoint
  | terminal
  | display
  deriving DecidableEq, Repr

def layout {ν : Type} [Tree ν] : Read.Layout ν Field Config where
  expected := .fields
  order := [.endpoint, .terminal, .display]
  spellings
    | .endpoint => ["endpoint".toList]
    | .terminal => ["terminal".toList]
    | .display => ["display".toList]
  assign
    | .endpoint, v, c => do pure { c with endpoint := ← Endpoint.layout.read {} v }
    | .terminal, v, c => do pure { c with terminal := ← Options.read v }
    | .display, v, c => do pure { c with display := ← Display.layout.read {} v }

/-- The configuration that a tree holds. -/
def read {ν : Type} [Tree ν] (v : ν) : Except ReadError Config := layout.read {} v

end Config
end RemoteTerminal
