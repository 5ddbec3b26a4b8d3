import RemoteTerminal.Document
import RemoteTerminal.Outcome

/-!
A session: the panel together with where its commands go. A submission has two halves, so that the
request can run elsewhere: `submit` accepts the typed command and builds the request, `resolve`
shows what came of it.
-/
namespace RemoteTerminal

/-- Why a submission is made. -/
inductive Trigger where
  | user
  | forcedFirst
  deriving DecidableEq, Repr

/-- A session. `fields` is the form that its requests carry, the command of the last one in it. -/
structure Session where
  url : Text
  settings : Settings
  fields : Fields
  panel : Panel
  deriving DecidableEq

namespace Session

def start (url : Text) (settings : Settings) (panel : Panel) : Session :=
  ⟨url, settings, settings.extraPostFields, panel⟩

/-- Submits the typed command, trimmed: its request, if it is accepted, and the session from then
on. A blank one counts only if the first submission is forced or blank commands are allowed, and is
echoed only if they are. -/
def submit (s : Session) (trigger : Trigger) : Option Request × Session :=
  let command := s.panel.input.value.trim
  if command.isEmpty && trigger ≠ .forcedFirst && !s.settings.allowEmptyInput then (none, s)
  else
    let panel := s.panel.hideInput
    let panel :=
      if !command.isEmpty || s.settings.allowEmptyInput then panel.echo s.settings command
      else panel
    let fields := s.fields.insert s.settings.inputFieldName command
    (some ⟨s.url, s.settings.formMethod, fields⟩, { s with panel, fields })

def append (s : Session) (output : Text) : Session :=
  { s with panel := s.panel.append s.settings output }

/-- Shows what a request came to. -/
def resolve (s : Session) (outcome : Outcome) : Session := s.append outcome.toText

def type (s : Session) (value : Text) : Session := { s with panel := s.panel.type value }

def document (s : Session) : Text := renderDocument s.url s.settings s.panel

end Session
end RemoteTerminal
