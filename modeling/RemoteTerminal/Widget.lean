import RemoteTerminal.Session

/-!
The widget: a session, the requests that it has running, and the queue on which their completions
and texts from outside arrive. A request is numbered when it is dispatched and completes once;
`inFlight` counts the completions that are still to be handled.
-/
namespace RemoteTerminal

/-- What arrives on the queue. -/
inductive Event where
  | completed (number : Nat) (outcome : Outcome)
  | append (text : Text)
  deriving DecidableEq, Repr

/-- A request that runs. -/
structure Task where
  number : Nat
  request : Request
  deriving DecidableEq

structure Widget where
  session : Session
  clickToFocus : Bool := false
  inFlight : Nat := 0
  nextNumber : Nat := 0
  running : List Task := []
  queue : List Event := []
  deriving DecidableEq

namespace Widget

def settings (w : Widget) : Settings := w.session.settings

def panel (w : Widget) : Panel := w.session.panel

def input (w : Widget) : InputLine := w.session.panel.input

def onPanel (w : Widget) (change : Panel → Panel) : Widget :=
  { w with session.panel := change w.session.panel }

/-- Starts a request. Without a runtime there is nothing to run it on, and it fails at once. -/
def dispatch (w : Widget) (runtime : Bool) (request : Request) : Widget :=
  let number := w.nextNumber
  let w := { w with nextNumber := number + 1, inFlight := w.inFlight + 1 }
  if runtime then { w with running := w.running ++ [⟨number, request⟩] }
  else { w with queue := w.queue ++ [.completed number (.failure .generic)] }

/-- Submits the typed command, and tells whether a request was dispatched. -/
def submitFor (w : Widget) (runtime : Bool) (trigger : Trigger) : Widget × Bool :=
  match w.session.submit trigger with
  | (none, session) => ({ w with session }, false)
  | (some request, session) => ({ w with session }.dispatch runtime request, true)

def submit (w : Widget) (runtime : Bool) : Widget × Bool := w.submitFor runtime .user

def type (w : Widget) (value : Text) : Widget := { w with session := w.session.type value }

/-- A click gives the input line the focus, unless text is selected. -/
def click (w : Widget) (selecting : Bool) : Widget :=
  if w.clickToFocus && !selecting then w.onPanel .focusInput else w

def append (w : Widget) (output : Text) : Widget := { w with session := w.session.append output }

/-- Queues text from outside. -/
def post (w : Widget) (text : Text) : Widget := { w with queue := w.queue ++ [.append text] }

/-- Ends a running request; its completion goes to the queue. -/
def finish (w : Widget) (task : Task) (reply : Reply) : Widget :=
  { w with
    running := w.running.filter fun other => other.number ≠ task.number
    queue := w.queue ++ [.completed task.number reply.outcome] }

/-- Takes the next event from the queue. -/
def take? (w : Widget) : Option (Event × Widget) :=
  match w.queue with
  | [] => none
  | event :: queue => some (event, { w with queue })

/-- Applies an event to the session. -/
def handle (w : Widget) : Event → Widget
  | .completed _ outcome =>
    { w with inFlight := w.inFlight - 1, session := w.session.resolve outcome }
  | .append text => w.append text

/-- Handles what is in the queue. -/
def drain (w : Widget) : Widget := w.queue.foldl handle { w with queue := [] }

/-- The widget at its start in a container of the given height: theme, welcome, first submission,
focus, and last of all the hook of the load, if there is one. -/
def start (url : Text) (options : Options) (containerHeight : Nat) (runtime : Bool) : Widget :=
  let settings := options.resolve containerHeight
  let w : Widget := { session := .start url settings {} }
  let w := if settings.themeEnabled then w.onPanel .applyTheme else w
  let w := { w with clickToFocus := settings.grabFocusOnClick }
  let w := match settings.helloMessage with
    | some message => w.onPanel (·.greet message)
    | none => w
  let w := if settings.submitOnLoad then (w.submitFor runtime .forcedFirst).1 else w
  let w := if settings.focusOnLoad then w.onPanel .focusInput else w
  let w := if settings.inputDisabled then w.onPanel .disableInput else w
  match settings.onLoad with
  | some hook => w.onPanel (·.signal (.loaded hook))
  | none => w

end Widget
end RemoteTerminal
