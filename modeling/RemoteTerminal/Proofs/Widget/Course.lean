import RemoteTerminal.Proofs.Widget.Operations

/-!
# The courses that a widget can take

`Step` says what can happen to a widget next, whoever acts: its owner, the requests that run, or
whoever posts text. The owner may leave events that it took unhandled, may handle them in any order,
and may handle events that never came from the queue. `Reachable` closes the steps over time.

`drain_reachable`: an undisturbed `drain` is one of these courses.
-/

namespace RemoteTerminal.Widget

/-- What the owner of a widget is at: between two operations, inside a drain, inside a settle, or
inside the drain that ends a settle. -/
inductive Activity where
  | idle
  | draining
  | settling
  | clearing
  deriving DecidableEq, Repr

/-- What leaves a mark in the history of a widget. A fabricated event is one that the owner handles
without having taken it from the queue. -/
inductive Happening where
  | submitted (number : Nat) (command : Text)
  | handled (event : Event)
  | fabricated (event : Event)
  | appended (output : Text)
  deriving DecidableEq, Repr

/-- A widget in use, with the events that its owner took and did not handle yet. -/
structure Course where
  widget : Widget
  activity : Activity := .idle
  held : List Event := []
  history : List Happening := []

namespace Course

def start (url : Text) (options : Options) (containerHeight : Nat) (runtime : Bool) : Course where
  widget := .start url options containerHeight runtime
  history := if (options.resolve containerHeight).submitOnLoad then [.submitted 0 []] else []

/-- Whether the owner's present activity takes events: a settle does while requests are in
flight. -/
def Serves (c : Course) : Prop :=
  c.activity = .draining ∨ c.activity = .clearing ∨ c.activity = .settling ∧ 0 < c.widget.inFlight

end Course

/-- What can happen next. A settle ends by `clear` and `leave`, or is given up while it waits, by
`abandon`. -/
inductive Step : Course → Course → Prop where
  | type (c : Course) (value : Text) (idle : c.activity = .idle) :
      Step c { c with widget := c.widget.type value }
  | submit (c : Course) (runtime : Bool) (idle : c.activity = .idle)
      (accepted : (c.widget.submit runtime).2 = true) :
      Step c { c with
        widget := (c.widget.submit runtime).1
        history := c.history ++ [.submitted c.widget.nextNumber c.widget.session.command] }
  | refuse (c : Course) (runtime : Bool) (idle : c.activity = .idle)
      (refused : (c.widget.submit runtime).2 = false) :
      Step c { c with widget := (c.widget.submit runtime).1 }
  | reprompt (c : Course) (idle : c.activity = .idle) :
      Step c { c with widget := c.widget.onPanel fun p => p.signal (.prompt p.input) }
  | click (c : Course) (selecting : Bool) (idle : c.activity = .idle) :
      Step c { c with widget := c.widget.click selecting }
  | append (c : Course) (output : Text) (idle : c.activity = .idle) :
      Step c { c with
        widget := c.widget.append output
        history := c.history ++ [.appended output] }
  | take (c : Course) (event : Event) (widget : Widget) (idle : c.activity = .idle)
      (next : c.widget.take? = some (event, widget)) :
      Step c { c with widget, held := c.held ++ [event] }
  | handle (c : Course) (before after : List Event) (event : Event) (idle : c.activity = .idle)
      (held : c.held = before ++ event :: after) :
      Step c { c with
        widget := c.widget.handle event
        held := before ++ after
        history := c.history ++ [.handled event] }
  | fabricate (c : Course) (event : Event) (idle : c.activity = .idle) :
      Step c { c with
        widget := c.widget.handle event
        history := c.history ++ [.fabricated event] }
  | drain (c : Course) (idle : c.activity = .idle) : Step c { c with activity := .draining }
  | settle (c : Course) (idle : c.activity = .idle) : Step c { c with activity := .settling }
  | serve (c : Course) (event : Event) (widget : Widget) (serves : c.Serves)
      (next : c.widget.take? = some (event, widget)) :
      Step c { c with
        widget := widget.handle event
        history := c.history ++ [.handled event] }
  | clear (c : Course) (settling : c.activity = .settling) (settled : c.widget.inFlight = 0) :
      Step c { c with activity := .clearing }
  | leave (c : Course) (draining : c.activity = .draining ∨ c.activity = .clearing)
      (empty : c.widget.queue = []) : Step c { c with activity := .idle }
  | abandon (c : Course) (settling : c.activity = .settling) : Step c { c with activity := .idle }
  | finish (c : Course) (task : Task) (reply : Reply) (running : task ∈ c.widget.running) :
      Step c { c with widget := c.widget.finish task reply }
  | post (c : Course) (text : Text) : Step c { c with widget := c.widget.post text }

variable {url : Text} {options : Options} {containerHeight : Nat} {runtime : Bool}

inductive Reachable (url : Text) (options : Options) (containerHeight : Nat) (runtime : Bool) :
    Course → Prop where
  | start : Reachable url options containerHeight runtime
      (.start url options containerHeight runtime)
  | next {c d : Course} : Reachable url options containerHeight runtime c → Step c d →
      Reachable url options containerHeight runtime d

/-- Draining without a disturbance in between is `drain`. -/
theorem drain_reachable {c : Course} (h : Reachable url options containerHeight runtime c)
    (draining : c.activity = .draining ∨ c.activity = .clearing) :
    Reachable url options containerHeight runtime { c with
      widget := c.widget.drain
      activity := .idle
      history := c.history ++ c.widget.queue.map .handled } := by
  generalize hq : c.widget.queue = events
  induction events generalizing c with
  | nil =>
    have same : c.widget.drain = c.widget := by
      rw [drain, hq, List.foldl_nil, ← hq]
    rw [same, List.map_nil, List.append_nil]
    exact h.next (.leave c draining hq)
  | cons event rest ih =>
    have next : c.widget.take? = some (event, { c.widget with queue := rest }) := by
      rw [take?, hq]
    have served := h.next (.serve c event _ (draining.imp_right .inl) next)
    have done := ih served draining (by simp)
    have same : (({ c.widget with queue := rest } : Widget).handle event).drain =
        c.widget.drain := by
      rw [drain, drain, queue_handle, hq, List.foldl_cons]
      cases event <;> rfl
    simpa [same] using done

end RemoteTerminal.Widget
