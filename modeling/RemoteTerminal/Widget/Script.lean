import RemoteTerminal.Widget

/-!
A widget whose requests are answered from a script. Requests reach the transport, and are answered,
in the order in which they were dispatched; behind a gate each answer takes a permit.
-/
namespace RemoteTerminal

/-- A transport with prepared replies. `waiting` is how many of the running requests have reached
it; `sent` holds all requests that have. A request past the last reply is answered with nothing. -/
structure Script where
  replies : List Reply
  gated : Bool := false
  permits : Nat := 0
  waiting : Nat := 0
  sent : List Request := []

/-- A widget on a scripted transport. -/
structure Stage where
  widget : Widget
  script : Script

namespace Script

/-- The reply to the next request. -/
def next (s : Script) : Reply × Script :=
  match s.replies with
  | [] => (.answered (.ok []), s)
  | reply :: replies => (reply, { s with replies })

end Script

namespace Stage

/-- Answers the given requests. -/
def answer (stage : Stage) (tasks : List Task) : Stage :=
  tasks.foldl (fun stage task =>
    let (reply, script) := stage.script.next
    ⟨stage.widget.finish task reply, script⟩) stage

/-- Lets the running requests go on until none can. -/
def tick (stage : Stage) : Stage :=
  let running := stage.widget.running
  let reached := (running.drop stage.script.waiting).map Task.request
  let ready := if stage.script.gated then min stage.script.permits running.length
    else running.length
  let script := { stage.script with
    sent := stage.script.sent ++ reached
    permits := if stage.script.gated then stage.script.permits - ready else stage.script.permits
    waiting := running.length - ready }
  answer { stage with script } (running.take ready)

/-- Takes the next event, for which requests may have to go on; none if none can come. -/
def take? (stage : Stage) : Option Event × Stage :=
  match stage.widget.take? with
  | some (event, widget) => (some event, { stage with widget })
  | none =>
    let stage := stage.tick
    match stage.widget.take? with
    | some (event, widget) => (some event, { stage with widget })
    | none => (none, stage)

/-- Handles events until no request is in flight, in at most `fuel` steps, and tells whether that
came about. -/
def settleWithin : Nat → Stage → Stage × Bool
  | 0, stage => (stage, false)
  | fuel + 1, stage =>
    if stage.widget.inFlight = 0 then ({ stage with widget := stage.widget.drain }, true)
    else match stage.take? with
      | (some event, stage) =>
        settleWithin fuel { stage with widget := stage.widget.handle event }
      | (none, stage) => (stage, false)

/-- Handles events until no request is in flight. Each step handles an event, and every event is in
the queue already or comes from a running request. -/
def settle (stage : Stage) : Stage × Bool :=
  settleWithin (stage.widget.queue.length + stage.widget.running.length + 1) stage

/-- Adds permits to the gate. -/
def release (stage : Stage) (count : Nat) : Stage :=
  { stage with script.permits := stage.script.permits + count }

end Stage
end RemoteTerminal
