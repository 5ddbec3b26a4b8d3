import RemoteTerminal.Host

/-!
A run of the host from its first line to its end, in which each request is answered before the next
line is read. A transport answers a request or, interrupted, does not.
-/
namespace RemoteTerminal.Host

/-- A transport with a state of its own: its reply to a request, or none if the run is interrupted
while the request is on its way. -/
abbrev Transport (σ : Type) := σ → Request → Option Reply × σ

/-- A host part-way through its run, with the requests that were sent. -/
structure Progress (σ : Type) where
  host : Host
  transport : σ
  sent : List Request := []
  interrupted : Bool := false
  fault : Option FileFault := none

variable {σ : Type}

namespace Progress

/-- Meets the events that wait in the widget's queue, at most `fuel` of them. -/
def meetEvents : Nat → Host → Host
  | 0, h => h
  | fuel + 1, h =>
    match h.widget.take? with
    | none => h
    | some (event, widget) => meetEvents fuel ({ h with widget }.meetEvent event)

/-- Answers the requests that run, and those that follow from the answers, at most `fuel` of
them. -/
def answer (transport : Transport σ) : Nat → Progress σ → Progress σ
  | 0, p => p
  | fuel + 1, p =>
    match p.host.widget.running with
    | [] => p
    | task :: _ =>
      let sent := p.sent ++ [task.request]
      match transport p.transport task.request with
      | (none, state) => { p with transport := state, sent, interrupted := true }
      | (some reply, state) =>
        let widget := p.host.widget.finish task reply
        let host := meetEvents (widget.queue.length) { p.host with widget }
        answer transport fuel { p with host, transport := state, sent }

/-- Answers until nothing runs. Every further request comes from a line that waits. -/
def settle (transport : Transport σ) (p : Progress σ) : Progress σ :=
  answer transport (p.host.widget.running.length + p.host.queued.length) p

/-- The first line that cannot be read. -/
def unreadable? : List (Except FileFault Text) → Option FileFault
  | [] => none
  | .ok _ :: lines => unreadable? lines
  | .error fault :: _ => some fault

/-- Meets the lines one by one. An interruption stops the run where it is, but a line that cannot
be read stops it with a fault, also when it was read while a request was on its way. -/
def meetLines (transport : Transport σ) : List (Except FileFault Text) → Progress σ → Progress σ
  | [], p =>
    if p.interrupted then p
    else { p with host.widget := p.host.meetEnd.widget.drain, host.inputOpen := false }
  | line :: lines, p =>
    if p.interrupted then { p with fault := unreadable? (line :: lines) }
    else match line with
      | .error fault => { p with fault := some fault }
      | .ok text =>
        meetLines transport lines (settle transport { p with host := p.host.meetLine text })

end Progress

/-- Runs a widget over lines. -/
def run (transport : Transport σ) (state : σ) (widget : Widget)
    (lines : List (Except FileFault Text)) : Progress σ :=
  let p : Progress σ := { host := { widget }, transport := state }
  Progress.meetLines transport lines (p.settle transport)

end RemoteTerminal.Host
