import RemoteTerminal.Host.Run
import RemoteTerminal.Proofs.Host.Turns
import Mathlib.Data.List.Nodup

/-!
# The run is one of the orders

`run` reads a line once every request before it is answered. `run_followed`: with a transport that
answers in order, the loop can go the same way, and ends as the run does.
-/

namespace RemoteTerminal.Host

/-- The transport that answers the `n`-th request with the `n`-th reply. -/
def inOrder (replies : Nat → Reply) : Transport Nat := fun n _ => (some (replies n), n + 1)

/-- A loop at rest that has gone the way of a run, with the lines that are still to be met. -/
structure Follows (replies : Nat → Reply) (start : Loop) (p : Progress Nat)
    (unread : List (Except FileFault Text)) (s : Loop) : Prop where
  reached : Steps replies start s
  host_eq : s.host = p.host
  sent_eq : p.sent = s.sent.map Task.request
  transport_eq : p.transport = s.sent.length
  going : p.interrupted = false ∧ p.fault = none
  unread_eq : s.unread = unread
  waiting : s.phase = .waiting
  inputOpen : s.host.inputOpen = true
  quiet : s.posted = []
  stuck : s.host.widget.input.visible = false ∨ s.host.queued = []
  queue_eq : s.host.widget.queue = []
  dispatched_eq : s.dispatched = s.sent ++ s.host.widget.running

section
variable {replies : Nat → Reply} {url : Text} {options : Options} {containerHeight : Nat}
variable {lines unread : List (Except FileFault Text)} {p : Progress Nat} {s : Loop}

/-- A loop that has met something and submitted what it could is at rest again. -/
theorem Follows.of_pumped {start t : Loop} {host : Host} (reached : Steps replies start t)
    (pumped : Pumped s t host.pump) (host_eq : p.host = host.pump)
    (sent_eq : p.sent = s.sent.map Task.request) (transport_eq : p.transport = s.sent.length)
    (going : p.interrupted = false ∧ p.fault = none) (unread_eq : s.unread = unread)
    (inputOpen : host.inputOpen = true) (quiet : s.posted = []) (queue_eq : host.widget.queue = [])
    (dispatched_eq : s.dispatched = s.sent ++ s.host.widget.running) :
    Follows replies start p unread t := by
  obtain ⟨same, phase, lines, sent, posted, tasks, dispatched, running⟩ := pumped
  have still_open : t.host.inputOpen = true := by
    rw [same, Host.pump, inputOpen_submitLines, inputOpen]
  refine ⟨reached, same.trans host_eq.symm, sent ▸ sent_eq, sent ▸ transport_eq, going,
    lines.trans unread_eq, ?_, still_open, posted.trans quiet, ?_, ?_, ?_⟩
  · simp [phase, Host.done, still_open]
  · rw [same]
    exact stuck_submitLines _ _
  · rw [same, Host.pump, queue_submitLines, queue_eq]
  · rw [dispatched, dispatched_eq, sent, running, List.append_assoc]

/-- Where nothing runs, nothing waits. -/
theorem Follows.idle
    (f : Follows replies (.start (.start url options containerHeight true) lines) p unread s)
    (none_running : s.host.widget.running = []) :
    s.host.widget.inFlight = 0 ∧ s.host.queued = [] := by
  cases reachable_turn f.reached f.quiet with
  | ready visible inFlight =>
    exact ⟨inFlight, f.stuck.resolve_left (by simp [visible])⟩
  | asked _ _ _ one_running => simp [one_running] at none_running
  | answered _ _ _ _ queue => simp [f.queue_eq] at queue

/-- At rest at most one request runs, and it has not reached the transport. -/
theorem Follows.only
    (f : Follows replies (.start (.start url options containerHeight true) lines) p unread s)
    {task : Task} {others : List Task} (running : s.host.widget.running = task :: others) :
    others = [] ∧ task ∉ s.sent := by
  constructor
  · cases reachable_turn f.reached f.quiet with
    | ready _ _ none_running => simp [none_running] at running
    | answered _ _ _ none_running => simp [none_running] at running
    | asked _ _ _ only => exact (List.cons.inj (running.symm.trans only)).2
  · have distinct : s.dispatched.Nodup := by
      apply List.Nodup.of_map Task.number
      rw [(reachable_patience (patient_of_quiet f.reached f.quiet)).numbers_eq]
      exact List.nodup_range
    rw [f.dispatched_eq, running] at distinct
    exact fun sent => List.disjoint_of_nodup_append distinct sent (.head _)

/-- The request that runs reaches the transport and ends, and its completion is met. -/
theorem Follows.answered
    (f : Follows replies (.start (.start url options containerHeight true) lines) p unread s)
    {task : Task} {others : List Task} (running : s.host.widget.running = task :: others) :
    let widget := p.host.widget.finish task (replies p.transport)
    ∃ t, Follows replies (.start (.start url options containerHeight true) lines)
        { p with
          host := Progress.meetEvents widget.queue.length { p.host with widget }
          transport := p.transport + 1
          sent := p.sent ++ [task.request] } unread t ∧
      t.host.widget.running.length + t.host.queued.length ≤ s.host.queued.length := by
  rw [← f.host_eq, f.transport_eq]
  intro widget
  obtain ⟨rfl, fresh⟩ := f.only running
  let event : Event := .completed task.number (replies s.sent.length).outcome
  have queue : widget.queue = [event] := by simp [widget, Widget.finish, f.queue_eq, event]
  have ended : widget.running = [] := by simp [widget, Widget.finish, running]
  have next : widget.take? = some (event, { widget with queue := [] }) := by
    simp [Widget.take?, queue]
  have met : Progress.meetEvents widget.queue.length { s.host with widget } =
      ({ s.host with widget := { widget with queue := [] } } : Host).meetEvent event := by
    simp [queue, Progress.meetEvents, next]
  have asks := f.reached.tail (.reach s task (by simp [running]) fresh)
  have finishes := asks.tail (.finish _ task s.sent.length (by simp [running])
    List.getElem?_concat_length)
  obtain ⟨t, steps, pumped⟩ := meets_event replies
    { s with host.widget := widget, sent := s.sent ++ [task] } event _ f.waiting next
  refine ⟨t, ?_, ?_⟩
  · rw [met]
    refine Follows.of_pumped (finishes.trans steps) pumped rfl ?_ ?_ f.going f.unread_eq
      f.inputOpen f.quiet ?_ ?_
    · simp [f.sent_eq]
    · simp
    · exact Widget.queue_handle _ _
    · show s.dispatched = (s.sent ++ [task]) ++ widget.running
      rw [f.dispatched_eq, running, ended, List.append_nil]
  · have spent := length_submitLines_le s.host.queued
      { s.host with widget := { widget with queue := [] }.handle event }
    rw [pumped.host_eq]
    refine Nat.le_trans spent ?_
    simp [ended]

/-- A reply for each request that runs and for each line that waits is enough to come to rest with
nothing running. -/
theorem Follows.settled (fuel : Nat)
    (f : Follows replies (.start (.start url options containerHeight true) lines) p unread s)
    (enough : s.host.widget.running.length + s.host.queued.length ≤ fuel) :
    ∃ t, Follows replies (.start (.start url options containerHeight true) lines)
        (Progress.answer (inOrder replies) fuel p) unread t ∧ t.host.widget.running = [] := by
  induction fuel generalizing p s with
  | zero => exact ⟨s, f, List.length_eq_zero_iff.mp (by omega)⟩
  | succ fuel ih =>
    cases running : s.host.widget.running with
    | nil =>
      have stays : Progress.answer (inOrder replies) (fuel + 1) p = p := by
        rw [Progress.answer, ← f.host_eq, running]
      exact ⟨s, stays.symm ▸ f, running⟩
    | cons task others =>
      obtain ⟨t, follows, spent⟩ := f.answered running
      rw [Progress.answer, ← f.host_eq, running]
      rw [← f.host_eq] at follows
      refine ih follows ?_
      rw [running, List.length_cons] at enough
      omega

/-- The lines that are left are met one after the other, each at rest with nothing running. -/
theorem Follows.ends
    (f : Follows replies (.start (.start url options containerHeight true) lines) p unread s)
    (none_running : s.host.widget.running = []) :
    let result := Progress.meetLines (inOrder replies) unread p
    ∃ t, Steps replies (.start (.start url options containerHeight true) lines) t ∧
      t.posted = [] ∧ t.host = result.host ∧ t.sent.map Task.request = result.sent ∧
      result.fault = Progress.unreadable? unread ∧
      t.phase = .ended (result.fault.elim .closed .unreadable) := by
  obtain ⟨uninterrupted, no_fault⟩ := f.going
  induction unread generalizing p s with
  | nil =>
    obtain ⟨settled, empty⟩ := f.idle none_running
    have pumps : s.host.meetEnd = { s.host with inputOpen := false } := by
      rw [Host.meetEnd, Host.pump, empty]
      simp [submitLines, ← empty]
    obtain ⟨t, steps, pumped⟩ := meets_end replies s f.waiting f.inputOpen f.unread_eq
    have same : t.host = { s.host with inputOpen := false } := pumped.host_eq.trans pumps
    have done : t.host.done = true := by simp [same, Host.done, settled]
    have draining : t.phase = .draining := by rw [pumped.phase_eq, if_pos done]
    have leaves := (f.reached.trans steps).tail (.leave t draining (by rw [same, f.queue_eq]))
    have drained := Widget.drain_of_empty f.queue_eq
    refine ⟨_, leaves, pumped.posted_eq.trans f.quiet, ?_, ?_, ?_, ?_⟩
    · simp [Progress.meetLines, uninterrupted, same, ← f.host_eq, pumps, drained]
    · simp [Progress.meetLines, uninterrupted, pumped.sent_eq, f.sent_eq]
    · simp [Progress.meetLines, uninterrupted, no_fault, Progress.unreadable?]
    · simp [Progress.meetLines, uninterrupted, no_fault]
  | cons line rest ih =>
    cases line with
    | error fault =>
      have stops := f.reached.tail (.fault s fault rest f.waiting f.inputOpen f.unread_eq)
      refine ⟨_, stops, f.quiet, ?_, ?_, ?_, ?_⟩
      · simp [Progress.meetLines, uninterrupted, f.host_eq]
      · simp [Progress.meetLines, uninterrupted, f.sent_eq]
      · simp [Progress.meetLines, uninterrupted, Progress.unreadable?]
      · simp [Progress.meetLines, uninterrupted]
    | ok line =>
      obtain ⟨t, steps, pumped⟩ := meets_line replies s line rest f.waiting f.inputOpen f.unread_eq
      have met : Follows replies (.start (.start url options containerHeight true) lines)
          { p with host := p.host.meetLine line } rest t := by
        refine Follows.of_pumped (f.reached.trans steps) pumped ?_ f.sent_eq f.transport_eq f.going
          rfl f.inputOpen f.quiet f.queue_eq f.dispatched_eq
        rw [← f.host_eq]
        rfl
      obtain ⟨u, settled, none_left⟩ := met.settled _ (Nat.le_refl _)
      rw [met.host_eq] at settled
      rw [Progress.meetLines, if_neg (by simp [uninterrupted])]
      exact ih settled none_left settled.going.1 settled.going.2

/-- **The run is one of the orders.** With a transport that answers in order, a run ends as a loop
does in which nobody posts: at the first line that cannot be read, or else at the end of the
lines. -/
theorem run_followed (replies : Nat → Reply) (url : Text) (lines : List (Except FileFault Text)) :
    let start := Widget.start url options containerHeight true
    let result := run (inOrder replies) 0 start lines
    ∃ s, Steps replies (.start start lines) s ∧ s.posted = [] ∧ s.host = result.host ∧
      s.sent.map Task.request = result.sent ∧ result.fault = Progress.unreadable? lines ∧
      s.phase = .ended (result.fault.elim .closed .unreadable) := by
  intro start result
  have fresh := Widget.start_fresh url options containerHeight true
  have f : Follows replies (.start start lines) { host := { widget := start }, transport := 0 }
      lines (.start start lines) := by
    refine ⟨.refl, rfl, rfl, rfl, ⟨rfl, rfl⟩, rfl, rfl, rfl, rfl, .inr rfl, ?_, rfl⟩
    exact fresh.queue_eq.trans (by simp)
  obtain ⟨t, settled, none_left⟩ := f.settled _ (Nat.le_refl _)
  exact settled.ends none_left

end

end RemoteTerminal.Host
