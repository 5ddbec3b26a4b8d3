import RemoteTerminal.Proofs.Host.Schedule
import RemoteTerminal.Proofs.Widget.Changes

/-!
# A disabled host hears nothing

A host whose input line is disabled takes no line. All that can happen to its widget is that the
request forced by the start is answered (`Answering`), and all that can happen to a line is that it
is ignored (`Deaf`).

* `ended_deaf`: a loop that the end of the lines has ended holds the widget of the answered request,
  whatever the lines were, and was warned if there were any.
* `Told`, `told_of_steps`: a host prints the warning once, at the first line that it ignores.
* `run_deaf`: `run` comes to the same as a loop.
* `Heard`, `heard_eq`: what is printed apart from the panel, step by step, is what `notices` tells.
* `disabled_host_deaf`: two runs over any two lists of lines differ in the warning at most.
-/

namespace RemoteTerminal

namespace Widget

/-- A widget with a disabled input line, as it starts: at most one request runs, nothing else is in
flight, and the line is hidden only while a request runs. -/
structure Secluded (w : Widget) : Prop where
  disabled : w.input.disabled = true
  running_le : w.running.length ≤ 1
  inFlight_eq : w.inFlight = w.running.length
  queue_eq : w.queue = []
  visible : w.running = [] → w.input.visible = true

theorem start_secluded (url : Text) (options : Options) (containerHeight : Nat)
    (disabled : (options.resolve containerHeight).inputDisabled = true) :
    (start url options containerHeight true).Secluded := by
  have fresh := start_fresh url options containerHeight true
  refine ⟨fresh.disabled_eq.trans disabled, ?_, ?_, ?_, ?_⟩
  · rw [fresh.running_eq]
    split <;> simp
  · rw [fresh.inFlight_eq, fresh.running_eq]
    cases (options.resolve containerHeight).submitOnLoad <;> rfl
  · rw [fresh.queue_eq]
    simp
  · rw [fresh.running_eq, fresh.visible_eq]
    cases (options.resolve containerHeight).submitOnLoad <;> simp

/-- The widget once the request that it starts with, if any, is answered and its output shown. -/
def settledBy (first : Widget) (reply : Reply) : Widget :=
  if first.running.isEmpty then first
  else { first with
    session := first.session.append reply.outcome.toText
    inFlight := 0
    running := [] }

/-- How far the request that a widget starts with has come, if there is one: it is on its way, its
completion waits, or its output is shown. -/
inductive Answering (first : Widget) (reply : Reply) (sent : List Task) (w : Widget) : Prop where
  | asked (widget_eq : w = first) (sent_eq : sent = [] ∨ sent = first.running)
  | replied (task : Task) (only : first.running = [task]) (sent_eq : sent = [task])
      (widget_eq : w = { first with
        running := []
        queue := [.completed task.number reply.outcome] })
  | shown (task : Task) (only : first.running = [task]) (sent_eq : sent = [task])
      (widget_eq : w = first.settledBy reply)

variable {first w : Widget} {reply : Reply} {sent : List Task}

theorem Secluded.only (h : first.Secluded) {task : Task} (running : task ∈ first.running) :
    first.running = [task] := by
  have one := h.running_le
  match tasks : first.running with
  | [] => simp [tasks] at running
  | [other] =>
    rw [tasks] at running
    rw [List.mem_singleton.mp running]
  | _ :: _ :: _ => simp [tasks] at one

theorem settledBy_of_running {task : Task} (only : first.running = [task]) :
    first.settledBy reply = { first with
      session := first.session.append reply.outcome.toText
      inFlight := 0
      running := [] } := by
  simp [settledBy, only]

namespace Answering

theorem disabled (h : Answering first reply sent w) (secluded : first.Secluded) :
    w.input.disabled = true := by
  cases h with
  | asked widget | replied _ _ _ widget =>
    rw [widget]
    exact secluded.disabled
  | shown task only _ widget =>
    rw [widget, settledBy_of_running only]
    exact (Panel.disabled_append ..).trans secluded.disabled

/-- Once nothing is in flight, the request is answered. -/
theorem settled (h : Answering first reply sent w) (secluded : first.Secluded)
    (settled : w.inFlight = 0) :
    w = first.settledBy reply ∧ sent = first.running ∧ w.input.visible = true := by
  cases h with
  | asked widget sent =>
    rw [widget, secluded.inFlight_eq, List.length_eq_zero_iff] at settled
    refine ⟨?_, ?_, ?_⟩
    · rw [widget, settledBy, settled]
      rfl
    · rw [settled] at sent ⊢
      exact sent.elim id id
    · rw [widget]
      exact secluded.visible settled
  | replied task only _ widget =>
    have one : w.inFlight = 1 := by
      rw [widget]
      exact secluded.inFlight_eq.trans (by rw [only]; rfl)
    omega
  | shown task only sent widget =>
    refine ⟨widget, sent.trans only.symm, ?_⟩
    rw [widget, settledBy_of_running only]
    exact Panel.visible_append ..

/-- A request that runs is the first one, and has not been answered. -/
theorem asked_of_running (h : Answering first reply sent w) (secluded : first.Secluded)
    {task : Task} (running : task ∈ w.running) :
    w = first ∧ first.running = [task] ∧ (sent = [] ∨ sent = [task]) := by
  cases h with
  | asked widget sent =>
    rw [widget] at running
    have only := secluded.only running
    rw [only] at sent
    exact ⟨widget, only, sent⟩
  | replied _ _ _ widget => simp [widget] at running
  | shown _ only _ widget => simp [widget, settledBy_of_running only] at running

/-- An event that waits is the completion of the first request. -/
theorem shown_of_take (h : Answering first reply sent w) (secluded : first.Secluded)
    {event : Event} {next : Widget} (taken : w.take? = some (event, next)) :
    w.inFlight = 1 ∧ Answering first reply sent (next.handle event) := by
  obtain ⟨rest, queue, rfl⟩ := take?_eq_some.mp taken
  cases h with
  | asked widget => simp [widget, secluded.queue_eq] at queue
  | shown _ only _ widget =>
    simp [widget, settledBy_of_running only, secluded.queue_eq] at queue
  | replied task only sent widget =>
    have inFlight : first.inFlight = 1 := secluded.inFlight_eq.trans (by rw [only]; rfl)
    subst widget
    obtain ⟨rfl, rfl⟩ := List.cons.inj queue
    refine ⟨inFlight, .shown task only sent ?_⟩
    rw [settledBy_of_running only, handle, inFlight, ← secluded.queue_eq]
    rfl

end Answering

end Widget

namespace Host

variable {replies : Nat → Reply} {first : Widget} {lines : List (Except FileFault Text)}
variable {s t : Loop}

/-! ## The loop -/

/-- A loop that hears nothing: its widget answers its first request, and the lines that it has met
were ignored or wait. -/
structure Deaf (first : Widget) (reply : Reply) (lines : List (Except FileFault Text)) (s : Loop) :
    Prop where
  answering : Widget.Answering first reply s.sent s.host.widget
  lines_eq : ∃ ignored, lines = (ignored ++ s.host.queued).map .ok ++ s.unread ∧
    s.host.warned = !ignored.isEmpty
  at_end : s.host.inputOpen = false → s.unread = []
  left : s.phase = .draining ∨ s.phase = .ended .closed →
    s.host.inputOpen = false ∧ s.host.queued = [] ∧ s.host.widget.inFlight = 0

theorem start_deaf (first : Widget) (reply : Reply) (lines : List (Except FileFault Text)) :
    Deaf first reply lines (.start first lines) where
  answering := .asked rfl (.inl rfl)
  lines_eq := ⟨[], rfl, rfl⟩
  at_end := nofun
  left := nofun

theorem step_deaf (secluded : first.Secluded) (h : Step replies s t) (quiet : t.posted = [])
    (ih : Deaf first (replies 0) lines s) : Deaf first (replies 0) lines t := by
  obtain ⟨answering, ⟨ignored, all, warned⟩, at_end, left⟩ := ih
  cases h with
  | line line rest waiting _ next =>
    refine ⟨answering, ⟨ignored, ?_, warned⟩, ?_, nofun⟩
    · rw [all, next]
      simp
    · intro closed
      rw [at_end closed] at next
      cases next
  | fault => exact ⟨answering, ⟨ignored, all, warned⟩, at_end, nofun⟩
  | interrupt => exact ⟨answering, ⟨ignored, all, warned⟩, at_end, nofun⟩
  | close _ _ none_left => exact ⟨answering, ⟨ignored, all, warned⟩, fun _ => none_left, nofun⟩
  | event event widget _ next =>
    exact ⟨(answering.shown_of_take secluded next).2, ⟨ignored, all, warned⟩, at_end, nofun⟩
  | submit _ _ _ _ enabled =>
    rw [answering.disabled secluded] at enabled
    cases enabled
  | ignore line rest submitting _ _ next =>
    refine ⟨answering, ⟨ignored ++ [line], ?_, by simp [ignoreLine]⟩, at_end, fun out => ?_⟩
    · rw [all, next]
      simp [ignoreLine]
    · simp [submitting] at out
  | rest submitting stuck =>
    refine ⟨answering, ⟨ignored, all, warned⟩, at_end, fun out => ?_⟩
    by_cases done : s.host.done = true
    · simp only [Host.done, Bool.and_eq_true, Bool.not_eq_true', decide_eq_true_eq] at done
      obtain ⟨closed, settled⟩ := done
      obtain ⟨-, -, visible⟩ := answering.settled secluded settled
      exact ⟨closed, stuck.resolve_left (by simp [visible]), settled⟩
    · simp [done] at out
  | drain event widget draining next =>
    obtain ⟨-, -, settled⟩ := left (.inl draining)
    obtain ⟨in_flight, -⟩ := answering.shown_of_take secluded next
    omega
  | leave draining _ =>
    exact ⟨answering, ⟨ignored, all, warned⟩, at_end, fun _ => left (.inl draining)⟩
  | reach task running fresh =>
    obtain ⟨widget, only, sent⟩ := answering.asked_of_running secluded running
    have unsent : s.sent = [] := sent.resolve_right fun sent => fresh (by simp [sent])
    refine ⟨.asked widget (.inr ?_), ⟨ignored, all, warned⟩, at_end, left⟩
    rw [unsent, only]
    rfl
  | finish task k running reached =>
    obtain ⟨widget, only, sent⟩ := answering.asked_of_running secluded running
    have sent : s.sent = [task] := sent.resolve_left fun unsent => by simp [unsent] at reached
    obtain rfl : k = 0 := by
      rw [sent, List.getElem?_eq_some_iff] at reached
      obtain ⟨small, -⟩ := reached
      simpa using small
    refine ⟨.replied task only sent ?_, ⟨ignored, all, warned⟩, at_end, fun out => ?_⟩
    · simp [Widget.finish, widget, only, secluded.queue_eq]
    · exact left out
  | post => simp at quiet

theorem reachable_deaf (secluded : first.Secluded) (h : Steps replies (.start first lines) s)
    (quiet : s.posted = []) : Deaf first (replies 0) lines s := by
  induction h with
  | refl => exact start_deaf first (replies 0) lines
  | tail _ step ih => exact step_deaf secluded step quiet (ih (posted_of_step step quiet))

/-- What a loop that the end of the lines has ended has come to. -/
theorem ended_deaf {typed : List Text} (secluded : first.Secluded)
    (h : Steps replies (.start first (typed.map .ok)) s) (quiet : s.posted = [])
    (ended : s.phase = .ended .closed) :
    s.host.widget = first.settledBy (replies 0) ∧ s.sent = first.running ∧
      s.host.warned = !typed.isEmpty := by
  obtain ⟨answering, ⟨ignored, all, warned⟩, at_end, left⟩ := reachable_deaf secluded h quiet
  obtain ⟨closed, empty, settled⟩ := left (.inr ended)
  obtain ⟨widget, sent, -⟩ := answering.settled secluded settled
  rw [empty, at_end closed, List.append_nil, List.append_nil] at all
  obtain rfl : typed = ignored := List.map_injective_iff.mpr (fun _ _ => Except.ok.inj) all
  exact ⟨widget, sent, warned⟩

/-! ## The warning -/

/-- What was printed of a host's warnings is the one warning, if it was warned. -/
def Told (h : Host) : Prop := h.warnings = if h.warned then [ignoredWarning] else []

theorem ignoreLine_ignoreLine (h : Host) : h.ignoreLine.ignoreLine = h.ignoreLine := rfl

theorem Told.ignoreLine {h : Host} (told : h.Told) : h.ignoreLine.Told := by
  unfold Told at told ⊢
  show (if h.warned then h.warnings else h.warnings ++ [ignoredWarning]) = [ignoredWarning]
  rw [told]
  cases h.warned <;> rfl

theorem told_of_steps (h : Steps replies (.start first lines) s) : s.host.Told := by
  induction h with
  | refl => rfl
  | tail _ step ih =>
    cases step with
    | ignore => exact Told.ignoreLine ih
    | _ => exact ih

/-- Warnings are not taken back. -/
theorem warnings_of_step (h : Step replies s t) : s.host.warnings <+: t.host.warnings := by
  cases h with
  | ignore =>
    show _ <+: if s.host.warned then s.host.warnings else s.host.warnings ++ [ignoredWarning]
    split
    · exact List.prefix_rfl
    · exact List.prefix_append ..
  | _ => exact List.prefix_rfl

/-- A host that met some lines and ignored them all has printed the warning where there were any. -/
theorem Told.notices_eq {h : Host} (told : h.Told) (console : Console) {typed : List Text}
    (warned : h.warned = !typed.isEmpty) :
    h.notices console = if typed = [] then [] else console.warning ignoredWarning := by
  rw [notices, noticesAfter, told, warned]
  cases typed with
  | nil => rfl
  | cons => exact List.flatMap_singleton ..

/-! ## The run -/

/-- A host that ignores whatever comes: nothing runs or waits, and its disabled line is visible. -/
structure Idle (h : Host) : Prop where
  queued_eq : h.queued = []
  running_eq : h.widget.running = []
  queue_eq : h.widget.queue = []
  visible : h.widget.input.visible = true
  disabled : h.widget.input.disabled = true

theorem Idle.meetLine_eq {h : Host} (idle : h.Idle) (line : Text) :
    h.meetLine line = h.ignoreLine := by
  obtain ⟨widget, queued, inputOpen, warned, warnings⟩ := h
  obtain ⟨rfl, -, -, visible, disabled⟩ := idle
  dsimp only at visible disabled
  simp [meetLine, pump, submitLines, visible, disabled, ignoreLine]

theorem Idle.meetEnd_eq {h : Host} (idle : h.Idle) : h.meetEnd = { h with inputOpen := false } := by
  obtain ⟨widget, queued, inputOpen, warned, warnings⟩ := h
  obtain ⟨rfl, -⟩ := idle
  rfl

theorem settle_of_idle {σ : Type} (transport : Transport σ) {p : Progress σ} (idle : p.host.Idle) :
    p.settle transport = p := by
  rw [Progress.settle, idle.running_eq, idle.queued_eq]
  rfl

/-- An idle host ignores all lines up to their end. -/
theorem meetLines_of_idle {σ : Type} (transport : Transport σ) (typed : List Text)
    {p : Progress σ} (idle : p.host.Idle) (going : p.interrupted = false) :
    Progress.meetLines transport (typed.map .ok) p = { p with
      host := { (if typed = [] then p.host else p.host.ignoreLine) with inputOpen := false } } := by
  induction typed generalizing p with
  | nil =>
    have drained := Widget.drain_of_empty idle.queue_eq
    simp [Progress.meetLines, going, idle.meetEnd_eq, drained]
  | cons line typed ih =>
    have still_idle : p.host.ignoreLine.Idle :=
      ⟨idle.queued_eq, idle.running_eq, idle.queue_eq, idle.visible, idle.disabled⟩
    rw [List.map_cons, Progress.meetLines, if_neg (by simp [going])]
    dsimp only
    rw [idle.meetLine_eq, settle_of_idle transport still_idle]
    refine (ih (p := { p with host := p.host.ignoreLine }) still_idle going).trans ?_
    -- A host that was warned has nothing more to ignore.
    rw [ignoreLine_ignoreLine, ite_self, if_neg (List.cons_ne_nil line typed)]

/-- The request that a secluded widget starts with is answered before any line is met. -/
theorem settle_first (replies : Nat → Reply) (secluded : first.Secluded) :
    ({ host := { widget := first }, transport := 0 } : Progress Nat).settle (inOrder replies) =
      { host := { widget := first.settledBy (replies 0) }
        transport := first.running.length
        sent := first.running.map Task.request } := by
  match tasks : first.running with
  | [] => simp [Progress.settle, tasks, Progress.answer, Widget.settledBy]
  | task :: others =>
    have only := secluded.only (tasks ▸ List.mem_cons_self : task ∈ first.running)
    obtain rfl : others = [] := (List.cons.inj (tasks.symm.trans only)).2
    have inFlight : first.inFlight = 1 := secluded.inFlight_eq.trans (by rw [only]; rfl)
    simp [Progress.settle, Progress.answer, inOrder, only, Widget.finish, secluded.queue_eq,
      Progress.meetEvents, Widget.take?, meetEvent, pump, submitLines, Widget.handle, inFlight,
      Widget.settledBy_of_running only, Session.resolve]

theorem idle_settledBy (secluded : first.Secluded) (reply : Reply) :
    ({ widget := first.settledBy reply } : Host).Idle := by
  match tasks : first.running with
  | [] =>
    have same : first.settledBy reply = first := by simp [Widget.settledBy, tasks]
    rw [same]
    exact ⟨rfl, tasks, secluded.queue_eq, secluded.visible tasks, secluded.disabled⟩
  | task :: others =>
    have only := secluded.only (tasks ▸ List.mem_cons_self : task ∈ first.running)
    rw [Widget.settledBy_of_running only]
    exact ⟨rfl, rfl, secluded.queue_eq, Panel.visible_append ..,
      (Panel.disabled_append ..).trans secluded.disabled⟩

/-- What a run has come to at the end of the lines. -/
theorem run_deaf (replies : Nat → Reply) (secluded : first.Secluded) (typed : List Text) :
    let result := run (inOrder replies) 0 first (typed.map .ok)
    result.host.widget = first.settledBy (replies 0) ∧
      result.sent = first.running.map Task.request ∧ result.host.warned = !typed.isEmpty ∧
      result.host.Told := by
  intro result
  have same : result = Progress.meetLines (inOrder replies) (typed.map .ok) _ :=
    congrArg _ (settle_first replies secluded)
  rw [meetLines_of_idle _ _ (idle_settledBy secluded (replies 0)) rfl] at same
  rw [same]
  cases typed <;> exact ⟨rfl, rfl, rfl, rfl⟩

/-! ## What is printed apart from the panel -/

/-- What a step prints apart from the panel: the warnings that it adds. -/
def printedBy (console : Console) (s t : Loop) : Text :=
  t.host.noticesAfter s.host.warnings.length console

/-- A loop some steps later, and what was printed meanwhile apart from the panel. -/
inductive Heard (replies : Nat → Reply) (console : Console) (start : Loop) :
    Loop → Text → Prop where
  | start : Heard replies console start start []
  | next {s t : Loop} {printed : Text} (earlier : Heard replies console start s printed)
      (step : Step replies s t) : Heard replies console start t (printed ++ printedBy console s t)

/-- The notices of a host are all that was printed for it. -/
theorem heard_eq {console : Console} {printed : Text}
    (h : Heard replies console (.start first lines) s printed) :
    Steps replies (.start first lines) s ∧ printed = s.host.notices console := by
  induction h with
  | start => exact ⟨.refl, rfl⟩
  | @next s t printed _ step ih =>
    obtain ⟨steps, rfl⟩ := ih
    refine ⟨steps.tail step, ?_⟩
    obtain ⟨more, same⟩ := warnings_of_step step
    simp only [notices, printedBy, noticesAfter, ← same, List.drop_zero, List.drop_left,
      List.flatMap_append]

/-- **A disabled host is deaf.** Where the input line is disabled, whatever the other options are,
two loops that the ends of their lines have ended, with any two lists of lines in any two orders of
lines and completions, have sent the same requests, the forced first one or none; they show the same
transcript and input line, and have printed the same on any console that followed them from the
start. They differ in the warning at most, which is printed once where there is a line, and not at
all where there is none. `run` agrees with them. -/
theorem disabled_host_deaf {url : Text} {options : Options} {containerHeight : Nat}
    {typed other : List Text} {console : Console} {printed printed' : Text}
    (disabled : (options.resolve containerHeight).inputDisabled = true)
    (hs : Heard replies console
      (.start (.start url options containerHeight true) (typed.map .ok)) s printed)
    (ht : Heard replies console
      (.start (.start url options containerHeight true) (other.map .ok)) t printed')
    (quiet : s.posted = [] ∧ t.posted = [])
    (ended : s.phase = .ended .closed ∧ t.phase = .ended .closed) :
    let settings := options.resolve containerHeight
    let warning (lines : List Text) : Text :=
      if lines = [] then [] else console.warning ignoredWarning
    let result := run (inOrder replies) 0 (.start url options containerHeight true)
      (typed.map .ok)
    s.sent.map Task.request =
      (if settings.submitOnLoad then [.ofCommand url settings []] else []) ∧
    t.sent = s.sent ∧
    t.host.widget.transcript = s.host.widget.transcript ∧
    t.host.widget.input = s.host.widget.input ∧
    (console.run t.host.widget.signals).2 = (console.run s.host.widget.signals).2 ∧
    printed = warning typed ∧ printed' = warning other ∧
    result.sent = s.sent.map Task.request ∧ result.host.widget = s.host.widget ∧
    result.host.notices console = printed := by
  intro settings warning result
  have secluded := Widget.start_secluded url options containerHeight disabled
  obtain ⟨steps, rfl⟩ := heard_eq hs
  obtain ⟨steps', rfl⟩ := heard_eq ht
  obtain ⟨widget, sent, warns⟩ := ended_deaf secluded steps quiet.1 ended.1
  obtain ⟨widget', sent', warns'⟩ := ended_deaf secluded steps' quiet.2 ended.2
  obtain ⟨run_widget, run_sent, run_warns, run_told⟩ := run_deaf replies secluded typed
  have same : t.host.widget = s.host.widget := widget'.trans widget.symm
  refine ⟨?_, sent'.trans sent.symm, by rw [same], by rw [same], by rw [same],
    (told_of_steps steps).notices_eq console warns,
    (told_of_steps steps').notices_eq console warns', ?_, run_widget.trans widget.symm, ?_⟩
  · rw [sent, (Widget.start_fresh url options containerHeight true).running_eq, Bool.and_true]
    exact apply_ite (List.map Task.request) ..
  · rw [sent]
    exact run_sent
  · rw [run_told.notices_eq console run_warns, (told_of_steps steps).notices_eq console warns]

/-- A host without lines beside one whose only line waits behind the forced request and is ignored
once the answer is shown. -/
theorem ignored_line_unheard :
    let options : Options := {
      inputDisabled := some true
      submitOnLoad := some true
      allowEmptyInput := some true }
    let console : Console := { color := false, interactive := true, prompt := ['$', ' '] }
    let replies : Nat → Reply := fun _ => .answered (.ok ['x'])
    ∃ s t : Loop, ∃ printed printed' : Text,
      Heard replies console (.start (.start [] options 0 true) []) s printed ∧
      Heard replies console (.start (.start [] options 0 true) [.ok ['l', 's']]) t printed' ∧
      s.phase = .ended .closed ∧ t.phase = .ended .closed ∧ printed = [] ∧
      printed' = console.warning ignoredWarning ∧
      s.sent.map Task.request = [.ofCommand [] (options.resolve 0) []] ∧ t.sent = s.sent ∧
      t.host.widget.transcript = s.host.widget.transcript := by
  intro options console replies
  have alone : Heard replies console (.start (.start [] options 0 true) []) _ _ := .start
  have alone := alone.next (.close _ rfl rfl rfl)
  have alone := alone.next (.rest _ rfl (.inl rfl))
  have alone := alone.next (.reach _ _ (.head _) nofun)
  have alone := alone.next (.finish _ _ 0 (.head _) rfl)
  have alone := alone.next (.event _ _ _ rfl rfl)
  have alone := alone.next (.rest _ rfl (.inr rfl))
  have alone := alone.next (.leave _ rfl rfl)
  have waits : Heard replies console (.start (.start [] options 0 true) [.ok ['l', 's']]) _ _ :=
    .start
  have waits := waits.next (.line _ _ _ rfl rfl rfl)
  have waits := waits.next (.rest _ rfl (.inl rfl))
  have waits := waits.next (.reach _ _ (.head _) nofun)
  have waits := waits.next (.finish _ _ 0 (.head _) rfl)
  have waits := waits.next (.event _ _ _ rfl rfl)
  have waits := waits.next (.ignore _ _ _ rfl rfl rfl rfl)
  have waits := waits.next (.rest _ rfl (.inr rfl))
  have waits := waits.next (.close _ rfl rfl rfl)
  have waits := waits.next (.rest _ rfl (.inr rfl))
  have waits := waits.next (.leave _ rfl rfl)
  obtain ⟨requests, sent, shown, -, -, silent, warns, -⟩ := @disabled_host_deaf replies _ _ []
    options 0 [] [['l', 's']] console _ _ rfl alone waits ⟨rfl, rfl⟩ ⟨rfl, rfl⟩
  exact ⟨_, _, _, _, alone, waits, rfl, rfl, silent, warns, requests, sent, shown⟩

end Host

end RemoteTerminal
