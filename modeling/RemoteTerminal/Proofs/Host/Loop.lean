import RemoteTerminal.Host
import RemoteTerminal.Proofs.Widget.Operations
import Mathlib.Logic.Relation

/-!
# The loop of the console host

`Step` says what can happen next while a host is in its loop. The host meets one thing at a time, a
line, the end of the lines, an event or an interruption, and then submits what waits, line by line.
Meanwhile requests reach the transport and end, and others post text, at any moment. The `n`-th
request that reaches the transport gets the `n`-th reply.

`submits_pump`, `meets_line`, `meets_end`, `meets_event`: the loop, undisturbed, does what `pump`,
`meetLine`, `meetEnd` and `meetEvent` do.
-/

namespace RemoteTerminal.Host

/-- Why a loop ended: the lines are over and answered, the run was interrupted, or a line could not
be read. -/
inductive Ending where
  | closed
  | interrupted
  | unreadable (fault : FileFault)
  deriving DecidableEq, Repr

/-- Where a host stands in its loop: waiting for something to meet, submitting the lines that wait,
handling what is left in the queue, or out of the loop. -/
inductive Phase where
  | waiting
  | submitting
  | draining
  | ended (ending : Ending)
  deriving DecidableEq, Repr

/-- A host in its loop. `unread` holds the lines that it has not met, `taken` those that it has
taken for submission, `dispatched` the requests that it has started, `sent` those of them that have
reached the transport, and `posted` the texts of others. -/
structure Loop where
  host : Host
  phase : Phase := .waiting
  unread : List (Except FileFault Text)
  taken : List Text := []
  dispatched : List Task := []
  sent : List Task := []
  posted : List Text := []

namespace Loop

/-- A loop at its start. The start of the widget may have dispatched a request. -/
def start (widget : Widget) (lines : List (Except FileFault Text)) : Loop where
  host := { widget }
  unread := lines
  dispatched := widget.running

end Loop

/-- The requests that submitting a line starts. -/
def startedBy (w : Widget) (line : Text) : List Task :=
  (submitLine w line).running.drop w.running.length

/-- What can happen next to a host in its loop. A line that cannot be read stays unread, with
whatever follows it. -/
inductive Step (replies : Nat → Reply) : Loop → Loop → Prop where
  | line (s : Loop) (line : Text) (rest : List (Except FileFault Text))
      (waiting : s.phase = .waiting) (inputOpen : s.host.inputOpen = true)
      (next : s.unread = .ok line :: rest) :
      Step replies s { s with
        host.queued := s.host.queued ++ [line]
        phase := .submitting
        unread := rest }
  | fault (s : Loop) (fault : FileFault) (rest : List (Except FileFault Text))
      (waiting : s.phase = .waiting) (inputOpen : s.host.inputOpen = true)
      (next : s.unread = .error fault :: rest) :
      Step replies s { s with phase := .ended (.unreadable fault) }
  | close (s : Loop) (waiting : s.phase = .waiting) (inputOpen : s.host.inputOpen = true)
      (at_end : s.unread = []) :
      Step replies s { s with host.inputOpen := false, phase := .submitting }
  | event (s : Loop) (event : Event) (widget : Widget) (waiting : s.phase = .waiting)
      (next : s.host.widget.take? = some (event, widget)) :
      Step replies s { s with host.widget := widget.handle event, phase := .submitting }
  | interrupt (s : Loop) (waiting : s.phase = .waiting) :
      Step replies s { s with phase := .ended .interrupted }
  | submit (s : Loop) (line : Text) (rest : List Text) (submitting : s.phase = .submitting)
      (visible : s.host.widget.input.visible = true)
      (enabled : s.host.widget.input.disabled = false) (next : s.host.queued = line :: rest) :
      Step replies s { s with
        host.widget := submitLine s.host.widget line
        host.queued := rest
        taken := s.taken ++ [line]
        dispatched := s.dispatched ++ startedBy s.host.widget line }
  | ignore (s : Loop) (line : Text) (rest : List Text) (submitting : s.phase = .submitting)
      (visible : s.host.widget.input.visible = true)
      (disabled : s.host.widget.input.disabled = true) (next : s.host.queued = line :: rest) :
      Step replies s { s with host := { s.host with queued := rest }.ignoreLine }
  | rest (s : Loop) (submitting : s.phase = .submitting)
      (stuck : s.host.widget.input.visible = false ∨ s.host.queued = []) :
      Step replies s { s with phase := if s.host.done then .draining else .waiting }
  | drain (s : Loop) (event : Event) (widget : Widget) (draining : s.phase = .draining)
      (next : s.host.widget.take? = some (event, widget)) :
      Step replies s { s with host.widget := widget.handle event }
  | leave (s : Loop) (draining : s.phase = .draining) (empty : s.host.widget.queue = []) :
      Step replies s { s with phase := .ended .closed }
  | reach (s : Loop) (task : Task) (running : task ∈ s.host.widget.running)
      (fresh : task ∉ s.sent) : Step replies s { s with sent := s.sent ++ [task] }
  | finish (s : Loop) (task : Task) (k : Nat) (running : task ∈ s.host.widget.running)
      (reached : s.sent[k]? = some task) :
      Step replies s { s with host.widget := s.host.widget.finish task (replies k) }
  | post (s : Loop) (text : Text) :
      Step replies s { s with
        host.widget := s.host.widget.post text
        posted := s.posted ++ [text] }

/-- `t` can follow `s`, some steps later. -/
abbrev Steps (replies : Nat → Reply) : Loop → Loop → Prop := Relation.ReflTransGen (Step replies)

/-! ## Submitting lines -/

section
variable (w : Widget) (line : Text)

theorem submitLine_eq :
    submitLine w line =
      if (w.type line).session.accepts .user then (w.type line).begun true
      else (w.type line).onPanel fun p => p.signal (.prompt p.input) := by
  rw [submitLine, Widget.submit, Widget.submitFor_eq]
  cases (w.type line).session.accepts .user <;> rfl

@[simp] theorem queue_submitLine : (submitLine w line).queue = w.queue := by
  rw [submitLine_eq]
  split
  · exact (Widget.queue_begun _ true).trans (List.append_nil _)
  · rfl

theorem running_submitLine : (submitLine w line).running = w.running ++ startedBy w line := by
  have grows : w.running <+: (submitLine w line).running := by
    rw [submitLine_eq]
    split
    · rw [Widget.running_begun]
      exact List.prefix_append _ _
    · exact List.prefix_rfl
  exact (List.prefix_iff_eq_append.mp grows).symm

theorem length_startedBy_le : (startedBy w line).length ≤ 1 := by
  rw [startedBy, submitLine_eq, List.length_drop]
  split
  · simp [Widget.type]
  · simp [Widget.type, Widget.onPanel]

variable {w line}

theorem command_type (enabled : w.input.disabled = false) :
    (w.type line).session.command = line.trim := by
  show (w.input.setValue line).value.trim = _
  rw [InputLine.value_setValue enabled]

theorem accepts_type (enabled : w.input.disabled = false) :
    (w.type line).session.accepts .user = w.settings.admits line.trim := by
  rw [Session.accepts, command_type enabled]
  exact Bool.or_false _

theorem submitLine_admitted (enabled : w.input.disabled = false)
    (admitted : w.settings.admits line.trim = true) :
    submitLine w line = (w.type line).begun true := by
  rw [submitLine_eq, accepts_type enabled, if_pos admitted]

theorem submitLine_refused (enabled : w.input.disabled = false)
    (refused : w.settings.admits line.trim = false) :
    submitLine w line = (w.type line).onPanel fun p => p.signal (.prompt p.input) := by
  rw [submitLine_eq, accepts_type enabled, refused]
  rfl

end

section
variable (lines : List Text) (h : Host)

@[simp] theorem queue_submitLines : (submitLines lines h).widget.queue = h.widget.queue := by
  fun_induction submitLines lines h with
  | case1 | case2 => rfl
  | case3 _ _ _ _ _ ih => exact ih
  | case4 _ _ _ _ _ ih => rw [ih, queue_submitLine]

@[simp] theorem inputOpen_submitLines : (submitLines lines h).inputOpen = h.inputOpen := by
  fun_induction submitLines lines h with
  | case1 | case2 => rfl
  | case3 _ _ _ _ _ ih | case4 _ _ _ _ _ ih => exact ih

/-- Lines stay behind only where the input line is hidden. -/
theorem stuck_submitLines :
    (submitLines lines h).widget.input.visible = false ∨ (submitLines lines h).queued = [] := by
  fun_induction submitLines lines h with
  | case1 => exact .inr rfl
  | case2 _ _ _ hidden => exact .inl (by simpa using hidden)
  | case3 _ _ _ _ _ ih | case4 _ _ _ _ _ ih => exact ih

/-- Each line starts at most one request. -/
theorem length_submitLines_le :
    (submitLines lines h).widget.running.length + (submitLines lines h).queued.length ≤
      h.widget.running.length + lines.length := by
  fun_induction submitLines lines h with
  | case1 | case2 => exact Nat.le_refl _
  | case3 _ _ _ _ _ ih => exact Nat.le_succ_of_le ih
  | case4 line lines h _ _ ih =>
    have := length_startedBy_le h.widget line
    simp only [running_submitLine, List.length_append, List.length_cons] at ih ⊢
    omega

end

/-! ## The loop, undisturbed -/

variable (replies : Nat → Reply)

theorem after_step {s m : Loop} {P : Loop → Prop} (first : Step replies s m)
    (others : ∃ t, Steps replies m t ∧ P t) : ∃ t, Steps replies s t ∧ P t := by
  obtain ⟨t, steps, holds⟩ := others
  exact ⟨t, .head first steps, holds⟩

/-- A loop that has just met something and then submitted what it could. -/
structure Pumped (s t : Loop) (host : Host) : Prop where
  host_eq : t.host = host
  phase_eq : t.phase = if t.host.done then .draining else .waiting
  unread_eq : t.unread = s.unread
  sent_eq : t.sent = s.sent
  posted_eq : t.posted = s.posted
  started : ∃ tasks, t.dispatched = s.dispatched ++ tasks ∧
    t.host.widget.running = s.host.widget.running ++ tasks

theorem rests_pumped {s : Loop} (submitting : s.phase = .submitting)
    (stuck : s.host.widget.input.visible = false ∨ s.host.queued = []) :
    ∃ t, Steps replies s t ∧ Pumped s t s.host :=
  ⟨_, .single (.rest s submitting stuck), rfl, rfl, rfl, rfl, rfl, [], by simp, by simp⟩

theorem submits_lines (lines : List Text) (h : Host) (s : Loop) (submitting : s.phase = .submitting)
    (host : s.host = { h with queued := lines }) :
    ∃ t, Steps replies s t ∧ Pumped s t (submitLines lines h) := by
  have queued : s.host.queued = lines := by rw [host]
  have widget : s.host.widget = h.widget := by rw [host]
  fun_induction submitLines lines h generalizing s with
  | case1 =>
    rw [← host]
    exact rests_pumped replies submitting (.inr queued)
  | case2 line lines h hidden =>
    rw [← host]
    exact rests_pumped replies submitting (.inl (by simpa [widget] using hidden))
  | case3 line lines h shown disabled ih =>
    have visible : s.host.widget.input.visible = true := by simpa [widget] using shown
    refine after_step replies (.ignore s line lines submitting visible (by rw [widget, disabled])
      queued) ?_
    obtain ⟨t, steps, p⟩ := ih { s with host := { s.host with queued := lines }.ignoreLine }
      submitting (by rw [host]; rfl) rfl widget
    exact ⟨t, steps, p.host_eq, p.phase_eq, p.unread_eq, p.sent_eq, p.posted_eq, p.started⟩
  | case4 line lines h shown enabled ih =>
    have visible : s.host.widget.input.visible = true := by simpa [widget] using shown
    refine after_step replies (.submit s line lines submitting visible
      (by simpa [widget] using enabled) queued) ?_
    obtain ⟨t, steps, p⟩ := ih { s with
      host.widget := submitLine s.host.widget line
      host.queued := lines
      taken := s.taken ++ [line]
      dispatched := s.dispatched ++ startedBy s.host.widget line } submitting
      (by rw [host]) rfl (by rw [host])
    obtain ⟨tasks, dispatched, running⟩ := p.started
    refine ⟨t, steps, p.host_eq, p.phase_eq, p.unread_eq, p.sent_eq, p.posted_eq,
      startedBy s.host.widget line ++ tasks, ?_, ?_⟩
    · rw [dispatched, List.append_assoc]
    · rw [running, running_submitLine, List.append_assoc]

/-- Submitting until nothing more can be submitted is `pump`. -/
theorem submits_pump (s : Loop) (submitting : s.phase = .submitting) :
    ∃ t, Steps replies s t ∧ Pumped s t s.host.pump :=
  submits_lines replies s.host.queued s.host s submitting rfl

theorem meets_line (s : Loop) (line : Text) (rest : List (Except FileFault Text))
    (waiting : s.phase = .waiting) (inputOpen : s.host.inputOpen = true)
    (next : s.unread = .ok line :: rest) :
    ∃ t, Steps replies s t ∧ Pumped { s with unread := rest } t (s.host.meetLine line) := by
  refine after_step replies (.line s line rest waiting inputOpen next) ?_
  obtain ⟨t, steps, p⟩ := submits_pump replies { s with
    host.queued := s.host.queued ++ [line], phase := .submitting, unread := rest } rfl
  exact ⟨t, steps, p.host_eq, p.phase_eq, p.unread_eq, p.sent_eq, p.posted_eq, p.started⟩

theorem meets_end (s : Loop) (waiting : s.phase = .waiting) (inputOpen : s.host.inputOpen = true)
    (at_end : s.unread = []) : ∃ t, Steps replies s t ∧ Pumped s t s.host.meetEnd := by
  refine after_step replies (.close s waiting inputOpen at_end) ?_
  obtain ⟨t, steps, p⟩ := submits_pump replies { s with
    host.inputOpen := false, phase := .submitting } rfl
  exact ⟨t, steps, p.host_eq, p.phase_eq, p.unread_eq, p.sent_eq, p.posted_eq, p.started⟩

theorem meets_event (s : Loop) (event : Event) (widget : Widget) (waiting : s.phase = .waiting)
    (next : s.host.widget.take? = some (event, widget)) :
    ∃ t, Steps replies s t ∧ Pumped s t ({ s.host with widget }.meetEvent event) := by
  refine after_step replies (.event s event widget waiting next) ?_
  obtain ⟨t, steps, p⟩ := submits_pump replies { s with
    host.widget := widget.handle event, phase := .submitting } rfl
  obtain ⟨tasks, dispatched, running⟩ := p.started
  refine ⟨t, steps, p.host_eq, p.phase_eq, p.unread_eq, p.sent_eq, p.posted_eq, tasks, dispatched,
    ?_⟩
  obtain ⟨_, _, rfl⟩ := Widget.take?_eq_some.mp next
  rw [running, Widget.running_handle]

end RemoteTerminal.Host
