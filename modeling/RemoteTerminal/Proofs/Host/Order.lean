import RemoteTerminal.Proofs.Host.Loop

/-!
# Lines are submitted in their order

Whatever happens to a host whose input line is enabled, the lines that it has taken are a start of
the lines typed, the requests that it has dispatched are those of these lines, and when the lines
are over none is left (`Ordered`). The queue cannot be stranded: the input line is hidden only while
something is in flight (`Responsive.awaited`).
-/

namespace RemoteTerminal

/-- The commands of lines: the lines that are admitted, trimmed. -/
def Settings.commandsOf (settings : Settings) (lines : List Text) : List Text :=
  (lines.filter fun line => settings.admits line.trim).map Text.trim

/-- The commands submitted along with lines: the empty one that the start forces comes first. -/
def Settings.commands (settings : Settings) (lines : List Text) : List Text :=
  (if settings.submitOnLoad then [[]] else []) ++ settings.commandsOf lines

namespace Settings

variable (settings : Settings)

theorem commands_concat (lines : List Text) (line : Text) :
    settings.commands (lines ++ [line]) =
      settings.commands lines ++ if settings.admits line.trim then [line.trim] else [] := by
  cases h : settings.admits line.trim <;> simp [commands, commandsOf, h]

end Settings

namespace Widget

/-- A widget that takes commands: its input line is enabled, and hidden only while something is in
flight. -/
structure Responsive (url : Text) (settings : Settings) (w : Widget) : Prop where
  configured : w.session.Configured url settings
  enabled : w.input.disabled = false
  awaited : w.input.visible = false → 0 < w.inFlight

namespace Responsive

variable {url : Text} {settings : Settings} {w : Widget}

theorem of_same {other : Widget} (h : Responsive url settings w)
    (session : other.session = w.session) (inFlight : other.inFlight = w.inFlight) :
    Responsive url settings other := by
  refine ⟨session ▸ h.configured, ?_, ?_⟩
  · rw [input, session]
    exact h.enabled
  · rw [input, session, inFlight]
    exact h.awaited

theorem settings_eq (h : Responsive url settings w) : w.settings = settings :=
  h.configured.settings_eq

theorem start (url : Text) (options : Options) (containerHeight : Nat) (runtime : Bool)
    (enabled : (options.resolve containerHeight).inputDisabled = false) :
    Responsive url (options.resolve containerHeight)
      (.start url options containerHeight runtime) := by
  have fresh := start_fresh url options containerHeight runtime
  refine ⟨fresh.configured, by rw [fresh.disabled_eq, enabled], ?_⟩
  rw [fresh.visible_eq, fresh.inFlight_eq]
  cases (options.resolve containerHeight).submitOnLoad <;> simp

theorem handle (h : Responsive url settings w) (event : Event) :
    Responsive url settings (w.handle event) where
  configured := by
    rw [session_handle]
    exact h.configured.with_panel _
  enabled := by rw [disabled_handle, h.enabled]
  awaited hidden := by simp [visible_handle] at hidden

theorem begun (h : Responsive url settings w) (runtime : Bool) :
    Responsive url settings (w.begun runtime) where
  configured := by
    rw [session_begun]
    exact h.configured.begun
  enabled := by
    rw [input_begun]
    exact h.enabled
  awaited _ := by simp

theorem type (h : Responsive url settings w) (value : Text) :
    Responsive url settings (w.type value) where
  configured := h.configured.with_panel _
  enabled := by rw [input_type, InputLine.disabled_setValue, h.enabled]
  awaited hidden := by
    rw [input_type, InputLine.visible_setValue] at hidden
    exact h.awaited hidden

theorem submitLine (h : Responsive url settings w) (line : Text) :
    Responsive url settings (Host.submitLine w line) := by
  cases ha : w.settings.admits line.trim with
  | true =>
    rw [Host.submitLine_admitted h.enabled ha]
    exact (h.type line).begun true
  | false =>
    rw [Host.submitLine_refused h.enabled ha]
    exact ⟨(h.type line).configured.with_panel _, (h.type line).enabled, (h.type line).awaited⟩

end Responsive

end Widget

namespace Host

variable {replies : Nat → Reply} {url : Text} {settings : Settings}
variable {lines : List (Except FileFault Text)} {s t : Loop}

/-- A loop that has lost, doubled or swapped no line. -/
structure Ordered (url : Text) (settings : Settings) (lines : List (Except FileFault Text))
    (s : Loop) : Prop where
  responsive : s.host.widget.Responsive url settings
  lines_eq : lines = (s.taken ++ s.host.queued).map .ok ++ s.unread
  requests_eq : s.dispatched.map Task.request =
    (settings.commands s.taken).map (Request.ofCommand url settings)
  numbers_eq : s.dispatched.map Task.number = List.range s.host.widget.nextNumber
  at_end : s.host.inputOpen = false → s.unread = []
  left : s.phase = .draining ∨ s.phase = .ended .closed →
    s.host.inputOpen = false ∧ s.host.queued = [] ∧ s.host.widget.inFlight = 0

/-- Requests are numbered by their places. -/
theorem Ordered.numbers_range (h : Ordered url settings lines s) :
    s.dispatched.map Task.number = List.range s.dispatched.length := by
  have count := congrArg List.length h.numbers_eq
  rw [List.length_map, List.length_range] at count
  rw [h.numbers_eq, count]

theorem start_ordered (url : Text) (options : Options) (containerHeight : Nat)
    (enabled : (options.resolve containerHeight).inputDisabled = false)
    (lines : List (Except FileFault Text)) :
    Ordered url (options.resolve containerHeight) lines
      (.start (.start url options containerHeight true) lines) := by
  have fresh := Widget.start_fresh url options containerHeight true
  refine ⟨.start url options containerHeight true enabled, rfl, ?_, ?_, nofun, nofun⟩
  · simp only [Loop.start, fresh.running_eq, Settings.commands]
    cases (options.resolve containerHeight).submitOnLoad <;> rfl
  · simp only [Loop.start, fresh.running_eq, fresh.nextNumber_eq]
    cases (options.resolve containerHeight).submitOnLoad <;> rfl

/-- What submitting a line starts: the request of its command, if the line is admitted. -/
theorem startedBy_eq {w : Widget} (h : w.Responsive url settings) (line : Text) :
    startedBy w line = if settings.admits line.trim
      then [⟨w.nextNumber, .ofCommand url settings line.trim⟩] else [] := by
  have same := h.settings_eq
  cases ha : settings.admits line.trim with
  | true =>
    have request := (h.type line).configured.request_eq
    rw [command_type h.enabled] at request
    rw [startedBy, submitLine_admitted h.enabled (by rw [same, ha]), Widget.running_begun, request]
    exact List.drop_left
  | false =>
    rw [startedBy, submitLine_refused h.enabled (by rw [same, ha])]
    exact List.drop_length

theorem nextNumber_submitLine {w : Widget} (h : w.Responsive url settings) (line : Text) :
    (submitLine w line).nextNumber = w.nextNumber + (startedBy w line).length := by
  rw [startedBy_eq h]
  have same := h.settings_eq
  cases ha : settings.admits line.trim with
  | true =>
    rw [submitLine_admitted h.enabled (by rw [same, ha]), Widget.nextNumber_begun]
    rfl
  | false =>
    rw [submitLine_refused h.enabled (by rw [same, ha])]
    rfl

theorem numbers_startedBy {w : Widget} (h : w.Responsive url settings) (line : Text)
    {dispatched : List Task} (numbers : dispatched.map Task.number = List.range w.nextNumber) :
    (dispatched ++ startedBy w line).map Task.number =
      List.range (submitLine w line).nextNumber := by
  rw [List.map_append, numbers, nextNumber_submitLine h, startedBy_eq h]
  cases settings.admits line.trim
  · exact List.append_nil _
  · exact List.range_succ.symm

theorem submit_ordered (ih : Ordered url settings lines s) {line : Text} {rest : List Text}
    (submitting : s.phase = .submitting) (next : s.host.queued = line :: rest) :
    Ordered url settings lines { s with
      host.widget := submitLine s.host.widget line
      host.queued := rest
      taken := s.taken ++ [line]
      dispatched := s.dispatched ++ startedBy s.host.widget line } where
  responsive := ih.responsive.submitLine line
  lines_eq := by
    rw [ih.lines_eq, next]
    simp
  requests_eq := by
    rw [List.map_append, ih.requests_eq, Settings.commands_concat, List.map_append,
      startedBy_eq ih.responsive]
    cases settings.admits line.trim <;> rfl
  numbers_eq := numbers_startedBy ih.responsive line ih.numbers_eq
  at_end := ih.at_end
  left out := by simp [submitting] at out

theorem step_ordered (h : Step replies s t) (ih : Ordered url settings lines s) :
    Ordered url settings lines t := by
  cases h with
  | line line rest waiting _ next =>
    refine ⟨ih.responsive, ?_, ih.requests_eq, ih.numbers_eq, ?_, nofun⟩
    · rw [ih.lines_eq, next]
      simp
    · intro closed
      rw [ih.at_end closed] at next
      cases next
  | fault fault rest waiting _ next =>
    exact ⟨ih.responsive, ih.lines_eq, ih.requests_eq, ih.numbers_eq, ih.at_end, nofun⟩
  | close waiting _ at_end =>
    exact ⟨ih.responsive, ih.lines_eq, ih.requests_eq, ih.numbers_eq, fun _ => at_end, nofun⟩
  | event event widget waiting next =>
    obtain ⟨rest, _, rfl⟩ := Widget.take?_eq_some.mp next
    have taken : Widget.Responsive url settings { s.host.widget with queue := rest } :=
      ih.responsive.of_same rfl rfl
    refine ⟨taken.handle event, ih.lines_eq, ih.requests_eq, ?_, ih.at_end, nofun⟩
    rw [Widget.nextNumber_handle]
    exact ih.numbers_eq
  | interrupt waiting =>
    exact ⟨ih.responsive, ih.lines_eq, ih.requests_eq, ih.numbers_eq, ih.at_end, nofun⟩
  | submit line rest submitting _ _ next => exact submit_ordered ih submitting next
  | ignore line rest _ _ disabled =>
    rw [ih.responsive.enabled] at disabled
    cases disabled
  | rest submitting stuck =>
    refine ⟨ih.responsive, ih.lines_eq, ih.requests_eq, ih.numbers_eq, ih.at_end, fun out => ?_⟩
    by_cases done : s.host.done = true
    · simp only [Host.done, Bool.and_eq_true, Bool.not_eq_true', decide_eq_true_eq] at done
      obtain ⟨closed, settled⟩ := done
      refine ⟨closed, stuck.resolve_left fun hidden => ?_, settled⟩
      have := ih.responsive.awaited hidden
      omega
    · simp [done] at out
  | drain event widget draining next =>
    obtain ⟨closed, empty, settled⟩ := ih.left (.inl draining)
    obtain ⟨rest, _, rfl⟩ := Widget.take?_eq_some.mp next
    have taken : Widget.Responsive url settings { s.host.widget with queue := rest } :=
      ih.responsive.of_same rfl rfl
    refine ⟨taken.handle event, ih.lines_eq, ih.requests_eq, ?_, ih.at_end, fun _ =>
      ⟨closed, empty, ?_⟩⟩
    · rw [Widget.nextNumber_handle]
      exact ih.numbers_eq
    · rw [Widget.inFlight_handle]
      exact Nat.sub_eq_zero_of_le (by simp [settled])
  | leave draining _ =>
    exact ⟨ih.responsive, ih.lines_eq, ih.requests_eq, ih.numbers_eq, ih.at_end,
      fun _ => ih.left (.inl draining)⟩
  | reach | finish | post =>
    exact ⟨ih.responsive.of_same rfl rfl, ih.lines_eq, ih.requests_eq, ih.numbers_eq, ih.at_end,
      ih.left⟩

theorem reachable_ordered {options : Options} {containerHeight : Nat}
    (enabled : (options.resolve containerHeight).inputDisabled = false)
    (h : Steps replies (.start (.start url options containerHeight true) lines) s) :
    Ordered url (options.resolve containerHeight) lines s := by
  induction h with
  | refl => exact start_ordered url options containerHeight enabled lines
  | tail _ step ih => exact step_ordered step ih

/-- Lines that start what was typed end before the first line that cannot be read. -/
theorem taken_before_fault {taken good : List Text} {fault : FileFault}
    {rest : List (Except FileFault Text)}
    (h : taken.map .ok <+: good.map .ok ++ .error fault :: rest) : taken <+: good := by
  induction good generalizing taken with
  | nil =>
    cases taken with
    | nil => exact List.prefix_rfl
    | cons line lines => simp at h
  | cons line good ih =>
    cases taken with
    | nil => exact List.nil_prefix
    | cons first taken =>
      obtain ⟨same, tail⟩ := List.cons_prefix_cons.mp h
      cases same
      exact List.cons_prefix_cons.mpr ⟨rfl, ih tail⟩

/-- **No line is lost, doubled or swapped.** At every point of the loop, whatever was posted
meanwhile and however the loop ends, the lines taken for submission, those queued and those unread
are the lines typed; the requests dispatched are, in the order of their numbers, the one forced by
the start and those of the admitted lines taken; no line after one that cannot be read is taken; and
a loop that the end of the lines has ended has taken every line and left nothing in flight. -/
theorem lines_submitted_in_order {options : Options} {containerHeight : Nat}
    (enabled : (options.resolve containerHeight).inputDisabled = false)
    (h : Steps replies (.start (.start url options containerHeight true) lines) s) :
    let settings := options.resolve containerHeight
    s.taken.map .ok <+: lines ∧
    lines = (s.taken ++ s.host.queued).map .ok ++ s.unread ∧
    s.dispatched.map Task.number = List.range s.dispatched.length ∧
    s.dispatched.map Task.request =
      (if settings.submitOnLoad then [.ofCommand url settings []] else []) ++
      ((s.taken.filter fun line => !line.trim.isEmpty || settings.allowEmptyInput).map
        fun line => .ofCommand url settings line.trim) ∧
    (∀ good fault rest, lines = good.map .ok ++ .error fault :: rest → s.taken <+: good) ∧
    (s.phase = .ended .closed →
      lines = s.taken.map .ok ∧ s.host.queued = [] ∧ s.host.widget.inFlight = 0) := by
  intro settings
  have ordered : Ordered url settings lines s := reachable_ordered enabled h
  have taken : s.taken.map .ok <+: lines := by
    rw [ordered.lines_eq, List.map_append, List.append_assoc]
    exact List.prefix_append _ _
  refine ⟨taken, ordered.lines_eq, ordered.numbers_range, ?_, ?_, ?_⟩
  · rw [ordered.requests_eq, Settings.commands, Settings.commandsOf, List.map_append, List.map_map]
    cases settings.submitOnLoad <;> rfl
  · intro good fault rest typed
    rw [typed] at taken
    exact taken_before_fault taken
  · intro ended
    obtain ⟨closed, empty, settled⟩ := ordered.left (.inr ended)
    refine ⟨?_, empty, settled⟩
    have all := ordered.lines_eq
    rw [empty, ordered.at_end closed, List.append_nil, List.append_nil] at all
    exact all

/-- A posted text shows the input line again while the first of two lines is still on its way: the
second is submitted beside it, and the line that cannot be read stops neither. -/
theorem overlapping_lines_submitted_in_order :
    ∃ s : Loop, Steps (fun _ => .panicked) (.start (.start [] {} 0 true)
        [.ok ['l', 's', ' '], .ok ['p'], .error .notText]) s ∧
      s.host.widget.inFlight = 2 ∧ s.phase = .ended (.unreadable .notText) ∧
      s.taken <+: [['l', 's', ' '], ['p']] ∧
      s.dispatched.map Task.request =
        [.ofCommand [] (Options.resolve {} 0) ['l', 's'],
         .ofCommand [] (Options.resolve {} 0) ['p']] := by
  have start : Steps (fun _ => .panicked) (.start (.start [] {} 0 true)
      [.ok ['l', 's', ' '], .ok ['p'], .error .notText]) _ := .refl
  have met := start.tail (.line _ _ _ rfl rfl rfl)
  have submitted := met.tail (.submit _ _ _ rfl rfl rfl rfl)
  have waiting := submitted.tail (.rest _ rfl (.inr rfl))
  have posted := waiting.tail (.post _ ['x'])
  have shown := posted.tail (.event _ _ _ rfl rfl)
  have waiting_again := shown.tail (.rest _ rfl (.inr rfl))
  have met_second := waiting_again.tail (.line _ _ _ rfl rfl rfl)
  have submitted_second := met_second.tail (.submit _ _ _ rfl rfl rfl rfl)
  have waiting_still := submitted_second.tail (.rest _ rfl (.inr rfl))
  have stopped := waiting_still.tail (.fault _ _ _ rfl rfl rfl)
  obtain ⟨-, -, -, requests, before_fault, -⟩ := lines_submitted_in_order (by rfl) stopped
  exact ⟨_, stopped, rfl, rfl, before_fault [_, _] _ _ rfl, requests⟩

end Host
end RemoteTerminal
