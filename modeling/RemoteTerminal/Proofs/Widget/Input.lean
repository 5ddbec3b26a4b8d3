import RemoteTerminal.Proofs.Widget.Accounting
import RemoteTerminal.Proofs.Widget.Changes

/-!
# The input line of a widget

Whatever happens to a widget, its input line is disabled as the settings say, has the focus only
where it can take it, is hidden only while something is in flight, and counts a moment of focus for
each output that came while it was disabled (`Tended`). Output makes it ready, or as ready as a
disabled line can be (`Panel.input_append_eq`).
-/

namespace RemoteTerminal

/-- How many of the entries are outputs. -/
def Transcript.outputs (t : Transcript) : Nat := (t.filter (·.kind = .output)).length

@[simp] theorem Transcript.outputs_append (t s : Transcript) :
    Transcript.outputs (t ++ s) = t.outputs + s.outputs := by
  simp [outputs]

theorem Settings.outputs_welcome (settings : Settings) :
    Transcript.outputs settings.welcome = 0 := by
  cases h : settings.helloMessage <;> simp [Settings.welcome, Transcript.outputs, h]

theorem Settings.outputs_echo (settings : Settings) (command : Text) :
    Transcript.outputs (settings.echo command) = 0 := by
  cases h : settings.admits command <;> simp [Settings.echo, Transcript.outputs, h]

/-- Output leaves the input line visible, empty, and focused unless it is disabled. -/
theorem Panel.input_append_eq (p : Panel) {settings : Settings}
    (agrees : p.input.disabled = settings.inputDisabled) (output : Text) :
    (p.append settings output).input = {
      value := []
      visible := true
      focused := !settings.inputDisabled
      disabled := settings.inputDisabled
      scrollSyncs := p.input.scrollSyncs + if settings.inputDisabled then 1 else 0 } := by
  rw [input_append]
  cases disabled : settings.inputDisabled <;> rw [disabled] at agrees
  · simp [InputLine.reveal, InputLine.clear, InputLine.focus, agrees]
  · rw [if_pos rfl, InputLine.pulse_of_disabled (by exact agrees)]
    simp [InputLine.reveal, InputLine.clear, InputLine.focus, agrees]

namespace Session

/-- A session whose input line is in order, with so many requests in flight. -/
structure Tended (settings : Settings) (s : Session) (inFlight : Nat) : Prop where
  settings_eq : s.settings = settings
  focusable : s.panel.input.focused = true →
    s.panel.input.visible = true ∧ s.panel.input.disabled = false
  disabled_eq : s.panel.input.disabled = settings.inputDisabled
  awaited : s.panel.input.visible = false → 0 < inFlight
  untyped : s.panel.input.disabled = true → s.panel.input.value = []
  scrollSyncs_eq : s.panel.input.scrollSyncs =
    if settings.inputDisabled then s.panel.transcript.outputs else 0

namespace Tended

variable {settings : Settings} {s : Session} {inFlight : Nat}

theorem type (h : Tended settings s inFlight) (value : Text) :
    Tended settings (s.type value) inFlight := by
  cases disabled : s.panel.input.disabled with
  | true =>
    have same : s.type value = s := by
      simp [Session.type, Panel.type, InputLine.setValue, disabled]
    rwa [same]
  | false =>
    have typed : (s.type value).panel.input = { s.panel.input with value } := by
      simp [Session.type, Panel.type, InputLine.setValue, disabled]
    constructor
    case settings_eq => exact h.settings_eq
    all_goals rw [typed]
    case focusable => exact h.focusable
    case disabled_eq => exact h.disabled_eq
    case awaited => exact h.awaited
    case untyped =>
      intro on
      exact absurd on (by simp [disabled])
    case scrollSyncs_eq => exact h.scrollSyncs_eq

theorem begun (h : Tended settings s inFlight) : Tended settings s.begun (inFlight + 1) := by
  constructor
  case settings_eq => exact h.settings_eq
  all_goals rw [input_begun]
  case focusable =>
    intro focused
    cases focused
  case disabled_eq => exact h.disabled_eq
  case awaited => exact fun _ => Nat.succ_pos _
  case untyped => exact fun _ => rfl
  case scrollSyncs_eq =>
    rw [transcript_begun, Transcript.outputs_append, Settings.outputs_echo]
    exact h.scrollSyncs_eq

theorem focusInput (h : Tended settings s inFlight) :
    Tended settings { s with panel := s.panel.focusInput } inFlight where
  settings_eq := h.settings_eq
  focusable focused := by
    simpa [Panel.focusInput, Panel.signalInput, Panel.signal, InputLine.focus] using focused
  disabled_eq := h.disabled_eq
  awaited := h.awaited
  untyped := h.untyped
  scrollSyncs_eq := h.scrollSyncs_eq

/-- Output brings the input line in order, and counts one moment of focus if the line is
disabled. -/
theorem append (h : Tended settings s inFlight) (output : Text) (left : Nat) :
    Tended settings (s.append output) left := by
  have agrees : s.panel.input.disabled = s.settings.inputDisabled := by
    rw [h.settings_eq, h.disabled_eq]
  have line := s.panel.input_append_eq agrees output
  rw [h.settings_eq] at line
  constructor
  case settings_eq => exact h.settings_eq
  all_goals rw [Session.append, h.settings_eq, line]
  case focusable =>
    intro focused
    exact ⟨rfl, by simpa using focused⟩
  case awaited =>
    intro hidden
    cases hidden
  case untyped => exact fun _ => rfl
  case scrollSyncs_eq =>
    change _ = if settings.inputDisabled then
      Transcript.outputs (s.panel.transcript ++ [.ofOutput settings output]) else 0
    rw [Transcript.outputs_append, h.scrollSyncs_eq]
    cases settings.inputDisabled <;> simp [Transcript.outputs]

end Tended
end Session

namespace Widget

variable {url : Text} {options : Options} {containerHeight : Nat} {runtime : Bool} {c d : Course}
variable {settings : Settings} {w next : Widget}

/-- A widget whose input line is in order. -/
abbrev Tended (settings : Settings) (w : Widget) : Prop := w.session.Tended settings w.inFlight

theorem start_tended :
    Tended (options.resolve containerHeight) (start url options containerHeight runtime) := by
  have fresh := start_fresh url options containerHeight runtime
  have line := start_input url options containerHeight runtime
  generalize options.resolve containerHeight = settings at *
  change _ = settings.firstLine at line
  rw [input] at line
  constructor
  case settings_eq => exact fresh.configured.settings_eq
  all_goals rw [line]
  case focusable =>
    simp only [Settings.firstLine, Bool.and_eq_true, Bool.not_eq_true']
    exact fun focused => ⟨focused.1.2, focused.2⟩
  case disabled_eq => rfl
  case awaited =>
    rw [fresh.inFlight_eq]
    cases submits : settings.submitOnLoad <;> simp [Settings.firstLine, submits]
  case untyped => exact fun _ => rfl
  case scrollSyncs_eq =>
    change 0 = if _ then
      Transcript.outputs (start url options containerHeight runtime).transcript else 0
    rw [fresh.transcript_eq, Transcript.outputs_append, settings.outputs_welcome]
    cases settings.submitOnLoad
    · simp [Transcript.outputs]
    · simp [settings.outputs_echo]

theorem Change.tended (h : Change w next) (ih : Tended settings w) : Tended settings next := by
  cases h with
  | none session inFlight => rwa [Tended, session, inFlight]
  | typed value session inFlight =>
    rw [Tended, session, inFlight]
    exact ih.type value
  | submitted _ session inFlight =>
    rw [Tended, session, inFlight]
    exact ih.begun
  | focused session inFlight =>
    rw [Tended, session, inFlight]
    exact ih.focusInput
  | prompted session inFlight =>
    rw [Tended, session, inFlight]
    exact ⟨ih.settings_eq, ih.focusable, ih.disabled_eq, ih.awaited, ih.untyped, ih.scrollSyncs_eq⟩
  | shown output session =>
    rw [Tended, session]
    exact ih.append output _

theorem reachable_tended (h : Reachable url options containerHeight runtime c) :
    Tended (options.resolve containerHeight) c.widget := by
  induction h with
  | start => exact start_tended
  | next _ step ih => exact (change_of_step step).tended ih

/-- A step that puts out a text appends it to the session. -/
theorem session_of_output (h : Step c d) {happening : Happening} {output : Text}
    (history : d.history = c.history ++ [happening]) (puts : happening.output? = some output) :
    d.widget.session = c.widget.session.append output := by
  cases h with
  | submit =>
    obtain rfl := List.cons.inj (List.append_cancel_left history) |>.1
    cases puts
  | append output' =>
    obtain rfl := List.cons.inj (List.append_cancel_left history) |>.1
    cases puts
    rfl
  | handle before after event | fabricate event =>
    obtain rfl := List.cons.inj (List.append_cancel_left history) |>.1
    cases puts
    exact session_handle _ _
  | serve event widget _ next =>
    obtain rfl := List.cons.inj (List.append_cancel_left history) |>.1
    obtain ⟨rest, _, rfl⟩ := take?_eq_some.mp next
    cases puts
    exact session_handle _ _
  | type | refuse | reprompt | click | take | drain | settle | clear | leave | abandon | finish
  | post => simp at history

/-- **The input line is in order.** Whatever happened to a widget, its input line has the focus only
where it is visible and enabled; it is disabled as the settings say; it is hidden only while
something is in flight; it is empty where it is disabled; and the moments of focus that it counts
are the outputs shown, if it is disabled, and else none. Right after an output, of an event or not,
it is visible and empty, and it has the focus unless it is disabled. -/
theorem input_line_in_order (h : Reachable url options containerHeight runtime c) :
    let settings := options.resolve containerHeight
    let line := c.widget.input
    (line.focused = true → line.visible = true ∧ line.disabled = false) ∧
    line.disabled = settings.inputDisabled ∧
    (line.visible = false → 1 ≤ c.widget.inFlight) ∧
    (line.disabled = true → line.value = []) ∧
    line.scrollSyncs = (if settings.inputDisabled then
      (c.widget.transcript.filter (·.kind = .output)).length else 0) ∧
    (∀ d happening, Step c d → d.history = c.history ++ [happening] →
      happening.output?.isSome = true →
      d.widget.input.visible = true ∧ d.widget.input.value = [] ∧
        d.widget.input.focused = !d.widget.input.disabled) := by
  intro settings line
  have tended : Tended settings c.widget := reachable_tended h
  refine ⟨tended.focusable, tended.disabled_eq, tended.awaited, tended.untyped,
    tended.scrollSyncs_eq, ?_⟩
  intro d happening step history puts
  obtain ⟨output, puts⟩ := Option.isSome_iff_exists.mp puts
  have agrees : c.widget.panel.input.disabled = c.widget.settings.inputDisabled :=
    tended.disabled_eq.trans (congrArg Settings.inputDisabled tended.settings_eq.symm)
  have ready := c.widget.panel.input_append_eq agrees output
  have shown : d.widget.input = (c.widget.panel.append c.widget.settings output).input := by
    rw [input, session_of_output step history puts]
    rfl
  rw [shown, ready]
  exact ⟨rfl, rfl, rfl⟩

/-- The start hides a line that is disabled too. The answer to its request shows the line again and
counts a moment of focus, but leaves it without the focus. -/
theorem disabled_line_in_order :
    ∃ c d : Course,
      Reachable [] { submitOnLoad := some true, inputDisabled := some true } 0 true c ∧ Step c d ∧
      c.widget.input.visible = false ∧ 1 ≤ c.widget.inFlight ∧ c.widget.input.value = [] ∧
      d.widget.input.visible = true ∧ d.widget.input.focused = !d.widget.input.disabled ∧
      d.widget.input.scrollSyncs = (d.widget.transcript.filter (·.kind = .output)).length ∧
      d.widget.input.scrollSyncs = 1 := by
  have first : Reachable [] { submitOnLoad := some true, inputDisabled := some true } 0 true _ :=
    .start
  have ended := first.next (.finish _ ⟨0, _⟩ (.answered (.ok ['u', 'p'])) (.head _))
  have taken := ended.next (.take _ _ _ rfl rfl)
  obtain ⟨-, -, awaited, untyped, -, ready⟩ := input_line_in_order taken
  obtain ⟨visible, -, focused⟩ := ready _ _ (.handle _ [] [] _ rfl rfl) rfl rfl
  obtain ⟨-, -, -, -, counted, -⟩ :=
    input_line_in_order (taken.next (.handle _ [] [] _ rfl rfl))
  exact ⟨_, _, taken, .handle _ [] [] _ rfl rfl, rfl, awaited rfl, untyped rfl, visible, focused,
    counted, rfl⟩

end Widget
end RemoteTerminal
