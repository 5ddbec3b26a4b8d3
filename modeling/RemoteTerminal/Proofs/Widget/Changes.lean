import RemoteTerminal.Proofs.Widget.Course

/-!
# What a step changes

* `Change`: what one step makes of the session and of the count of requests in flight, whoever
  takes it. A step leaves both alone, types, submits, focuses, asks for the prompt, or puts out a
  text (`change_of_step`).
* `start_signals`: what the surface of a widget is told at the start, in order, and what its input
  line is like then.
-/

namespace RemoteTerminal

namespace Panel

variable (p : Panel) (settings : Settings)

@[simp] theorem signals_signal (s : Signal) : (p.signal s).signals = p.signals ++ [s] := rfl

@[simp] theorem signals_type (value : Text) : (p.type value).signals = p.signals := rfl

@[simp] theorem signals_focusInput :
    p.focusInput.signals = p.signals ++ [.input p.input.focus] := rfl

@[simp] theorem signals_hideInput :
    p.hideInput.signals = p.signals ++ [.input p.input.hide.clear] := rfl

@[simp] theorem signals_echo (command : Text) :
    (p.echo settings command).signals =
      p.signals ++ [.entry (.ofCommand settings command.trim)] := rfl

/-- Output is signalled in two parts: the entry, and the input line that is ready again. -/
@[simp] theorem signals_append (output : Text) :
    (p.append settings output).signals =
      p.signals ++ [.entry (.ofOutput settings output), .input (p.append settings output).input] :=
  List.append_assoc ..

end Panel

namespace Session

@[simp] theorem signals_begun (s : Session) :
    s.begun.panel.signals = s.panel.signals ++
      .input s.panel.input.hide.clear :: (s.settings.echo s.command).map .entry := by
  simp only [begun, Settings.echo]
  split
  · simp [command]
  · simp

end Session

/-- The input line at the start, once everything is set. -/
def Settings.firstLine (settings : Settings) : InputLine where
  visible := !settings.submitOnLoad
  focused := settings.focusOnLoad && !settings.submitOnLoad && !settings.inputDisabled
  disabled := settings.inputDisabled

namespace Widget

/-- What the surface of a widget has been told, in order. -/
def signals (w : Widget) : List Signal := w.session.panel.signals

/-- What a step makes of a widget, as far as its session and its count go. -/
inductive Change (w next : Widget) : Prop where
  | none (session : next.session = w.session) (inFlight : next.inFlight = w.inFlight)
  | typed (value : Text) (session : next.session = w.session.type value)
      (inFlight : next.inFlight = w.inFlight)
  | submitted (admitted : w.settings.admits w.session.command = true)
      (session : next.session = w.session.begun) (inFlight : next.inFlight = w.inFlight + 1)
  | focused (session : next.session = { w.session with panel := w.session.panel.focusInput })
      (inFlight : next.inFlight = w.inFlight)
  | prompted
      (session : next.session = { w.session with
        panel := w.session.panel.signal (.prompt w.session.panel.input) })
      (inFlight : next.inFlight = w.inFlight)
  | shown (output : Text) (session : next.session = w.session.append output)

theorem admits_of_accepts {w : Widget} (accepted : w.session.accepts .user = true) :
    w.settings.admits w.session.command = true := by
  simpa [Session.accepts, settings] using accepted

theorem change_of_step {c d : Course} (h : Step c d) : Change c.widget d.widget := by
  cases h with
  | type value => exact .typed value rfl rfl
  | submit runtime _ accepted =>
    rw [submit_eq_begun accepted]
    exact .submitted (admits_of_accepts (accepts_of_submit accepted)) (session_begun _ _)
      (inFlight_begun _ _)
  | refuse runtime _ refused =>
    rw [submit_eq_self refused]
    exact .none rfl rfl
  | reprompt => exact .prompted rfl rfl
  | click selecting =>
    obtain same | same := click_eq c.widget selecting <;> rw [same]
    · exact .none rfl rfl
    · exact .focused rfl rfl
  | append output => exact .shown output rfl
  | take event widget _ next =>
    obtain ⟨rest, _, rfl⟩ := take?_eq_some.mp next
    exact .none rfl rfl
  | handle before after event | fabricate event => exact .shown event.text (session_handle _ _)
  | serve event widget _ next =>
    obtain ⟨rest, _, rfl⟩ := take?_eq_some.mp next
    exact .shown event.text (session_handle _ _)
  | drain | settle | clear | leave | abandon | finish | post => exact .none rfl rfl

/-! ## The start -/

variable (url : Text) (options : Options) (containerHeight : Nat) (runtime : Bool)

theorem opened_session (settings : Settings) :
    ∃ panel : Panel, (opened url settings).session = .start url settings panel ∧
      panel.input = {} ∧ panel.signals =
        (if settings.themeEnabled then [.theme] else []) ++ settings.welcome.map .entry := by
  unfold opened Settings.welcome
  cases settings.helloMessage <;> cases settings.themeEnabled <;> exact ⟨_, rfl, rfl, rfl⟩

theorem dressed_input (w : Widget) (settings : Settings) :
    (w.dressed settings).input =
      if settings.inputDisabled then
        (if settings.focusOnLoad then w.input.focus else w.input).disable
      else if settings.focusOnLoad then w.input.focus else w.input := by
  unfold dressed
  cases settings.focusOnLoad <;> cases settings.inputDisabled <;> cases settings.onLoad <;> rfl

theorem dressed_signals (w : Widget) (settings : Settings) :
    (w.dressed settings).signals = w.signals ++
      (if settings.focusOnLoad then [.input w.input.focus] else []) ++
      (if settings.inputDisabled then [.input (w.dressed settings).input] else []) ++
      settings.onLoad.toList.map .loaded := by
  rw [dressed_input]
  unfold dressed
  cases settings.focusOnLoad <;> cases settings.inputDisabled <;> cases settings.onLoad <;>
    simp [signals, onPanel, Panel.signal, Panel.focusInput, Panel.disableInput, input,
      Panel.signalInput]

theorem start_input : (start url options containerHeight runtime).input =
    (options.resolve containerHeight).firstLine := by
  rw [start_eq]
  generalize options.resolve containerHeight = settings
  obtain ⟨panel, session, line, -⟩ := opened_session url settings
  have opened_input : (opened url settings).input = {} := by
    rw [input, session]
    exact line
  simp only [dressed_input, Settings.firstLine]
  cases settings.submitOnLoad <;> cases settings.focusOnLoad <;> cases settings.inputDisabled <;>
    simp [opened_input, InputLine.hide, InputLine.clear, InputLine.focus, InputLine.disable]

/-- What the surface is told at the start: the theme, the welcome, the first submission, and then
the input line twice, before and after it is disabled. -/
theorem start_signals :
    let settings := options.resolve containerHeight
    (start url options containerHeight runtime).signals =
      (if settings.themeEnabled then [.theme] else []) ++ settings.welcome.map .entry ++
      (if settings.submitOnLoad then
        .input { visible := false } :: (settings.echo []).map .entry else []) ++
      (if settings.focusOnLoad then
        [.input { visible := !settings.submitOnLoad, focused := !settings.submitOnLoad }]
      else []) ++
      (if settings.inputDisabled then [.input settings.firstLine] else []) ++
      settings.onLoad.toList.map .loaded := by
  have last := start_input url options containerHeight runtime
  rw [start_eq] at last ⊢
  dsimp only at last ⊢
  generalize options.resolve containerHeight = settings at last ⊢
  obtain ⟨panel, session, line, told⟩ := opened_session url settings
  rw [dressed_signals, last]
  cases submits : settings.submitOnLoad with
  | false => simp [input, signals, session, line, told, InputLine.focus, Session.start]
  | true =>
    have empty : (opened url settings).session.command = [] := by
      rw [session]
      show panel.input.value.trim = []
      rw [line]
      rfl
    simp only [if_true, input_begun, signals, session_begun, Session.signals_begun, empty]
    simp [input, session, line, told, InputLine.focus, InputLine.hide, InputLine.clear,
      Session.start]

end Widget
end RemoteTerminal
