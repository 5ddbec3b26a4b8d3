import RemoteTerminal.Proofs.Widget.Changes

/-!
# What a surface has been told

A surface knows of a panel what the signals say: the entries that were signalled, and the input
line as it was signalled last (`Surface.of`). `Operation` is what a panel can go through, on its own
or as the panel of a session or of a widget.

`surface_follows`: the surface has the entries of the transcript, in order, and the input line but
for what is typed into it. Typing gives no signal; any other operation that changes the line leaves
the surface with the line as it is.
-/

namespace RemoteTerminal

/-- What a surface knows of a panel. -/
structure Surface where
  entries : Transcript := []
  line : InputLine := {}
  deriving DecidableEq

namespace Surface

def meet (s : Surface) : Signal → Surface
  | .entry entry => { s with entries := s.entries ++ [entry] }
  | .input line => { s with line }
  | .theme | .prompt _ | .loaded _ => s

@[simp] theorem meet_entry (s : Surface) (entry : Entry) :
    s.meet (.entry entry) = { s with entries := s.entries ++ [entry] } := rfl

@[simp] theorem meet_input (s : Surface) (line : InputLine) :
    s.meet (.input line) = { s with line } := rfl

@[simp] theorem meet_theme (s : Surface) : s.meet .theme = s := rfl

@[simp] theorem meet_prompt (s : Surface) (line : InputLine) : s.meet (.prompt line) = s := rfl

@[simp] theorem meet_loaded (s : Surface) (hook : LoadHook) : s.meet (.loaded hook) = s := rfl

theorem foldl_entries (s : Surface) (entries : List Entry) :
    (entries.map Signal.entry).foldl meet s = { s with entries := s.entries ++ entries } := by
  induction entries generalizing s with
  | nil => simp
  | cons entry entries ih => simp [ih]

/-- A surface that was there from the start, by the signals given since. -/
def of (signals : List Signal) : Surface := signals.foldl meet {}

end Surface

namespace Panel

/-- The surface of a panel. -/
def surface (p : Panel) : Surface := .of p.signals

/-- What a panel can go through in one operation: of its own, of a session, or of a widget. -/
inductive Operation : Panel → Panel → Prop where
  | applyTheme (p : Panel) : Operation p p.applyTheme
  | greet (p : Panel) (message : Text) : Operation p (p.greet message)
  | echo (p : Panel) (settings : Settings) (command : Text) : Operation p (p.echo settings command)
  | append (p : Panel) (settings : Settings) (output : Text) :
      Operation p (p.append settings output)
  | type (p : Panel) (value : Text) : Operation p (p.type value)
  | hideInput (p : Panel) : Operation p p.hideInput
  | focusInput (p : Panel) : Operation p p.focusInput
  | disableInput (p : Panel) : Operation p p.disableInput
  | submit (s : Session) (trigger : Trigger) : Operation s.panel (s.submit trigger).2.panel
  | resolve (s : Session) (outcome : Outcome) : Operation s.panel (s.resolve outcome).panel
  | start (url : Text) (options : Options) (containerHeight : Nat) (runtime : Bool) :
      Operation {} (Widget.start url options containerHeight runtime).panel
  | step (c d : Widget.Course) (step : Widget.Step c d) : Operation c.widget.panel d.widget.panel

/-- A panel after some operations. -/
inductive InUse : Panel → Prop where
  | fresh : InUse {}
  | next {p q : Panel} : InUse p → Operation p q → InUse q

/-- What one operation makes of a panel and of its surface: both get the same entries, and unless
something is typed the surface has the line as it is, or both have the line as it was. -/
structure Update (p q : Panel) : Prop where
  entries : ∃ entries, q.transcript = p.transcript ++ entries ∧
    q.surface.entries = p.surface.entries ++ entries
  line : q.surface.line = q.input ∨ (q.input = p.input ∧ q.surface.line = p.surface.line) ∨
    ∃ value, q = p.type value

variable {p q : Panel} {settings : Settings}

theorem surface_of_signals {more : List Signal} (told : q.signals = p.signals ++ more) :
    q.surface = more.foldl Surface.meet p.surface := by
  rw [surface, told, Surface.of, List.foldl_append]
  rfl

@[simp] theorem surface_type (value : Text) : (p.type value).surface = p.surface := rfl

/-! ## Updates -/

theorem update_self (p : Panel) : Update p p :=
  ⟨⟨[], (List.append_nil _).symm, (List.append_nil _).symm⟩, .inr (.inl ⟨rfl, rfl⟩)⟩

theorem update_signal (signal : Signal) (silent : ∀ s : Surface, s.meet signal = s) :
    Update p (p.signal signal) := by
  have same : (p.signal signal).surface = p.surface := by
    rw [surface_of_signals (signals_signal p signal)]
    exact silent _
  exact ⟨⟨[], (List.append_nil _).symm, by simp [same]⟩, .inr (.inl ⟨rfl, by rw [same]⟩)⟩

theorem update_push (entry : Entry) : Update p (p.push entry) := by
  have told : (p.push entry).signals = p.signals ++ [.entry entry] := rfl
  have gains := surface_of_signals told
  exact ⟨⟨[entry], rfl, by rw [gains]; rfl⟩, .inr (.inl ⟨rfl, by rw [gains]; rfl⟩)⟩

theorem update_input (line : InputLine) : Update p { p with input := line }.signalInput := by
  have told : ({ p with input := line } : Panel).signalInput.signals = p.signals ++ [.input line] :=
    rfl
  have gains := surface_of_signals told
  exact ⟨⟨[], (List.append_nil _).symm, by simp [gains]⟩, .inl (by rw [gains]; rfl)⟩

theorem update_type (value : Text) : Update p (p.type value) :=
  ⟨⟨[], (List.append_nil _).symm, (List.append_nil _).symm⟩, .inr (.inr ⟨value, rfl⟩)⟩

theorem update_append (output : Text) : Update p (p.append settings output) := by
  have gains := surface_of_signals (signals_append p settings output)
  exact ⟨⟨[.ofOutput settings output], rfl, by rw [gains]; rfl⟩, .inl (by rw [gains]; rfl)⟩

theorem update_begun (s : Session) : Update s.panel s.begun.panel := by
  have gains := surface_of_signals (Session.signals_begun s)
  rw [List.foldl_cons, Surface.foldl_entries] at gains
  exact ⟨⟨_, Session.transcript_begun s, by rw [gains]; rfl⟩,
    .inl (by rw [gains, Session.input_begun]; rfl)⟩

theorem update_start (url : Text) (options : Options) (containerHeight : Nat) (runtime : Bool) :
    Update {} (Widget.start url options containerHeight runtime).panel := by
  have told := Widget.start_signals url options containerHeight runtime
  have line := Widget.start_input url options containerHeight runtime
  have shown := (Widget.start_fresh url options containerHeight runtime).transcript_eq
  generalize Widget.start url options containerHeight runtime = w at *
  generalize options.resolve containerHeight = settings at *
  have gains : w.panel.surface = .of _ := congrArg Surface.of told
  change w.panel.input = _ at line
  refine ⟨⟨w.transcript, rfl, ?_⟩, .inl ?_⟩
  · rw [shown, gains]
    simp only [Surface.of, List.foldl_append, Surface.foldl_entries]
    cases settings.themeEnabled <;> cases settings.submitOnLoad <;> cases settings.focusOnLoad <;>
      cases settings.inputDisabled <;> cases settings.onLoad <;>
      simp [Surface.foldl_entries, surface, Surface.of]
  · rw [line, gains]
    simp only [Surface.of, List.foldl_append, Surface.foldl_entries]
    cases settings.themeEnabled <;> cases submits : settings.submitOnLoad <;>
      cases focuses : settings.focusOnLoad <;> cases disabled : settings.inputDisabled <;>
      cases settings.onLoad <;>
      simp [Surface.foldl_entries, Settings.firstLine, submits, focuses, disabled]

theorem update_of_change {w next : Widget} (h : Widget.Change w next) :
    Update w.panel next.panel := by
  show Update w.session.panel next.session.panel
  cases h with
  | none session =>
    rw [session]
    exact update_self _
  | typed value session =>
    rw [session]
    exact update_type value
  | submitted _ session =>
    rw [session]
    exact update_begun _
  | focused session =>
    rw [session]
    exact update_input _
  | prompted session =>
    rw [session]
    exact update_signal _ fun _ => rfl
  | shown output session =>
    rw [session]
    exact update_append _

theorem update_of_operation (h : Operation p q) : Update p q := by
  cases h with
  | applyTheme => exact update_signal _ fun _ => rfl
  | greet | echo => exact update_push _
  | append | resolve => exact update_append _
  | type _ value => exact update_type value
  | hideInput | focusInput | disableInput => exact update_input _
  | submit s trigger =>
    rw [Session.submit_eq]
    split
    · exact update_begun s
    · exact update_self _
  | start => exact update_start ..
  | step c d step => exact update_of_change (Widget.change_of_step step)

/-! ## Panels in use -/

theorem inUse_widget {url : Text} {options : Options} {containerHeight : Nat} {runtime : Bool}
    {c : Widget.Course} (h : Widget.Reachable url options containerHeight runtime c) :
    InUse c.widget.panel := by
  induction h with
  | start => exact .next .fresh (.start ..)
  | next _ step ih => exact ih.next (.step _ _ step)

/-- A surface that has all of a panel but for what is typed. -/
structure Followed (p : Panel) : Prop where
  entries_eq : p.surface.entries = p.transcript
  input_eq : p.input = { p.surface.line with value := p.input.value }

theorem Followed.update (h : Followed p) (next : Update p q) : Followed q := by
  obtain ⟨⟨entries, shown, told⟩, line⟩ := next
  refine ⟨by rw [told, shown, h.entries_eq], ?_⟩
  obtain same | ⟨kept, unsignalled⟩ | ⟨value, rfl⟩ := line
  · rw [same]
  · rw [kept, unsignalled]
    exact h.input_eq
  · rw [surface_type]
    show p.input.setValue value = { p.surface.line with value := (p.input.setValue value).value }
    have line := h.input_eq
    generalize p.input = typed at line ⊢
    generalize p.surface.line = signalled at line
    unfold InputLine.setValue
    split
    · exact line
    · rw [line]

theorem inUse_followed (run : InUse p) : Followed p := by
  induction run with
  | fresh => exact ⟨rfl, rfl⟩
  | next _ operation ih => exact ih.update (update_of_operation operation)

/-- **A surface follows its panel.** Whatever a panel went through, its surface has been told the
entries of the transcript, in their order, and the input line in all but its value. An operation
leaves it with the line as it is, value and all, or it changes neither the line nor what the surface
has of it, or it types. -/
theorem surface_follows (run : InUse p) :
    p.surface.entries = p.transcript ∧ p.input = { p.surface.line with value := p.input.value } ∧
    ∀ q, Operation p q → q.surface.line = q.input ∨
      (q.input = p.input ∧ q.surface.line = p.surface.line) ∨ ∃ value, q = p.type value :=
  have followed := inUse_followed run
  ⟨followed.entries_eq, followed.input_eq, fun _ next => (update_of_operation next).line⟩

/-- Typing gives no signal: the line holds a command, and the surface has it empty. -/
theorem typed_value_unsignalled :
    ∃ c, Widget.Reachable [] {} 0 true c ∧ c.widget.panel.InUse ∧
      c.widget.panel.input.value = ['l', 's'] ∧ c.widget.panel.surface.line.value = [] := by
  have typed := Widget.Reachable.start.next (.type (.start [] {} 0 true) ['l', 's'] rfl)
  exact ⟨_, typed, inUse_widget typed, rfl, rfl⟩

/-- The submission of a typed command leaves the surface with the line as it is again. -/
theorem surface_follows_submission :
    ∃ p q : Panel, p.InUse ∧ Operation p q ∧ p.surface.line ≠ p.input ∧
      q.surface.line = q.input ∧ p.surface.entries = p.transcript := by
  have types := Widget.Step.type (.start [] {} 0 true) ['l', 's'] rfl
  have typed := inUse_widget (Widget.Reachable.start.next types)
  have submits := Operation.step _ _ (.submit { Widget.Course.start [] {} 0 true with
    widget := (Widget.start [] {} 0 true).type ['l', 's'] } true rfl (by decide))
  obtain ⟨entries, -, follows⟩ := surface_follows typed
  refine ⟨_, _, typed, submits, by decide, ?_, entries⟩
  obtain same | ⟨kept, -⟩ | ⟨value, typing⟩ := follows _ submits
  · exact same
  · exact absurd (congrArg InputLine.visible kept) (by decide)
  · have longer : 1 = 0 := congrArg (fun p : Panel => p.transcript.length) typing
    cases longer

end Panel
end RemoteTerminal
