import RemoteTerminal.Console
import RemoteTerminal.Proofs.Widget.Changes

/-!
# When the prompt is on the screen

* `Console.run_append`: a run over signals, part by part.
* `Console.step_eq`: what a signal leaves alone.
* `Console.promptShown_run`: whether the prompt of an interactive console is shown, as a fold over
  the signals.
* `Widget.prompt_awaits_input`: the prompt is shown exactly while the input line is ready, apart
  from one that the start drew before it disabled the line.
-/

namespace RemoteTerminal

namespace InputLine

theorem ready_focus {line : InputLine} (h : line.ready = true) : line.focus.ready = true := by
  simp only [ready, focus, Bool.and_eq_true] at h ⊢
  exact ⟨⟨h.1.1, h.1.1, h.2⟩, h.2⟩

@[simp] theorem ready_setValue (line : InputLine) (value : Text) :
    (line.setValue value).ready = line.ready := by
  unfold setValue
  split <;> rfl

end InputLine

namespace Signal

/-- Whether a prompt on the screen is given up for the signal. -/
@[simp] def clears : Signal → Bool
  | .entry _ | .prompt _ => true
  | .theme | .input _ | .loaded _ => false

/-- Whether the prompt is on the screen after the signal, if it was as `shown` says before. -/
@[simp] def showing (shown : Bool) : Signal → Bool
  | .theme | .loaded _ => shown
  | .entry _ => false
  | .input line => shown || line.ready
  | .prompt line => line.ready

end Signal

namespace Console

/-! ## Runs -/

@[simp] theorem run_nil (c : Console) : c.run [] = (c, []) := rfl

@[simp] theorem run_cons (c : Console) (signal : Signal) (signals : List Signal) :
    c.run (signal :: signals) =
      (((c.step signal).1.run signals).1, (c.step signal).2 ++ ((c.step signal).1.run signals).2) :=
  rfl

theorem run_append (c : Console) (first rest : List Signal) :
    c.run (first ++ rest) =
      (((c.run first).1.run rest).1, (c.run first).2 ++ ((c.run first).1.run rest).2) := by
  induction first generalizing c with
  | nil => rfl
  | cons signal first ih => simp [ih]

/-- A step changes nothing but the theme and whether the prompt is shown. -/
theorem step_eq (c : Console) (signal : Signal) :
    (c.step signal).1 = { c with
      themed := (c.step signal).1.themed
      promptShown := (c.step signal).1.promptShown } := by
  cases signal with
  | theme | entry | loaded => rfl
  | input line | prompt line =>
    simp only [step, showPrompt]
    split <;> rfl

theorem promptShown_step {c : Console} (interactive : c.interactive = true) (signal : Signal) :
    (c.step signal).1.promptShown = signal.showing c.promptShown := by
  cases signal with
  | theme | entry | loaded => rfl
  | input line =>
    cases shown : c.promptShown <;> cases ready : line.ready <;>
      simp [step, showPrompt, interactive, shown, ready]
  | prompt line => cases ready : line.ready <;> simp [step, showPrompt, interactive, ready]

theorem promptShown_run {c : Console} (interactive : c.interactive = true) (signals : List Signal) :
    (c.run signals).1.promptShown = signals.foldl Signal.showing c.promptShown := by
  induction signals generalizing c with
  | nil => rfl
  | cons signal signals ih =>
    have kept : (c.step signal).1.interactive = true := by rw [step_eq, interactive]
    rw [run_cons, ih kept, promptShown_step interactive, List.foldl_cons]

end Console

/-! ## The prompt of a widget -/

/-- Whether the start draws a prompt and then disables the line that it stands for. -/
def Settings.leavesPrompt (settings : Settings) : Bool :=
  settings.inputDisabled && settings.focusOnLoad && !settings.submitOnLoad

namespace Widget

variable {url : Text} {options : Options} {containerHeight : Nat} {runtime : Bool} {c : Course}
variable {settings : Settings} {console : Console} {first : List Signal} {w next : Widget}

/-- A widget whose prompt is shown while its input line is ready, or if it is a prompt from the
start that nothing has cleared yet. -/
def Prompted (settings : Settings) (first : List Signal) (w : Widget) : Prop :=
  ∃ later, w.signals = first ++ later ∧
    w.signals.foldl Signal.showing false =
      (w.input.ready || settings.leavesPrompt && later.all fun signal => !signal.clears)

theorem start_prompted :
    Prompted (options.resolve containerHeight)
      (start url options containerHeight runtime).signals
      (start url options containerHeight runtime) := by
  refine ⟨[], (List.append_nil _).symm, ?_⟩
  have told := start_signals url options containerHeight runtime
  rw [start_input]
  dsimp only at told
  rw [told]
  generalize options.resolve containerHeight = settings
  have unshown : (settings.welcome.map Signal.entry).foldl Signal.showing false = false := by
    cases message : settings.helloMessage <;> simp [Settings.welcome, message]
  have cleared : ((settings.echo []).map Signal.entry).foldl Signal.showing false = false := by
    cases admits : settings.admits [] <;> simp [Settings.echo, admits]
  simp only [List.foldl_append]
  cases submits : settings.submitOnLoad <;> cases focuses : settings.focusOnLoad <;>
    cases disabled : settings.inputDisabled <;> cases settings.themeEnabled <;>
    cases settings.onLoad <;>
    simp [unshown, cleared, Settings.leavesPrompt, Settings.firstLine, InputLine.ready, submits,
      focuses, disabled]

/-- Further signals, by what they make of the prompt. -/
theorem Prompted.extend (h : Prompted settings first w) {further : List Signal}
    (told : next.signals = w.signals ++ further)
    (shown : ∀ left : Bool, further.foldl Signal.showing (w.input.ready || left) =
      (next.input.ready || left && further.all fun signal => !signal.clears)) :
    Prompted settings first next := by
  obtain ⟨later, before, so_far⟩ := h
  refine ⟨later ++ further, by rw [told, before, List.append_assoc], ?_⟩
  rw [told, List.foldl_append, so_far, shown, List.all_append, Bool.and_assoc]

theorem prompted_of_change (h : Change w next) (ih : Prompted settings first w) :
    Prompted settings first next := by
  cases h with
  | none session =>
    have told : next.signals = w.signals ++ [] := by simp [signals, session]
    refine ih.extend told fun left => ?_
    simp [input, session]
  | typed value session =>
    have told : next.signals = w.signals ++ [] := by simp [signals, session, Session.type]
    refine ih.extend told fun left => ?_
    simp [input, session, Session.type, Panel.type]
  | submitted admitted session =>
    have echoed : w.session.settings.echo w.session.command =
        [.ofCommand w.session.settings w.session.command] := if_pos admitted
    refine ih.extend (by rw [signals, session, Session.signals_begun, echoed]; rfl) fun left => ?_
    simp [input, session, InputLine.ready, InputLine.hide, InputLine.clear]
  | focused session =>
    refine ih.extend (by rw [signals, session, Panel.signals_focusInput]; rfl) fun left => ?_
    have line : next.input = w.input.focus := by
      rw [input, session]
      rfl
    have stays : w.input.ready = true → w.input.focus.ready = true := InputLine.ready_focus
    change (_ || w.input.focus.ready) = _
    rw [line]
    cases before : w.input.ready with
    | true => simp [stays before]
    | false => cases left <;> simp
  | prompted session =>
    refine ih.extend (by rw [signals, session, Panel.signals_signal]; rfl) fun left => ?_
    simp [input, session, Panel.signal]
  | shown output session =>
    refine ih.extend (by rw [signals, session, Session.append, Panel.signals_append]; rfl)
      fun left => ?_
    simp [input, session, Session.append]

/-- **The prompt awaits input.** The prompt of an interactive console is on the screen exactly while
the input line of its widget is ready, whatever happened to the widget, with one exception: the
prompt that the start draws for a line that it then disables stays until an entry is shown or the
prompt is due again. -/
theorem prompt_awaits_input (interactive : console.interactive = true)
    (unshown : console.promptShown = false) (h : Reachable url options containerHeight runtime c) :
    let settings := options.resolve containerHeight
    let shown := (console.run c.widget.signals).1.promptShown
    (settings.inputDisabled = false → (shown = true ↔ c.widget.input.ready = true)) ∧
    ∃ later, c.widget.signals = (start url options containerHeight runtime).signals ++ later ∧
      (shown = true ↔ c.widget.input.ready = true ∨
        settings.inputDisabled = true ∧ settings.focusOnLoad = true ∧
          settings.submitOnLoad = false ∧ ∀ signal ∈ later, signal.clears = false) := by
  have prompted : Prompted (options.resolve containerHeight)
      (start url options containerHeight runtime).signals c.widget := by
    induction h with
    | start => exact start_prompted
    | next _ step ih => exact prompted_of_change (change_of_step step) ih
  obtain ⟨later, told, shown⟩ := prompted
  dsimp only
  rw [Console.promptShown_run interactive, unshown, shown]
  refine ⟨fun enabled => ?_, later, told, ?_⟩
  · simp [Settings.leavesPrompt, enabled]
  · simp [Settings.leavesPrompt, and_assoc]

/-- A command takes the prompt off the screen, and its answer brings it back. -/
theorem prompt_away_and_back :
    ∃ (console : Console) (c d : Course), console.interactive = true ∧
      console.promptShown = false ∧ Reachable [] {} 0 true c ∧ Reachable [] {} 0 true d ∧
      (Options.resolve {} 0).inputDisabled = false ∧
      (console.run c.widget.signals).1.promptShown = false ∧
      (console.run d.widget.signals).1.promptShown = true := by
  have typed := Reachable.start.next (.type (.start [] {} 0 true) ['l', 's'] rfl)
  have submitted := typed.next (.submit _ true rfl (by decide))
  have ended := submitted.next (.finish _ ⟨0, _⟩ (.answered (.ok ['u', 'p'])) (.head _))
  have taken := ended.next (.take _ _ _ rfl rfl)
  have handled := taken.next (.handle _ [] [] _ rfl rfl)
  have interactive : ({ color := false, interactive := true, prompt := [] } : Console).interactive =
    true := rfl
  have away := (prompt_awaits_input interactive rfl submitted).1 rfl
  have back := (prompt_awaits_input interactive rfl handled).1 rfl
  exact ⟨_, _, _, interactive, rfl, submitted, handled, rfl,
    Bool.eq_false_iff.mpr (mt away.mp (by decide)), back.mpr (by decide)⟩

/-- The start draws a prompt for a line that takes no input. -/
theorem disabled_line_prompted :
    ∃ c : Course, Reachable [] { inputDisabled := some true } 0 true c ∧
      (({ color := false, interactive := true, prompt := ['$', ' '] } : Console).run
        c.widget.signals).1.promptShown = true ∧
      c.widget.input.ready = false :=
  ⟨_, .start, rfl, rfl⟩

end Widget
end RemoteTerminal
