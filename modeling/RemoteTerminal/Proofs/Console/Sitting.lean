import RemoteTerminal.Proofs.Console.View
import RemoteTerminal.Proofs.Host.Changes

/-!
# Someone types at a console

A `Sitting` is a host in its loop, the console that shows its widget, and whoever types lines there.
A line is on the screen as soon as it is typed; the host reads it when it comes to it.

Whatever the order, the console is the one that ran over all the signals (`console_of_run`).
`Orderly` says that nothing is printed while a typed line waits, the line apart that it is printed
for. `rows_stand`: as long as a sitting is orderly, every row of the transcript stays where it was
printed, in the order of the transcript. The echo of a line that was typed before something else was
printed goes up to what was printed last (`row_lost`).
-/

namespace RemoteTerminal

/-- An echo over a prompt goes up a row first. -/
theorem Console.printEntry_over {c : Console} (shown : c.promptShown = true) {entry : Entry}
    (echo : entry.kind = .echo) : ∃ rest, c.printEntry entry = lineUp ++ rest := by
  refine ⟨lineStart ++ clearLine ++ entry.rows.flatMap (c.printRow entry.kind), ?_⟩
  simp [printEntry, shown, echo]

/-! ## A session on a screen -/

namespace View

/-- A view that shows a session: the rows of its transcript stand, and below them the waiting
lines. -/
abbrev Shows (console : Console) (s : Session) (v : View) (waiting : List Text) : Prop :=
  Standing console (!s.panel.input.disabled) v s.panel.transcript.lines waiting

variable {console : Console} {s : Session} {v : View} {waiting : List Text}

/-- Typing a value into the input line shows nothing. -/
theorem Shows.setValue (h : Shows console s v waiting) (value : Text) :
    Shows console (s.type value) v waiting := by
  have enabled : (s.type value).panel.input.disabled = s.panel.input.disabled :=
    InputLine.disabled_setValue ..
  rw [Shows, enabled]
  exact h

/-- Output stands below everything else, unless a line waits that an echo will go up to. -/
theorem Shows.append (h : Shows console s v waiting)
    (settled : s.panel.input.disabled = false → waiting = []) (colorless : console.color = false)
    (plain : console.prompt.Plain) {output : Text}
    (rows_plain : ∀ row ∈ (Entry.ofOutput s.settings output).rows, row.text.Plain) :
    let told := [.entry (.ofOutput s.settings output), .input (s.append output).panel.input]
    Shows console (s.append output) (v.follow told) waiting ∧ v.Keeps (v.follow told) := by
  have tidy (row) (hrow : row ∈ (Entry.ofOutput s.settings output).rows) : row.Tidy :=
    ⟨rows_plain row hrow, Row.closed_ofOutput hrow⟩
  have same : (s.append output).panel.input.disabled = s.panel.input.disabled :=
    Panel.disabled_append ..
  have lines : Transcript.lines (s.append output).panel.transcript =
      s.panel.transcript.lines ++ (Entry.ofOutput s.settings output).lines :=
    Transcript.lines_concat ..
  unfold Shows at h ⊢
  rw [same, lines]
  obtain ⟨shown, kept⟩ := h.entry colorless tidy nofun
  cases disabled : s.panel.input.disabled with
  | false =>
    rw [disabled] at shown
    rw [settled disabled]
    obtain ⟨drawn, kept'⟩ := shown.input colorless plain (s.append output).panel.input
    exact ⟨drawn, kept.trans kept'⟩
  | true =>
    rw [disabled] at shown
    have unready : (s.append output).panel.input.ready = false := by
      simp [InputLine.ready, same, disabled]
    have followed : v.follow [.entry (.ofOutput s.settings output),
        .input (s.append output).panel.input] = v.meet (.entry (.ofOutput s.settings output)) :=
      meet_hidden unready
    dsimp only
    rw [followed]
    exact ⟨shown.wait rfl waiting, kept⟩

/-- Of the signals of a submission, only the echo shows. -/
theorem follow_begun (admitted : s.settings.admits s.command = true) :
    v.follow (.input s.panel.input.hide.clear :: (s.settings.echo s.command).map .entry) =
      v.meet (.entry (.ofCommand s.settings s.command)) := by
  have hidden : v.meet (.input s.panel.input.hide.clear) = v := meet_hidden rfl
  rw [Settings.echo, if_pos admitted]
  show (v.meet _).meet _ = _
  rw [hidden]

/-- The echo of a line stands where the line was typed after the prompt. -/
theorem Shows.begun (h : Shows console s v waiting) (colorless : console.color = false)
    (takes : s.panel.input.disabled = false) (typed : waiting ≠ [])
    (admitted : s.settings.admits s.command = true)
    (rows_plain : (s.settings.promptText.getD [] ++ s.command).Plain) :
    let told := .input s.panel.input.hide.clear :: (s.settings.echo s.command).map .entry
    Shows console s.begun (v.follow told) [] ∧ v.Keeps (v.follow told) := by
  have tidy (row) (hrow : row ∈ (Entry.ofCommand s.settings s.command).rows) : row.Tidy := by
    obtain rfl := List.mem_singleton.mp hrow
    exact ⟨rows_plain, nofun⟩
  have lines : Transcript.lines s.begun.panel.transcript =
      s.panel.transcript.lines ++ (Entry.ofCommand s.settings s.command).lines := by
    rw [Session.transcript_begun, Settings.echo, if_pos admitted, Transcript.lines_concat]
  have enabled : s.begun.panel.input.disabled = s.panel.input.disabled := by
    rw [Session.input_begun]
    rfl
  dsimp only
  rw [follow_begun admitted, Shows, enabled, lines]
  exact h.entry colorless tidy fun _ _ => ⟨congrArg (!·) takes, typed⟩

end View

/-- A host in its loop, and all that is on the screen. -/
structure Sitting where
  loop : Host.Loop
  view : View

namespace Sitting

variable {replies : Nat → Reply} {console : Console} {s t u : Sitting}

def signals (s : Sitting) : List Signal := s.loop.host.widget.signals

def transcript (s : Sitting) : Transcript := s.loop.host.widget.transcript

/-- Whether the host submits lines at all. -/
def enabled (s : Sitting) : Bool := !s.loop.host.widget.input.disabled

/-- A sitting at its start, with the widget as it starts on an empty screen. -/
def start (widget : Widget) (console : Console) : Sitting where
  loop := .start widget []
  view := ({ console } : View).follow widget.signals

/-- Shows what is new since the loop was at `s.loop`. -/
def refresh (s : Sitting) (next : Host.Loop) : Sitting where
  loop := next
  view :=
    let view := s.view.follow (next.host.widget.signals.drop s.signals.length)
    view.write (next.host.noticesAfter s.loop.host.warnings.length view.console)

/-- A line is typed, or the host goes on. -/
inductive Step (replies : Nat → Reply) : Sitting → Sitting → Prop where
  | key (s : Sitting) (line : Text) (inputOpen : s.loop.host.inputOpen = true) :
      Step replies s {
        loop := { s.loop with unread := s.loop.unread ++ [.ok line] }
        view := s.view.write (line ++ ['\n']) }
  | host (s : Sitting) (next : Host.Loop) (step : Host.Step replies s.loop next) :
      Step replies s (s.refresh next)

/-- No typed line waits where anything was printed, unless all lines are ignored, and all texts are
shown as they are. -/
def Paced (s t : Sitting) : Prop :=
  (s.enabled = true → t.signals ≠ s.signals → t.loop.pending = []) ∧
    (∀ line ∈ t.loop.pending, line.Plain) ∧
    ∀ entry ∈ t.transcript, ∀ row ∈ entry.rows, row.text.Plain

instance (s t : Sitting) : Decidable (Paced s t) := inferInstanceAs (Decidable (_ ∧ _ ∧ _))

structure Orderly (replies : Nat → Reply) (s t : Sitting) : Prop where
  step : Step replies s t
  paced : Paced s t

/-- The rows of the transcript stand at their places, with the pending lines below them. -/
abbrev Standing (console : Console) (s : Sitting) : Prop :=
  s.view.Shows console s.loop.host.widget.session s.loop.pending

/-- Nothing was warned of: the view follows what was signalled. -/
theorem view_refresh {next : Host.Loop} {more : List Signal}
    (told : next.host.widget.signals = s.signals ++ more)
    (warnings : next.host.warnings = s.loop.host.warnings) :
    (s.refresh next).view = s.view.follow more := by
  rw [refresh, told, List.drop_left]
  simp [Host.noticesAfter, warnings]

/-- The console of a sitting has run over all that was signalled, whatever was typed meanwhile. -/
theorem console_of_run {widget : Widget}
    (run : Relation.ReflTransGen (Step replies) (start widget console) s) :
    s.view.console = (console.run s.signals).1 := by
  induction run with
  | refl => exact (View.follow_eq_run _ _).1
  | @tail s _ _ step ih =>
    cases step with
    | key => exact ih
    | host next step =>
      obtain ⟨more, told⟩ := (Host.change_of_step step).signals_grow
      have followed : (s.refresh next).view.console = (s.view.follow more).console := by
        rw [refresh, signals, ← told, List.drop_left]
        rfl
      rw [followed, (View.follow_eq_run _ _).1, ih]
      show _ = (console.run next.host.widget.signals).1
      rw [← told, Console.run_append]
      rfl

/-- Where anything was signalled, no line is left to wait. -/
theorem pending_of_told {next : Host.Loop}
    (unhurried : s.enabled = true → (s.refresh next).signals ≠ s.signals → next.pending = [])
    {signal : Signal} {more : List Signal}
    (told : next.host.widget.signals = s.signals ++ signal :: more)
    (takes : s.loop.host.widget.input.disabled = false) : next.pending = [] := by
  refine unhurried (congrArg (!·) takes) fun same => ?_
  have longer := congrArg List.length (told.symm.trans same)
  simp at longer

theorem admits_typed {w : Widget} {line : Text} (enabled : w.input.disabled = false)
    (admitted : w.settings.admits line.trim = true) :
    (w.session.type line).settings.admits (w.session.type line).command = true := by
  have command : (w.session.type line).command = line.trim := Host.command_type enabled
  rw [command]
  exact admitted

/-- An ignored line stays on the screen, with a warning below it if it is the first. -/
theorem standing_of_ignored {next : Host.Loop}
    (disabled : s.loop.host.widget.input.disabled = true)
    (session : next.host.widget.session = s.loop.host.widget.session)
    (fewer : next.pending.length < s.loop.pending.length)
    (warnings : next.host.warnings = s.loop.host.warnings ∨
      next.host.warnings = s.loop.host.warnings ++ [Host.ignoredWarning])
    (colorless : console.color = false) (ih : Standing console s) :
    Standing console (s.refresh next) ∧ s.view.Keeps (s.refresh next).view := by
  have told : next.host.widget.signals = s.signals := congrArg (·.panel.signals) session
  have silent : s.view.follow (next.host.widget.signals.drop s.signals.length) = s.view := by
    rw [told, List.drop_length]
    rfl
  have off : (!s.loop.host.widget.session.panel.input.disabled) = false := congrArg (!·) disabled
  have unread : s.loop.pending ≠ [] := List.ne_nil_of_length_pos (Nat.zero_lt_of_lt fewer)
  unfold Standing View.Shows at ih ⊢
  rw [off] at ih
  show View.Standing console (!next.host.widget.session.panel.input.disabled) _
    (Transcript.lines next.host.widget.session.panel.transcript) next.pending ∧ _
  rw [session, off, refresh, silent]
  dsimp only
  unfold Host.noticesAfter
  obtain same | warned := warnings
  · rw [same, List.drop_length, List.flatMap_nil, View.write_nil]
    exact ⟨ih.ignore (Nat.le_of_lt fewer), ih.keeps_self⟩
  · have plain : Host.ignoredWarning.Plain := by decide
    rw [warned, List.drop_left, List.flatMap_singleton]
    obtain ⟨standing, kept⟩ := ih.warning colorless unread plain
    exact ⟨standing.ignore (Nat.le_of_lt fewer), kept⟩

theorem Orderly.standing (h : Orderly replies s t) (colorless : console.color = false)
    (plain : console.prompt.Plain) (ih : Standing console s) :
    Standing console t ∧ s.view.Keeps t.view := by
  obtain ⟨step, unhurried, lines_plain, rows_plain⟩ := h
  cases step with
  | key line inputOpen =>
    have pending : ({ s.loop with unread := s.loop.unread ++ [.ok line] } : Host.Loop).pending =
        s.loop.pending ++ [line] := by
      simp [Host.Loop.pending, Except.toOption]
    rw [pending] at lines_plain
    have typed := ih.type (lines_plain line (by simp))
    rw [← pending] at typed
    exact typed
  | host next step =>
    show View.Shows console next.host.widget.session _ next.pending ∧ _
    have rows_plain : ∀ entry ∈ next.host.widget.session.panel.transcript,
      ∀ row ∈ entry.rows, row.text.Plain := rows_plain
    cases Host.change_of_step step with
    | idle session _ pending warnings =>
      have told : next.host.widget.signals = s.signals := congrArg (·.panel.signals) session
      have view : (s.refresh next).view = s.view :=
        view_refresh (told.trans (List.append_nil _).symm) warnings
      rw [view, session, pending]
      exact ⟨ih, ih.keeps_self⟩
    | ignored line disabled session _ pending warnings =>
      have fewer : next.pending.length < s.loop.pending.length := by
        rw [pending]
        exact Nat.lt_succ_self _
      exact standing_of_ignored disabled session fewer warnings colorless ih
    | shown output session _ pending warnings =>
      have told := (congrArg (·.panel.signals) session).trans (Panel.signals_append ..)
      rw [session] at rows_plain
      rw [view_refresh told warnings, session]
      refine View.Shows.append ?_ (pending_of_told unhurried told) colorless plain (rows_plain _ ?_)
      · rw [pending]
        exact ih
      · exact List.mem_append_right _ (.head _)
    | submitted line enabled admitted session _ pending warnings =>
      have told := (congrArg (·.panel.signals) session).trans (Session.signals_begun _)
      have settled := pending_of_told unhurried told enabled
      have counts := admits_typed enabled admitted
      rw [session, Session.transcript_begun, Settings.echo, if_pos counts] at rows_plain
      rw [view_refresh told warnings, session, settled]
      refine View.Shows.begun (ih.setValue line) colorless ?_ ?_ counts ?_
      · exact (InputLine.disabled_setValue ..).trans enabled
      · rw [pending]
        exact List.cons_ne_nil _ _
      · exact rows_plain _ (List.mem_append_right _ (.head _)) _ (.head _)
    | refused line enabled session _ pending warnings =>
      have told := congrArg (·.panel.signals) session
      have settled := pending_of_told unhurried told enabled
      rw [view_refresh told warnings, session, settled]
      exact View.Standing.prompt (ih.setValue line) colorless plain (by simp [pending]) _

/-! ## The start -/

/-- The entries that a start shows. -/
def opening (settings : Settings) : List Entry :=
  settings.welcome ++ if settings.submitOnLoad then settings.echo [] else []

theorem breaks_of_opening {settings : Settings} {entry : Entry} (h : entry ∈ opening settings)
    {row : Row} (hrow : row ∈ entry.rows) : row.breaks = true := by
  obtain greeted | echoed := List.mem_append.mp h
  · obtain ⟨message, -, rfl⟩ := List.mem_map.mp greeted
    obtain rfl := List.mem_singleton.mp hrow
    rfl
  · have echoed : entry = .ofCommand settings [] := by
      cases submits : settings.submitOnLoad <;> cases admits : settings.admits [] <;>
        simp_all [Settings.echo]
    subst echoed
    obtain rfl := List.mem_singleton.mp hrow
    rfl

theorem start_standing {url : Text} {options : Options} {containerHeight : Nat} {runtime : Bool}
    (colorless : console.color = false) (unshown : console.promptShown = false)
    (plain : console.prompt.Plain)
    (rows_plain : ∀ entry ∈ (Widget.start url options containerHeight runtime).transcript,
      ∀ row ∈ entry.rows, row.text.Plain) :
    Standing console (start (.start url options containerHeight runtime) console) := by
  have told : (Widget.start url options containerHeight runtime).signals = _ :=
    Widget.start_signals url options containerHeight runtime
  have shown : _ = opening _ :=
    (Widget.start_fresh url options containerHeight runtime).transcript_eq
  generalize Widget.start url options containerHeight runtime = w at *
  generalize options.resolve containerHeight = settings at *
  rw [shown] at rows_plain
  have tidy (entry : Entry) (hentry : entry ∈ opening settings) (row : Row)
      (hrow : row ∈ entry.rows) : row.Tidy := by
    refine ⟨rows_plain entry hentry row hrow, fun unbroken => ?_⟩
    rw [breaks_of_opening hentry hrow] at unbroken
    cases unbroken
  show View.Standing console (!w.input.disabled) (({ console } : View).follow w.signals)
    (Transcript.lines w.transcript) []
  rw [told, shown, opening, Transcript.lines_append]
  simp only [View.follow_append]
  have empty : View.Standing console (!w.input.disabled) _ [] [] := View.standing_start unshown
  obtain ⟨themed, same⟩ := empty.theme_if settings.themeEnabled
  obtain ⟨welcomed, unshown⟩ := themed.entries colorless (same.trans unshown)
    fun entry hentry => tidy entry (List.mem_append_left _ hentry)
  have submitted := welcomed.echo_if colorless unshown settings.submitOnLoad
    fun entry hentry => tidy entry (List.mem_append_right _ hentry)
  have focused := submitted.input_if colorless plain settings.focusOnLoad
    { visible := !settings.submitOnLoad, focused := !settings.submitOnLoad }
  have disabled := focused.input_if colorless plain settings.inputDisabled settings.firstLine
  rw [View.follow_loaded]
  exact disabled

/-! ## Runs -/

theorem standing_of_run (run : Relation.ReflTransGen (Orderly replies) s t)
    (colorless : console.color = false) (plain : console.prompt.Plain) (ih : Standing console s) :
    Standing console t ∧ s.view.Keeps t.view := by
  induction run with
  | refl => exact ⟨ih, ih.keeps_self⟩
  | tail _ step ih =>
    obtain ⟨standing, kept⟩ := step.standing colorless plain ih.1
    exact ⟨standing, ih.2.trans kept⟩

/-- An echo that goes up goes up to the row on which its line was typed after the prompt. -/
theorem echo_over_prompt (h : Orderly replies s u) (ih : Standing console s) {line : Text}
    (taken : u.loop.taken = s.loop.taken ++ [line]) (echoed : u.transcript ≠ s.transcript)
    (shown : s.view.console.promptShown = true) :
    (∃ rest, u.view.written = s.view.written ++ Console.lineUp ++ rest) ∧
      (s.view.screen.print Console.lineUp).rows (s.view.screen.print Console.lineUp).row =
        console.prompt ++ line := by
  obtain ⟨step, unhurried, -⟩ := h
  cases step with
  | key => simp at taken
  | host next step =>
    have taken : next.taken = s.loop.taken ++ [line] := taken
    cases Host.change_of_step step with
    | idle _ same | ignored _ _ _ same | shown _ _ same => simp [same] at taken
    | refused line' enabled session =>
      refine absurd ?_ echoed
      show next.host.widget.session.panel.transcript = _
      rw [session]
      rfl
    | submitted line' enabled admitted session took pending warnings =>
      obtain rfl : line' = line := by simpa [took] using taken
      have told := (congrArg (·.panel.signals) session).trans (Session.signals_begun _)
      have settled := pending_of_told unhurried told enabled
      rw [settled] at pending
      constructor
      · have view := view_refresh told warnings
        rw [View.follow_begun (admits_typed enabled admitted)] at view
        rw [view]
        obtain ⟨rest, printed⟩ := Console.printEntry_over shown
          (Entry.kind_ofCommand s.loop.host.widget.settings _)
        refine ⟨rest, ?_⟩
        show s.view.written ++ s.view.console.printEntry _ = _
        rw [List.append_assoc, ← printed]
        rfl
      · obtain ⟨r, row, typed⟩ := ih.typed (congrArg (!·) enabled) shown
        rw [pending] at row typed
        have up : s.view.screen.row - 1 = r := by
          rw [← row]
          rfl
        rw [Screen.print_lineUp ih.quiet]
        show s.view.screen.rows (s.view.screen.row - 1) = _
        rw [up, typed]
        rfl

/-- **The rows of the transcript stay on the screen.** In an orderly sitting at a console without
colors, the rows of the transcript stand on the screen in their order, each on a row of its own, and
nothing that is written later touches them, at any moment. An echo that goes up a row goes up to the
row with the prompt and the line that it is the echo of. -/
theorem rows_stand {url : Text} {options : Options} {containerHeight : Nat}
    (colorless : console.color = false) (unshown : console.promptShown = false)
    (plain : console.prompt.Plain)
    (rows_plain : ∀ entry ∈ (Widget.start url options containerHeight true).transcript,
      ∀ row ∈ entry.rows, row.text.Plain)
    (before : Relation.ReflTransGen (Orderly replies)
      (start (.start url options containerHeight true) console) s)
    (after : Relation.ReflTransGen (Orderly replies) s t) :
    s.view.places.map s.view.screen.rows = s.transcript.lines ∧ s.view.places.Pairwise (· < ·) ∧
    (∃ later, t.view.written = s.view.written ++ later ∧
      ∀ part, part <+: later → ∀ p ∈ s.view.places,
        (s.view.screen.print part).rows p = s.view.screen.rows p) ∧
    ∀ u line, Orderly replies s u → u.loop.taken = s.loop.taken ++ [line] →
      u.transcript ≠ s.transcript → s.view.console.promptShown = true →
      (∃ rest, u.view.written = s.view.written ++ Console.lineUp ++ rest) ∧
        (s.view.screen.print Console.lineUp).rows (s.view.screen.print Console.lineUp).row =
          console.prompt ++ line := by
  have opening := start_standing colorless unshown plain rows_plain
  obtain ⟨standing, -⟩ := standing_of_run before colorless plain opening
  obtain ⟨-, ⟨later, written, spared⟩, -⟩ := standing_of_run after colorless plain standing
  refine ⟨standing.lines_eq, standing.ordered, ⟨later, written, ?_⟩, ?_⟩
  · intro part start p hp
    exact Screen.rows_of_spares (spared p hp) start
  · intro u line step taken echoed shown
    exact echo_over_prompt step standing taken echoed shown

/-- The row of an answer is lost to the echo of a line that was typed before the answer came. -/
theorem row_lost :
    ∃ s t : Sitting,
      Relation.ReflTransGen (Step fun _ => .answered (.ok ['x']))
        (start (.start [] { promptText := some ['$'] } 0 true)
          { color := false, interactive := true, prompt := ['$', ' '] }) s ∧
      Step (fun _ => .answered (.ok ['x'])) s t ∧
      s.transcript.lines = [['$', ' ', 'a'], ['x']] ∧
      s.view.places.map s.view.screen.rows = [['$', ' ', 'a'], ['x']] ∧
      s.view.places.map t.view.screen.rows = [['$', ' ', 'a'], ['$', ' ', 'b']] := by
  have first : Relation.ReflTransGen (Step fun _ => .answered (.ok ['x']))
      (start (.start [] { promptText := some ['$'] } 0 true)
        { color := false, interactive := true, prompt := ['$', ' '] }) _ := .refl
  have typed := first.tail (.key _ ['a'] rfl)
  have read := typed.tail (.host _ _ (.line _ ['a'] [] rfl rfl rfl))
  have submitted := read.tail (.host _ _ (.submit _ ['a'] [] rfl rfl rfl rfl))
  have waits := submitted.tail (.host _ _ (.rest _ rfl (.inl rfl)))
  have reached := waits.tail (.host _ _ (.reach _ ⟨0, _⟩ (.head _) (by decide)))
  have typed_ahead := reached.tail (.key _ ['b'] rfl)
  have read_ahead := typed_ahead.tail (.host _ _ (.line _ ['b'] [] rfl rfl rfl))
  have waits_on := read_ahead.tail (.host _ _ (.rest _ rfl (.inl rfl)))
  have ended := waits_on.tail (.host _ _ (.finish _ ⟨0, _⟩ 0 (.head _) rfl))
  have answered := ended.tail (.host _ _ (.event _ _ _ rfl rfl))
  exact ⟨_, _, answered, .host _ _ (.submit _ ['b'] [] rfl rfl rfl rfl), by decide +kernel,
    by decide +kernel, by decide +kernel⟩

/-- A second line that is typed after the first was answered: its echo stands below the answer, on
the row on which it was typed. -/
theorem paced_rows_stand :
    ∃ s t : Sitting,
      Relation.ReflTransGen (Orderly fun _ => .answered (.ok ['x']))
        (start (.start [] { promptText := some ['$'] } 0 true)
          { color := false, interactive := true, prompt := ['$', ' '] }) s ∧
      Orderly (fun _ => .answered (.ok ['x'])) s t ∧
      t.transcript.lines = [['$', ' ', 'a'], ['x'], ['$', ' ', 'b']] ∧
      s.view.places.map s.view.screen.rows = s.transcript.lines ∧
      (s.view.screen.print Console.lineUp).rows (s.view.screen.print Console.lineUp).row =
        ['$', ' '] ++ ['b'] := by
  have first : Relation.ReflTransGen (Orderly fun _ => .answered (.ok ['x']))
      (start (.start [] { promptText := some ['$'] } 0 true)
        { color := false, interactive := true, prompt := ['$', ' '] }) _ := .refl
  have typed := first.tail ⟨.key _ ['a'] rfl, by decide +kernel⟩
  have read := typed.tail ⟨.host _ _ (.line _ ['a'] [] rfl rfl rfl), by decide +kernel⟩
  have submitted := read.tail
    ⟨.host _ _ (.submit _ ['a'] [] rfl rfl rfl rfl), by decide +kernel⟩
  have waits := submitted.tail ⟨.host _ _ (.rest _ rfl (.inl rfl)), by decide +kernel⟩
  have reached := waits.tail
    ⟨.host _ _ (.reach _ ⟨0, _⟩ (.head _) (by decide)), by decide +kernel⟩
  have ended := reached.tail
    ⟨.host _ _ (.finish _ ⟨0, _⟩ 0 (.head _) rfl), by decide +kernel⟩
  have answered := ended.tail ⟨.host _ _ (.event _ _ _ rfl rfl), by decide +kernel⟩
  have rests := answered.tail ⟨.host _ _ (.rest _ rfl (.inr rfl)), by decide +kernel⟩
  have typed_too := rests.tail ⟨.key _ ['b'] rfl, by decide +kernel⟩
  have read_too := typed_too.tail
    ⟨.host _ _ (.line _ ['b'] [] rfl rfl rfl), by decide +kernel⟩
  obtain ⟨stand, -, -, upward⟩ := rows_stand rfl rfl (by decide) (by decide) read_too .refl
  obtain ⟨-, up⟩ := upward _ ['b']
    ⟨.host _ _ (.submit _ ['b'] [] rfl rfl rfl rfl), by decide +kernel⟩ rfl (by decide +kernel) rfl
  exact ⟨_, _, read_too, ⟨.host _ _ (.submit _ ['b'] [] rfl rfl rfl rfl), by decide +kernel⟩,
    by decide +kernel, stand, up⟩

end Sitting
end RemoteTerminal
