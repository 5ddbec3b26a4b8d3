import RemoteTerminal.Proofs.Console.Prompt
import RemoteTerminal.Proofs.Console.Screen
import RemoteTerminal.Proofs.Host.Changes
import RemoteTerminal.Proofs.Surface

/-!
# What a piped console writes

A console is `Piped` if it shows no colors, nobody types at it, and no prompt is on it.

* `Piped.step`, `Piped.written`: it stays so, and for each signal it writes the rows of the entry
  that was signalled, and nothing for all others.
* `Transcript.written_eq_lines`: the rows of a closed transcript make its plain lines.
* `Panel.inUse_closed`: whatever a panel goes through, its transcript is closed.
* `Host.inUse_loop`: a host in its loop only puts the panel of its widget to use.
* `Host.piped_output_is_transcript`: so the output is the transcript, line by line.
-/

namespace RemoteTerminal

/-! ## The rows of a transcript, as they are written -/

/-- A row with the line feed that its break is. -/
def Row.written (row : Row) : Text := row.text ++ if row.breaks then ['\n'] else []

/-- The rows of all entries, one after the other. -/
def Transcript.written (t : Transcript) : Text :=
  t.flatMap fun entry => entry.rows.flatMap Row.written

/-- A text with a line feed after each line. -/
def Text.ofLines (lines : List Text) : Text := lines.flatMap fun line => line ++ ['\n']

@[simp] theorem Text.ofLines_append (a b : List Text) :
    ofLines (a ++ b) = ofLines a ++ ofLines b := List.flatMap_append ..

namespace Transcript

@[simp] theorem written_append (t u : Transcript) :
    Transcript.written (t ++ u) = t.written ++ u.written := List.flatMap_append ..

theorem Closed.append {t u : Transcript} (ht : t.Closed) (hu : u.Closed) :
    Transcript.Closed (t ++ u) := by
  intro entry hentry
  rcases List.mem_append.mp hentry with h | h
  · exact ht entry h
  · exact hu entry h

theorem Closed.of_prefix {t u : Transcript} (h : t <+: u) (hu : u.Closed) : t.Closed := by
  intro entry hentry
  exact hu entry (h.subset hentry)

theorem written_closed_rows {rows : List Row}
    (closed : ∀ row ∈ rows, row.breaks = false → row.text = []) :
    rows.flatMap Row.written = Text.ofLines ((rows.filter (·.breaks)).map (·.text)) := by
  induction rows with
  | nil => rfl
  | cons row rows ih =>
    have later := ih fun row hrow => closed row (.tail _ hrow)
    rw [List.flatMap_cons, later]
    cases breaks : row.breaks with
    | true => simp [Row.written, Text.ofLines, breaks]
    | false => simp [Row.written, breaks, closed row (.head _) breaks]

/-- Where all is closed, each line is written once, in its place. -/
theorem written_eq_lines {t : Transcript} (closed : t.Closed) :
    t.written = Text.ofLines t.plainLines := by
  rw [plainLines_eq_lines closed]
  induction t with
  | nil => rfl
  | cons entry t ih =>
    have first := written_closed_rows (closed entry (.head _))
    have rest := ih fun other hother => closed other (.tail _ hother)
    show entry.rows.flatMap Row.written ++ Transcript.written t =
      Text.ofLines (entry.lines ++ Transcript.lines t)
    rw [first, rest, Text.ofLines_append]
    rfl

end Transcript

/-! ## The console -/

namespace Console

/-- A console without colors that nobody types at. -/
structure Piped (c : Console) : Prop where
  colorless : c.color = false
  unattended : c.interactive = false
  unshown : c.promptShown = false

namespace Piped

variable {c : Console}

theorem showPrompt_eq (h : c.Piped) (line : InputLine) : c.showPrompt line = (c, []) := by
  simp [showPrompt, h.unattended]

theorem step (h : c.Piped) (signal : Signal) : (c.step signal).1.Piped := by
  cases signal with
  | theme => exact ⟨h.colorless, h.unattended, h.unshown⟩
  | entry => exact ⟨h.colorless, h.unattended, rfl⟩
  | input line =>
    rw [Console.step, h.showPrompt_eq]
    exact h
  | prompt line =>
    have cleared : ({ c with promptShown := false } : Console).Piped :=
      ⟨h.colorless, h.unattended, rfl⟩
    rw [Console.step, cleared.showPrompt_eq]
    exact cleared
  | loaded => exact h

theorem printEntry_eq (h : c.Piped) (entry : Entry) :
    c.printEntry entry = entry.rows.flatMap Row.written := by
  have rows : c.printRow entry.kind = Row.written := by
    funext row
    rw [printRow, paint_colorless h.colorless]
    rfl
  simp [printEntry, h.unshown, rows]

/-- A signal adds the same rows to the entries of a surface and to the output. -/
theorem written_meet (h : c.Piped) (s : Surface) (signal : Signal) :
    (s.meet signal).entries.written = s.entries.written ++ (c.step signal).2 := by
  cases signal with
  | entry entry =>
    rw [Surface.meet_entry, Transcript.written_append, Console.step, h.printEntry_eq]
    simp [Transcript.written]
  | input line =>
    rw [Console.step, h.showPrompt_eq]
    exact (List.append_nil _).symm
  | prompt line =>
    have cleared : ({ c with promptShown := false } : Console).Piped :=
      ⟨h.colorless, h.unattended, rfl⟩
    rw [Console.step, cleared.showPrompt_eq]
    exact (List.append_nil _).symm
  | theme | loaded => exact (List.append_nil _).symm

theorem written_foldl (h : c.Piped) (s : Surface) (signals : List Signal) :
    (signals.foldl Surface.meet s).entries.written = s.entries.written ++ (c.run signals).2 := by
  induction signals generalizing c s with
  | nil => exact (List.append_nil _).symm
  | cons signal signals ih =>
    rw [List.foldl_cons, ih (h.step signal), h.written_meet, run_cons, List.append_assoc]

/-- The output of a piped console: the entries that it was told of. -/
theorem written (h : c.Piped) (signals : List Signal) :
    (c.run signals).2 = (Surface.of signals).entries.written :=
  (h.written_foldl {} signals).symm

end Piped

end Console

namespace Surface

theorem entries_meet (s : Surface) (signal : Signal) :
    s.entries <+: (s.meet signal).entries := by
  cases signal with
  | entry entry => exact List.prefix_append _ _
  | input | theme | prompt | loaded => exact List.prefix_refl _

/-- What was told later leaves the earlier entries as they are. -/
theorem entries_prefix {told signals : List Signal} (h : told <+: signals) :
    (of told).entries <+: (of signals).entries := by
  obtain ⟨more, rfl⟩ := h
  rw [of, of, List.foldl_append]
  generalize told.foldl meet {} = s
  induction more generalizing s with
  | nil => exact List.prefix_refl _
  | cons signal more ih => exact (entries_meet s signal).trans (ih _)

end Surface

/-! ## Panels in use are closed -/

namespace Settings

theorem closed_welcome (settings : Settings) : Transcript.Closed settings.welcome := by
  intro entry hentry
  obtain ⟨message, -, rfl⟩ := List.mem_map.mp hentry
  exact (Panel.Addition.welcome message).closed

theorem closed_echo (settings : Settings) (command : Text) :
    Transcript.Closed (settings.echo command) := by
  intro entry hentry row hrow
  unfold echo at hentry
  split at hentry
  · rw [List.mem_singleton.mp hentry] at hrow
    rw [List.mem_singleton.mp hrow]
    exact nofun
  · cases hentry

end Settings

namespace Panel

variable {p q : Panel}

theorem closed_append (settings : Settings) (output : Text) (h : p.transcript.Closed) :
    (p.append settings output).transcript.Closed :=
  h.concat (Addition.output settings output).closed

theorem closed_begun {s : Session} (h : s.panel.transcript.Closed) :
    s.begun.panel.transcript.Closed := by
  rw [Session.transcript_begun]
  exact h.append (Settings.closed_echo _ _)

theorem closed_of_change {w next : Widget} (change : Widget.Change w next)
    (h : w.panel.transcript.Closed) : next.panel.transcript.Closed := by
  show next.session.panel.transcript.Closed
  cases change with
  | none session | typed _ session | focused session | prompted session =>
    rw [session]
    exact h
  | submitted _ session =>
    rw [session]
    exact closed_begun h
  | shown output session =>
    rw [session]
    exact closed_append _ output h

theorem closed_of_operation (operation : Operation p q) (h : p.transcript.Closed) :
    q.transcript.Closed := by
  cases operation with
  | applyTheme | type | hideInput | focusInput | disableInput => exact h
  | greet _ message => exact h.concat (Addition.welcome message).closed
  | echo _ settings command => exact h.concat (Addition.command settings command).closed
  | append _ settings output => exact closed_append settings output h
  | resolve s outcome => exact closed_append s.settings outcome.toText h
  | submit s trigger =>
    rw [Session.submit_eq]
    split
    · exact closed_begun h
    · exact h
  | start url options containerHeight runtime =>
    have shown := (Widget.start_fresh url options containerHeight runtime).transcript_eq
    show Transcript.Closed (Widget.start url options containerHeight runtime).transcript
    rw [shown]
    refine (Settings.closed_welcome _).append ?_
    split
    · exact Settings.closed_echo _ _
    · exact nofun
  | step c d step => exact closed_of_change (Widget.change_of_step step) h

/-- Whatever a panel went through, its rows hold nothing where no break follows them. -/
theorem inUse_closed (run : InUse p) : p.transcript.Closed := by
  induction run with
  | fresh => exact nofun
  | next _ operation ih => exact closed_of_operation operation ih

/-- A piped console that follows a panel has written, at any moment, the lines of the entries that
it was told of until then. -/
theorem written_of_inUse {c : Console} (piped : c.Piped) (run : InUse p) {told : List Signal}
    (h : told <+: p.signals) :
    (c.run told).2 = Text.ofLines (Surface.of told).entries.plainLines := by
  have all_told : p.surface.entries = p.transcript := (inUse_followed run).entries_eq
  have closed : p.surface.entries.Closed := by
    rw [all_told]
    exact inUse_closed run
  rw [piped.written, Transcript.written_eq_lines (closed.of_prefix (Surface.entries_prefix h))]

end Panel

/-! ## The host -/

namespace Host

variable {replies : Nat → Reply} {url : Text} {options : Options} {containerHeight : Nat}
variable {lines : List (Except FileFault Text)} {s t : Loop}

/-- The operations behind a step of the loop. -/
theorem inUse_step (step : Step replies s t) (h : s.host.widget.panel.InUse) :
    t.host.widget.panel.InUse := by
  show t.host.widget.session.panel.InUse
  cases change_of_step step with
  | idle session | ignored _ _ session =>
    rw [session]
    exact h
  | shown output session =>
    rw [session]
    exact h.next (.append _ _ output)
  | submitted line enabled admitted session =>
    have typed := h.next (.type _ line)
    have accepts : (s.host.widget.session.type line).accepts .user = true :=
      (accepts_type enabled).trans admitted
    have submitted := typed.next (.submit (s.host.widget.session.type line) .user)
    rw [Session.submit_eq, if_pos accepts] at submitted
    rw [session]
    exact submitted
  | refused line _ session =>
    have typed := h.next (.type _ line)
    rw [session]
    exact typed.next (.step _ _ (.reprompt { widget := s.host.widget.type line } rfl))

theorem inUse_loop
    (run : Steps replies (.start (.start url options containerHeight true) lines) s) :
    s.host.widget.panel.InUse := by
  induction run with
  | refl => exact .next .fresh (.start url options containerHeight true)
  | tail _ step ih => exact inUse_step step ih

/-- **The output of a piped console is the transcript.** A console without colors that nobody types
at has written the lines of the transcript, each with a line feed after it, at every point of every
run of the host: no prompt, no control sequence, no line twice or in another place. The same holds
in the middle of a step, of the entries that have been signalled until then. -/
theorem piped_output_is_transcript (prompt : Text)
    (run : Steps replies (.start (.start url options containerHeight true) lines) s) :
    let console : Console := { color := false, interactive := false, prompt }
    (console.run s.host.widget.signals).2 = .ofLines s.host.widget.transcript.plainLines ∧
    ∀ told, told <+: s.host.widget.signals →
      (console.run told).2 = .ofLines (Surface.of told).entries.plainLines := by
  intro console
  have piped : console.Piped := ⟨rfl, rfl, rfl⟩
  have used := inUse_loop run
  have output (told : List Signal) (h : told <+: s.host.widget.signals) :=
    Panel.written_of_inUse piped used h
  refine ⟨?_, output⟩
  have all_told : (Surface.of s.host.widget.signals).entries = s.host.widget.transcript :=
    (Panel.inUse_followed used).entries_eq
  rw [output _ (List.prefix_refl _), all_told]

/-- A welcome, a blank line, a command, a text from outside before its answer, and the answer with
its tab and its last line feed. -/
theorem piped_command_written :
    ∃ s, Steps (fun _ => .answered (.ok "x\ty\n".toList))
        (.start (.start [] { promptText := some ['$'], helloMessage := some ['h', 'i'] } 0 true)
          [.ok [' '], .ok ['a']]) s ∧
      (({ color := false, interactive := false, prompt := ['$', ' '] } : Console).run
        s.host.widget.signals).2 = "hi\n$ a\np\nx    y\n".toList := by
  have first : Steps (fun _ => .answered (.ok "x\ty\n".toList))
      (.start (.start [] { promptText := some ['$'], helloMessage := some ['h', 'i'] } 0 true)
        [.ok [' '], .ok ['a']]) _ := .refl
  have blank := first.tail (.line _ [' '] _ rfl rfl rfl)
  have refused := blank.tail (.submit _ [' '] [] rfl rfl rfl rfl)
  have waits := refused.tail (.rest _ rfl (.inr rfl))
  have read := waits.tail (.line _ ['a'] _ rfl rfl rfl)
  have submitted := read.tail (.submit _ ['a'] [] rfl rfl rfl rfl)
  have hidden := submitted.tail (.rest _ rfl (.inl rfl))
  have reached := hidden.tail (.reach _ ⟨0, _⟩ (.head _) (by decide))
  have posted := reached.tail (.post _ ['p'])
  have ended := posted.tail (.finish _ ⟨0, _⟩ 0 (.head _) rfl)
  have shown := ended.tail (.event _ _ _ rfl rfl)
  have waits_on := shown.tail (.rest _ rfl (.inr rfl))
  have answered := waits_on.tail (.event _ _ _ rfl rfl)
  obtain ⟨output, -⟩ := piped_output_is_transcript ['$', ' '] answered
  exact ⟨_, answered, output.trans (by decide +kernel)⟩

end Host
end RemoteTerminal
