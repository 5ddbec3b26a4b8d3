import RemoteTerminal.Proofs.Console.Screen
import RemoteTerminal.Proofs.Console.Prompt

/-!
# What a console has written

A `View` is a console with all that was written on its screen, by the console or by whoever types
there, and with the places of the rows of entries: the screen rows that their breaks ended.

* `Keeps`: what is written later leaves the rows at the places as they are.
* `Standing`: the rows of the entries stand at their places, and the typed lines that wait stand
  below them, right above the cursor. It is kept by each signal that can come where it can come
  (`Standing.entry`, `Standing.input`, `Standing.prompt`), and by typing (`Standing.type`).
-/

namespace RemoteTerminal

structure View where
  console : Console
  written : Text := []
  places : List Nat := []

namespace View

def screen (v : View) : Screen := ({} : Screen).print v.written

/-- Writes what belongs to no entry. -/
def write (v : View) (t : Text) : View := { v with written := v.written ++ t }

@[simp] theorem write_nil (v : View) : v.write [] = v := by
  rw [write, List.append_nil]

/-- Takes in a signal, as the console does. -/
def meet (v : View) (signal : Signal) : View where
  console := (v.console.step signal).1
  written := v.written ++ (v.console.step signal).2
  places := v.places ++ v.screen.breaks (v.console.step signal).2

def follow (v : View) (signals : List Signal) : View := signals.foldl meet v

variable {v w x : View}

theorem follow_append (v : View) (first rest : List Signal) :
    v.follow (first ++ rest) = (v.follow first).follow rest := List.foldl_append ..

theorem screen_write (v : View) (t : Text) : (v.write t).screen = v.screen.print t :=
  Screen.print_append ..

theorem screen_meet (v : View) (signal : Signal) :
    (v.meet signal).screen = v.screen.print (v.console.step signal).2 :=
  Screen.print_append ..

/-- A view follows signals as a console runs over them. -/
theorem follow_eq_run (v : View) (signals : List Signal) :
    (v.follow signals).console = (v.console.run signals).1 ∧
      (v.follow signals).written = v.written ++ (v.console.run signals).2 := by
  induction signals generalizing v with
  | nil => exact ⟨rfl, (List.append_nil _).symm⟩
  | cons signal signals ih =>
    obtain ⟨console, written⟩ := ih (v.meet signal)
    exact ⟨console, written.trans (List.append_assoc ..)⟩

/-- A signal for which nothing happens. -/
theorem meet_eq_self {signal : Signal} (silent : v.console.step signal = (v.console, [])) :
    v.meet signal = v := by
  simp [meet, silent, Screen.breaks]

/-- A line that is not ready draws no prompt. -/
theorem meet_hidden {line : InputLine} (unready : line.ready = false) :
    v.meet (.input line) = v :=
  meet_eq_self (by simp [Console.step, Console.showPrompt, unready])

theorem follow_loaded (v : View) (hook : Option LoadHook) :
    v.follow (hook.toList.map .loaded) = v := by
  cases hook with
  | none => rfl
  | some => exact meet_eq_self rfl

/-- What was written after `v` leaves the rows at its places as they are, at any moment. -/
structure Keeps (v w : View) : Prop where
  written : ∃ later, w.written = v.written ++ later ∧ ∀ p ∈ v.places, v.screen.Spares p later
  places : v.places <+: w.places

theorem Keeps.trans (first : v.Keeps w) (second : w.Keeps x) : v.Keeps x := by
  obtain ⟨⟨later, written, spared⟩, places⟩ := first
  obtain ⟨⟨later', written', spared'⟩, places'⟩ := second
  refine ⟨⟨later ++ later', by rw [written', written, List.append_assoc], fun p hp => ?_⟩,
    places.trans places'⟩
  have next := spared' p (places.subset hp)
  rw [screen, written, Screen.print_append] at next
  exact (spared p hp).append next

theorem Keeps.meet {signal : Signal}
    (spared : ∀ p ∈ v.places, v.screen.Spares p (v.console.step signal).2) :
    v.Keeps (v.meet signal) := ⟨⟨_, rfl, spared⟩, List.prefix_append ..⟩

theorem Keeps.write {t : Text} (spared : ∀ p ∈ v.places, v.screen.Spares p t) :
    v.Keeps (v.write t) := ⟨⟨_, rfl, spared⟩, List.prefix_refl _⟩

/-! ## Standing rows -/

/-- The given lines of entries stand at their places, and below them the waiting lines, as they were
typed. If the input line is enabled, the first of these is on the row of the prompt that is on the
screen. -/
structure Standing (console : Console) (enabled : Bool) (v : View) (lines waiting : List Text) :
    Prop where
  console_eq : v.console = { console with
    themed := v.console.themed
    promptShown := v.console.promptShown }
  quiet : v.screen.sequence = []
  at_end : v.screen.column = (v.screen.rows v.screen.row).length
  blank : ∀ r, v.screen.row < r → v.screen.rows r = []
  started : v.console.promptShown = false ∨ waiting ≠ [] → v.screen.column = 0
  above : ∀ p ∈ v.places, p < v.screen.row
  apart : enabled = true → ∀ p ∈ v.places, p + waiting.length < v.screen.row
  ordered : v.places.Pairwise (· < ·)
  lines_eq : v.places.map v.screen.rows = lines
  typed : enabled = true → v.console.promptShown = true →
    ∃ r, r + waiting.length = v.screen.row ∧
      v.screen.rows r = console.prompt ++ waiting.headD []

variable {console : Console} {enabled : Bool} {lines waiting : List Text}

theorem standing_start (unshown : console.promptShown = false) :
    Standing console enabled { console } [] [] where
  console_eq := rfl
  quiet := rfl
  at_end := rfl
  blank _ _ := rfl
  started _ := rfl
  above := nofun
  apart _ := nofun
  ordered := .nil
  lines_eq := rfl
  typed _ shown := by
    rw [unshown] at shown
    cases shown

end View

/-- What makes room for an entry: a prompt on the screen is cleared. -/
def Console.makeRoom (c : Console) (kind : EntryKind) : Text :=
  if c.promptShown then (if kind = .echo then lineUp else []) ++ lineStart ++ clearLine else []

theorem Console.unbroken_makeRoom (c : Console) (kind : EntryKind) : '\n' ∉ c.makeRoom kind := by
  unfold makeRoom
  cases c.promptShown <;> cases kind <;> decide

namespace View.Standing

variable {v : View} {console : Console} {enabled : Bool} {lines waiting : List Text}

theorem fresh (h : Standing console enabled v lines waiting) (column : v.screen.column = 0) :
    v.screen.Fresh := by
  refine ⟨h.quiet, column, fun r below => ?_⟩
  obtain here | lower := Nat.eq_or_lt_of_le below
  · rw [← here]
    exact List.eq_nil_of_length_eq_zero (h.at_end.symm.trans column)
  · exact h.blank r lower

/-- Room for an entry is made below all places: an echo needs a line that was typed after the
prompt. -/
theorem makeRoom (h : Standing console enabled v lines waiting) {kind : EntryKind}
    (room : v.console.promptShown = true → kind = .echo → enabled = true ∧ waiting ≠ []) :
    (v.screen.print (v.console.makeRoom kind)).Fresh ∧
      ∀ p ∈ v.places, p < (v.screen.print (v.console.makeRoom kind)).row ∧
        v.screen.Spares p (v.console.makeRoom kind) := by
  unfold Console.makeRoom
  cases shown : v.console.promptShown with
  | false => exact ⟨h.fresh (h.started (.inl shown)), fun p hp => ⟨h.above p hp, h.above p hp⟩⟩
  | true =>
    rw [if_pos rfl, List.append_assoc]
    split
    · next echo =>
      obtain ⟨takes, typed⟩ := room shown echo
      have above (p) (hp : p ∈ v.places) : p + 1 < v.screen.row := by
        have := h.apart takes p hp
        have := List.length_pos_iff.mpr typed
        omega
      have fresh := h.fresh (h.started (.inr typed))
      have up := Screen.print_lineUp h.quiet
      have blank (r : Nat) (below : v.screen.row - 1 < r) : v.screen.rows r = [] :=
        fresh.blank r (by omega)
      obtain ⟨clear, row⟩ := Screen.fresh_clear (s := { v.screen with row := v.screen.row - 1 })
        h.quiet blank
      rw [Screen.print_append, up]
      refine ⟨clear, fun p hp => ⟨?_, (Screen.spares_lineUp h.quiet (above p hp)).append ?_⟩⟩
      · rw [row]
        exact Nat.lt_sub_of_add_lt (above p hp)
      · rw [up]
        exact Screen.spares_clear (s := { v.screen with row := v.screen.row - 1 }) h.quiet
          (Nat.lt_sub_of_add_lt (above p hp))
    · obtain ⟨fresh, row⟩ := Screen.fresh_clear h.quiet h.blank
      exact ⟨fresh, fun p hp => ⟨row ▸ h.above p hp, Screen.spares_clear h.quiet (h.above p hp)⟩⟩

/-- The rows at the places hold what they held, whatever spares them. -/
theorem lines_of_spares (h : Standing console enabled v lines waiting) {t : Text}
    (spared : ∀ p ∈ v.places, v.screen.Spares p t) :
    v.places.map (v.screen.print t).rows = lines := by
  rw [← h.lines_eq]
  apply List.map_congr_left
  intro p hp
  exact Screen.rows_of_spares (spared p hp) (List.prefix_refl _)

/-! ## Signals -/

theorem console_meet (h : Standing console enabled v lines waiting) (signal : Signal) :
    (v.meet signal).console = { console with
      themed := (v.meet signal).console.themed
      promptShown := (v.meet signal).console.promptShown } := by
  have same (themed promptShown : Bool) :
      ({ v.console with themed, promptShown } : Console) =
        { console with themed, promptShown } := by
    rw [h.console_eq]
  exact (v.console.step_eq signal).trans (same ..)

/-- An entry stands below the others, and no line waits any more. -/
theorem entry (h : Standing console enabled v lines waiting) (colorless : console.color = false)
    {entry : Entry} (tidy : ∀ row ∈ entry.rows, row.Tidy)
    (room : v.console.promptShown = true → entry.kind = .echo → enabled = true ∧ waiting ≠ []) :
    Standing console enabled (v.meet (.entry entry)) (lines ++ entry.lines) [] ∧
      v.Keeps (v.meet (.entry entry)) := by
  obtain ⟨fresh, above⟩ := h.makeRoom room
  have color : v.console.color = false := by rw [h.console_eq, colorless]
  have laid := Screen.lays_rows color fresh entry.kind tidy
  have spared (p) (hp : p ∈ v.places) :
      v.screen.Spares p (v.console.step (.entry entry)).2 :=
    (above p hp).2.append (laid.spares p (above p hp).1)
  have printed := screen_meet v (.entry entry)
  have places : (v.meet (.entry entry)).places = v.places ++
      List.range' (v.screen.print (v.console.makeRoom entry.kind)).row entry.lines.length := by
    show v.places ++ v.screen.breaks (v.console.makeRoom entry.kind ++ _) = _
    rw [Screen.breaks_append, Screen.breaks_unbroken _ (v.console.unbroken_makeRoom entry.kind),
      List.nil_append, laid.breaks_eq]
    rfl
  have final : (v.meet (.entry entry)).screen =
      (v.screen.print (v.console.makeRoom entry.kind)).print
        (entry.rows.flatMap (v.console.printRow entry.kind)) :=
    printed.trans (Screen.print_append ..)
  have below : ∀ p ∈ (v.meet (.entry entry)).places, p < (v.meet (.entry entry)).screen.row := by
    rw [final, laid.row_eq, places]
    intro p hp
    obtain old | new := List.mem_append.mp hp
    · exact Nat.lt_of_lt_of_le (above p old).1 (Nat.le_add_right ..)
    · exact (List.mem_range'_1.mp new).2
  refine ⟨?_, .meet spared⟩
  constructor
  case console_eq => exact h.console_meet _
  case quiet =>
    rw [final]
    exact laid.fresh.quiet
  case at_end =>
    rw [final, laid.fresh.column_eq, laid.fresh.blank _ (Nat.le_refl _)]
    rfl
  case blank =>
    rw [final]
    exact fun r below => laid.fresh.blank r (Nat.le_of_lt below)
  case started =>
    rw [final]
    exact fun _ => laid.fresh.column_eq
  case above => exact below
  case apart => exact fun _ => below
  case ordered =>
    rw [places, List.pairwise_append]
    refine ⟨h.ordered, List.pairwise_lt_range', ?_⟩
    intro p hp q hq
    exact Nat.lt_of_lt_of_le (above p hp).1 (List.mem_range'_1.mp hq).1
  case lines_eq =>
    have kept : v.places.map (v.meet (.entry entry)).screen.rows = lines := by
      rw [printed]
      exact h.lines_of_spares spared
    rw [places, List.map_append, kept, final]
    exact congrArg (lines ++ ·) laid.rows_eq
  case typed =>
    intro _ shown
    cases shown

/-- Nothing is written. -/
theorem keeps_self (h : Standing console enabled v lines waiting) : v.Keeps v :=
  ⟨⟨[], (List.append_nil _).symm, h.above⟩, List.prefix_refl _⟩

theorem theme (h : Standing console enabled v lines waiting) :
    Standing console enabled (v.meet .theme) lines waiting := by
  have same : v.meet .theme = { v with console.themed := true } := by
    simp [View.meet, Console.step, Screen.breaks]
  have console_eq := h.console_meet .theme
  rw [same] at console_eq ⊢
  exact ⟨console_eq, h.quiet, h.at_end, h.blank, h.started, h.above, h.apart, h.ordered,
    h.lines_eq, h.typed⟩

/-- The prompt is drawn where no line waits. -/
theorem input (h : Standing console enabled v lines []) (colorless : console.color = false)
    (plain : console.prompt.Plain) (line : InputLine) :
    Standing console enabled (v.meet (.input line)) lines [] ∧ v.Keeps (v.meet (.input line)) := by
  cases idle : !v.console.interactive || v.console.promptShown || !line.ready with
  | true =>
    have same : v.meet (.input line) = v := meet_eq_self (by
      rw [Console.step, Console.showPrompt, if_pos idle])
    rw [same]
    exact ⟨h, h.keeps_self⟩
  | false =>
    have unshown : v.console.promptShown = false := by
      cases shown : v.console.promptShown
      · rfl
      · simp [shown] at idle
    have color : v.console.color = false := by rw [h.console_eq, colorless]
    have prompt : v.console.prompt = console.prompt := by rw [h.console_eq]
    have drawn : v.console.step (.input line) =
        ({ v.console with promptShown := true }, v.console.prompt) := by
      rw [Console.step, Console.showPrompt, if_neg (by simp [idle]),
        Console.paint_colorless color]
    have spared (p) (hp : p ∈ v.places) :
        v.screen.Spares p (v.console.step (.input line)).2 := by
      rw [drawn, prompt]
      exact Screen.spares_unescaped h.quiet (h.above p hp) (plain.not_mem (by decide))
    have fresh := h.fresh (h.started (.inl unshown))
    have printed : (v.meet (.input line)).screen =
        { v.screen.setRow console.prompt with column := console.prompt.length } := by
      rw [screen_meet, drawn, prompt, Screen.print_plain h.quiet h.at_end plain,
        fresh.blank _ (Nat.le_refl _), fresh.column_eq, List.nil_append, Nat.zero_add]
    have places : (v.meet (.input line)).places = v.places := by
      show v.places ++ v.screen.breaks (v.console.step (.input line)).2 = _
      rw [drawn, prompt, Screen.breaks_unbroken _ (plain.not_mem (by decide)), List.append_nil]
    have below : ∀ p ∈ (v.meet (.input line)).places, p < (v.meet (.input line)).screen.row := by
      rw [printed, places]
      exact h.above
    refine ⟨?_, .meet spared⟩
    constructor
    case console_eq => exact h.console_meet _
    case quiet =>
      rw [printed]
      exact h.quiet
    case at_end =>
      rw [printed]
      simp [Screen.setRow]
    case blank =>
      rw [printed]
      intro r below
      exact (Function.update_of_ne (Nat.ne_of_gt below) ..).trans (h.blank r below)
    case started =>
      have shown : (v.meet (.input line)).console.promptShown = true :=
        congrArg (·.1.promptShown) drawn
      rintro (unshown | waits)
      · rw [shown] at unshown
        cases unshown
      · exact absurd rfl waits
    case above => exact below
    case apart => exact fun _ => below
    case ordered =>
      rw [places]
      exact h.ordered
    case lines_eq =>
      rw [places, screen_meet]
      exact h.lines_of_spares spared
    case typed =>
      rw [printed]
      intro _ _
      exact ⟨v.screen.row, rfl, by simp [Screen.setRow]⟩

/-- Entries that come before any prompt. -/
theorem entries (h : Standing console enabled v lines []) (colorless : console.color = false)
    (unshown : v.console.promptShown = false) {entries : List Entry}
    (tidy : ∀ entry ∈ entries, ∀ row ∈ entry.rows, row.Tidy) :
    Standing console enabled (v.follow (entries.map .entry))
        (lines ++ Transcript.lines entries) [] ∧
      (v.follow (entries.map .entry)).console.promptShown = false := by
  induction entries generalizing v lines with
  | nil =>
    rw [show lines ++ Transcript.lines [] = lines from List.append_nil _]
    exact ⟨h, unshown⟩
  | cons entry entries ih =>
    have room (shown : v.console.promptShown = true) :
        entry.kind = .echo → enabled = true ∧ ([] : List Text) ≠ [] := by
      rw [unshown] at shown
      cases shown
    obtain ⟨standing, -⟩ := h.entry colorless (tidy entry (.head _)) room
    have rest := ih standing rfl fun other hother => tidy other (.tail _ hother)
    rwa [List.append_assoc] at rest

/-! ### Signals that a start may leave out -/

theorem theme_if (h : Standing console enabled v lines waiting) (on : Bool) :
    Standing console enabled (v.follow (if on then [.theme] else [])) lines waiting ∧
      (v.follow (if on then [.theme] else [])).console.promptShown = v.console.promptShown := by
  cases on with
  | false => exact ⟨h, rfl⟩
  | true => exact ⟨h.theme, rfl⟩

theorem input_if (h : Standing console enabled v lines []) (colorless : console.color = false)
    (plain : console.prompt.Plain) (on : Bool) (line : InputLine) :
    Standing console enabled (v.follow (if on then [.input line] else [])) lines [] := by
  cases on with
  | false => exact h
  | true => exact (h.input colorless plain line).1

/-- A first submission. -/
theorem echo_if (h : Standing console enabled v lines []) (colorless : console.color = false)
    (unshown : v.console.promptShown = false) (on : Bool) {entries : List Entry}
    (tidy : ∀ entry ∈ if on then entries else [], ∀ row ∈ entry.rows, row.Tidy) :
    Standing console enabled
      (v.follow (if on then .input { visible := false } :: entries.map .entry else []))
      (lines ++ Transcript.lines (if on then entries else [])) [] := by
  cases on with
  | false =>
    rw [show lines ++ Transcript.lines _ = lines from List.append_nil _]
    exact h
  | true =>
    have hidden : v.meet (.input { visible := false }) = v := meet_hidden rfl
    show Standing _ _ ((v.meet _).follow _) _ _
    rw [hidden]
    exact (h.entries colorless unshown tidy).1

/-- Where a line waits, the prompt is due on the row below it. -/
theorem prompt (h : Standing console enabled v lines waiting) (colorless : console.color = false)
    (plain : console.prompt.Plain) (typed : waiting ≠ []) (line : InputLine) :
    Standing console enabled (v.meet (.prompt line)) lines [] ∧
      v.Keeps (v.meet (.prompt line)) := by
  have cleared : Standing console enabled { v with console.promptShown := false } lines [] := by
    refine ⟨?_, h.quiet, h.at_end, h.blank, fun _ => h.started (.inr typed), h.above,
      fun _ => h.above, h.ordered, h.lines_eq, nofun⟩
    show ({ v.console with promptShown := false } : Console) = { console with
      themed := v.console.themed, promptShown := false }
    rw [h.console_eq]
  obtain ⟨standing, keeps⟩ := cleared.input colorless plain line
  exact ⟨standing, keeps.written, keeps.places⟩

/-! ## Typing -/

/-- A typed line waits below those typed before it. -/
theorem type (h : Standing console enabled v lines waiting) {line : Text} (plain : line.Plain) :
    Standing console enabled (v.write (line ++ ['\n'])) lines (waiting ++ [line]) ∧
      v.Keeps (v.write (line ++ ['\n'])) := by
  have spared (p) (hp : p ∈ v.places) : v.screen.Spares p (line ++ ['\n']) :=
    Screen.spares_ended h.quiet (h.above p hp) plain
  have printed := (screen_write v (line ++ ['\n'])).trans
    (Screen.print_ended h.quiet h.at_end plain)
  have blank (r : Nat) (below : v.screen.row < r) :
      (v.write (line ++ ['\n'])).screen.rows r = [] := by
    rw [printed]
    exact (Function.update_of_ne (Nat.ne_of_gt below) ..).trans (h.blank r below)
  refine ⟨?_, .write spared⟩
  constructor
  case console_eq => exact h.console_eq
  case quiet =>
    rw [printed]
    exact h.quiet
  case at_end =>
    rw [blank _ (by rw [printed]; exact Nat.lt_succ_self _), printed]
    rfl
  case blank =>
    intro r below
    rw [printed] at below
    exact blank r (Nat.lt_of_succ_lt below)
  case started =>
    rw [printed]
    exact fun _ => rfl
  case above =>
    rw [printed]
    exact fun p hp => Nat.lt_succ_of_lt (h.above p hp)
  case apart =>
    rw [printed, List.length_append]
    exact fun takes p hp => Nat.succ_lt_succ (h.apart takes p hp)
  case ordered => exact h.ordered
  case lines_eq =>
    rw [screen_write]
    exact h.lines_of_spares spared
  case typed =>
    intro takes shown
    obtain ⟨r, row, rows⟩ := h.typed takes shown
    refine ⟨r, by rw [printed, List.length_append, ← row]; rfl, ?_⟩
    rw [printed]
    cases waiting with
    | nil =>
      obtain rfl : r = v.screen.row := row
      simp [Screen.setRow, rows]
    | cons first rest =>
      have other : r ≠ v.screen.row := by
        rw [← row, List.length_cons]
        omega
      exact (Function.update_of_ne other ..).trans rows

/-- Lines that are not taken by a disabled input line stand where they are. -/
theorem ignore (h : Standing console false v lines waiting) {left : List Text}
    (fewer : left.length ≤ waiting.length) : Standing console false v lines left := by
  refine ⟨h.console_eq, h.quiet, h.at_end, h.blank, ?_, h.above, nofun, h.ordered, h.lines_eq,
    nofun⟩
  rintro (unshown | waits)
  · exact h.started (.inl unshown)
  · refine h.started (.inr fun none => waits ?_)
    rw [none] at fewer
    exact List.length_eq_zero_iff.mp (Nat.le_zero.mp fewer)

/-- Lines that a disabled input line does not take wait wherever the cursor starts a row. -/
theorem wait (h : Standing console false v lines waiting) (unshown : v.console.promptShown = false)
    (others : List Text) : Standing console false v lines others :=
  ⟨h.console_eq, h.quiet, h.at_end, h.blank, fun _ => h.started (.inl unshown), h.above, nofun,
    h.ordered, h.lines_eq, nofun⟩

/-- What is standing is seen on the screen, whatever led there. -/
theorem of_screen (h : Standing console enabled v lines waiting) {w : View}
    (console_eq : w.console = v.console) (screen : w.screen = v.screen)
    (places : w.places = v.places) : Standing console enabled w lines waiting := by
  constructor <;> simp only [console_eq, screen, places]
  case console_eq => exact h.console_eq
  case quiet => exact h.quiet
  case at_end => exact h.at_end
  case blank => exact h.blank
  case started => exact h.started
  case above => exact h.above
  case apart => exact h.apart
  case ordered => exact h.ordered
  case lines_eq => exact h.lines_eq
  case typed => exact h.typed

/-- A warning about lines that are not taken stands below them. -/
theorem warning (h : Standing console false v lines waiting) (colorless : console.color = false)
    (typed : waiting ≠ []) {message : Text} (plain : message.Plain) :
    Standing console false (v.write (v.console.warning message)) lines waiting ∧
      v.Keeps (v.write (v.console.warning message)) := by
  have color : v.console.color = false := by rw [h.console_eq, colorless]
  have text : v.console.warning message = '\r' :: (("warning: ".toList ++ message) ++ ['\n']) := by
    simp [Console.warning, Console.notice, color]
  have back : v.screen.meet '\r' = v.screen := by
    have column : v.screen.column = 0 := h.started (.inr typed)
    rw [Screen.meet, if_neg (not_not.mpr h.quiet), if_neg (by decide), if_neg (by decide),
      if_pos rfl, ← column]
  have plain_text : Text.Plain ("warning: ".toList ++ message) :=
    Text.Plain.append (by decide) plain
  obtain ⟨standing, kept⟩ := h.type plain_text
  rw [text]
  constructor
  · have shorter : waiting.length ≤ (waiting ++ ["warning: ".toList ++ message]).length := by simp
    refine (standing.ignore shorter).of_screen rfl ?_ rfl
    rw [screen_write, screen_write, Screen.print_cons, back]
  · refine .write fun p hp => ⟨h.above p hp, ?_⟩
    rw [back]
    exact Screen.spares_ended h.quiet (h.above p hp) plain_text

end View.Standing
end RemoteTerminal
