import RemoteTerminal.Console
import RemoteTerminal.Proofs.Console.Prompt
import RemoteTerminal.Proofs.Console.Screen
import RemoteTerminal.Proofs.Text.Pieces

/-!
# Colors on the console

A console with colors puts style sequences around what a console without colors prints, and
nothing else. Taking the styles off goes through a text once, so it can be followed part by part.

* `reads_style`, `reads_unescaped`: style sequences are taken off, and other text is kept, whatever
  follows.
* `reads_paint`, `reads_printEntry`: so it is with a painted text, and with a whole entry.
* `inStep_step`, `inStep_run`: two consoles that differ in color only stay so, signal by signal.
* `color_only_styles`: what they print differs in styles only.
-/

namespace RemoteTerminal

/-- The rows of what a signal shows. -/
def Signal.rows : Signal → List Row
  | .entry shown => shown.rows
  | .theme | .input _ | .prompt _ | .loaded _ => []

namespace Console

open Text (ReadsAs)

/-! ## Taking styles off -/

/-- The parameters of a control sequence are written in digits and the signs after them. -/
def isParameter (c : Char) : Bool :=
  decide ('0'.toNat ≤ c.toNat) && decide (c.toNat ≤ '?'.toNat)

/-- The length of the style sequence that a text starts with: the escape character, a bracket,
parameters, and an `m`. -/
def styleLength? : Text → Option Nat
  | '\x1b' :: '[' :: rest =>
    let parameters := rest.takeWhile isParameter
    if ['m'].isPrefixOf (rest.drop parameters.length) then some (parameters.length + 3) else none
  | _ => none

/-- Takes the styles off a text of which the first `skipped` characters belong to one. -/
def unstyleFrom : Nat → Text → Text
  | _, [] => []
  | skipped + 1, _ :: cs => unstyleFrom skipped cs
  | 0, c :: cs =>
    match styleLength? (c :: cs) with
    | some length => unstyleFrom (length - 1) cs
    | none => c :: unstyleFrom 0 cs

/-- The text without its style sequences. -/
def unstyle (t : Text) : Text := unstyleFrom 0 t

theorem unstyleFrom_length (piece rest : Text) :
    unstyleFrom piece.length (piece ++ rest) = unstyle rest := by
  induction piece with
  | nil => rfl
  | cons c piece ih => exact ih

/-- A style sequence is taken off. -/
theorem reads_style {parameters : Text} (all : parameters.all isParameter = true) :
    ReadsAs unstyle ('\x1b' :: '[' :: parameters ++ ['m']) [] := by
  intro rest
  have ends : isParameter 'm' = false := by decide
  have taken : (parameters ++ 'm' :: rest).takeWhile isParameter = parameters := by
    rw [List.takeWhile_append_of_pos (List.all_eq_true.mp all),
      List.takeWhile_cons_of_neg (by simp [ends]), List.append_nil]
  have found : styleLength? ('\x1b' :: '[' :: (parameters ++ 'm' :: rest)) =
      some (parameters.length + 3) := by
    simp [styleLength?, taken]
  have skipped := unstyleFrom_length ('[' :: (parameters ++ ['m'])) rest
  rw [List.length_cons, List.length_append, List.length_singleton] at skipped
  simp only [List.cons_append, List.append_assoc, List.nil_append] at skipped ⊢
  rw [unstyle, unstyleFrom, found]
  exact skipped

theorem reads_unescaped {t : Text} (unescaped : '\x1b' ∉ t) : ReadsAs unstyle t t := by
  induction t with
  | nil => exact .nil
  | cons c t ih =>
    obtain ⟨other, unescaped⟩ := not_or.mp (mt List.mem_cons.mpr unescaped)
    intro rest
    -- Whatever `t` and `rest` hold, no style sequence starts without an escape character.
    have missed : styleLength? (c :: (t ++ rest)) = none := by
      unfold styleLength?
      split
      next same => exact absurd (List.cons.inj same).1.symm other
      next => rfl
    show unstyleFrom 0 (c :: (t ++ rest)) = _
    rw [unstyleFrom, missed]
    exact congrArg (c :: ·) (ih unescaped rest)

theorem reads_lineUp : ReadsAs unstyle lineUp lineUp := fun _ => rfl
theorem reads_lineStart : ReadsAs unstyle lineStart lineStart := fun _ => rfl
theorem reads_clearLine : ReadsAs unstyle clearLine clearLine := fun _ => rfl

theorem reads_foreground (color : Color) : ReadsAs unstyle (foreground color) [] := by
  have all : ("38;5;".toList ++ Text.decimal color.palette).all isParameter = true := by
    cases color <;> decide
  exact reads_style all

theorem reads_background (color : Color) : ReadsAs unstyle (background color) [] := by
  have all : ("48;5;".toList ++ Text.decimal color.palette).all isParameter = true := by
    cases color <;> decide
  exact reads_style all

theorem reads_usualForeground : ReadsAs unstyle usualForeground [] :=
  reads_style (show "39".toList.all isParameter = true by decide)

theorem reads_usualBackground : ReadsAs unstyle usualBackground [] :=
  reads_style (show "49".toList.all isParameter = true by decide)

/-! ## Two consoles side by side -/

/-- The same console without colors. -/
def colorless (c : Console) : Console := { c with color := false }

theorem reads_paint (c : Console) {text : Text} (unescaped : '\x1b' ∉ text) (token : Token) :
    ReadsAs unstyle (c.paint text token) (c.colorless.paint text token) := by
  have plain := reads_unescaped unescaped
  rw [paint_colorless (c := c.colorless) rfl]
  unfold paint
  split
  next empty =>
    rw [List.isEmpty_iff.mp empty]
    exact .nil
  next =>
    split
    next =>
      have dressed := ((reads_background (Theme.unix.color .background)).append
        (reads_foreground (Theme.unix.color token))).append plain
      have whole := (dressed.append reads_usualBackground).append reads_usualForeground
      rwa [List.append_nil, List.append_nil] at whole
    next =>
      split
      next =>
        have whole := ((reads_foreground .red).append plain).append reads_usualForeground
        rwa [List.append_nil] at whole
      next => exact plain

theorem reads_printRow (c : Console) (kind : EntryKind) {row : Row}
    (unescaped : '\x1b' ∉ row.text) :
    ReadsAs unstyle (c.printRow kind row) (c.colorless.printRow kind row) := by
  refine (reads_paint c unescaped _).append ?_
  cases row.breaks with
  | false => exact .nil
  | true => exact reads_unescaped (by decide)

theorem reads_printEntry (c : Console) {entry : Entry}
    (unescaped : ∀ row ∈ entry.rows, '\x1b' ∉ row.text) :
    ReadsAs unstyle (c.printEntry entry) (c.colorless.printEntry entry) := by
  have rows : ReadsAs unstyle (entry.rows.flatMap (c.printRow entry.kind))
      (entry.rows.flatMap (c.colorless.printRow entry.kind)) :=
    .flatMap fun row listed => reads_printRow c entry.kind (unescaped row listed)
  refine ReadsAs.append ?_ rows
  show ReadsAs unstyle (if c.promptShown then _ else _) (if c.promptShown then _ else _)
  cases c.promptShown with
  | false => exact .nil
  | true =>
    refine ((ReadsAs.append ?_ reads_lineStart).append reads_clearLine)
    split
    · exact reads_lineUp
    · exact .nil

/-- Two consoles that differ in color only, and what they print. -/
structure InStep (first second : Console × Text) : Prop where
  console : first.1.colorless = second.1
  output : ReadsAs unstyle first.2 second.2

theorem inStep_showPrompt {c : Console} (prompt_plain : '\x1b' ∉ c.prompt) (line : InputLine) :
    InStep (c.showPrompt line) (c.colorless.showPrompt line) := by
  have same : (!c.colorless.interactive || c.colorless.promptShown || !line.ready) =
      (!c.interactive || c.promptShown || !line.ready) := rfl
  unfold showPrompt
  rw [same]
  split
  · exact ⟨rfl, .nil⟩
  · exact ⟨rfl, reads_paint c prompt_plain .echo⟩

theorem inStep_step {c : Console} (prompt_plain : '\x1b' ∉ c.prompt) {signal : Signal}
    (rows_plain : ∀ row ∈ signal.rows, '\x1b' ∉ row.text) :
    InStep (c.step signal) (c.colorless.step signal) := by
  cases signal with
  | theme | loaded => exact ⟨rfl, .nil⟩
  | entry entry => exact ⟨rfl, reads_printEntry c rows_plain⟩
  | input line => exact inStep_showPrompt prompt_plain line
  | prompt line =>
    have cleared : '\x1b' ∉ ({ c with promptShown := false } : Console).prompt := prompt_plain
    exact inStep_showPrompt cleared line

theorem inStep_run {c : Console} (prompt_plain : '\x1b' ∉ c.prompt) {signals : List Signal}
    (rows_plain : ∀ signal ∈ signals, ∀ row ∈ signal.rows, '\x1b' ∉ row.text) :
    InStep (c.run signals) (c.colorless.run signals) := by
  induction signals generalizing c with
  | nil => exact ⟨rfl, .nil⟩
  | cons signal signals ih =>
    obtain ⟨console, output⟩ := inStep_step prompt_plain (rows_plain signal (.head _))
    have kept : (c.step signal).1.prompt = c.prompt := by rw [step_eq]
    have later := ih (c := (c.step signal).1) (kept ▸ prompt_plain)
      fun other mem => rows_plain other (.tail _ mem)
    -- The second console is the first one without colors again, so the rest is such a run.
    rw [console] at later
    exact ⟨later.console, output.append later.output⟩

/-- **Color only adds styles.** For any signals, with the theme put on at any point or never, the
output of a console with colors is that of a console without colors once its style sequences are
taken off, as long as neither the prompt nor the rows hold an escape character of their own. -/
theorem color_only_styles (prompt : Text) (interactive : Bool) (signals : List Signal)
    (prompt_plain : '\x1b' ∉ prompt)
    (rows_plain : ∀ signal ∈ signals, ∀ row ∈ signal.rows, '\x1b' ∉ row.text) :
    unstyle (run { color := true, interactive, prompt } signals).2 =
      (run { color := false, interactive, prompt } signals).2 := by
  have in_step := inStep_run (c := { color := true, interactive, prompt }) prompt_plain rows_plain
  exact in_step.output.whole rfl

/-- Rows that look like part of a style sequence are kept, also where one follows them at once. -/
theorem half_codes_kept :
    let prompt : Text := "$ ".toList
    let ready : InputLine := { focused := true }
    let signals : List Signal := [.input ready, .entry ⟨.output, [.literal "ERROR: [31m".toList]⟩,
      .theme, .input ready, .entry ⟨.echo, [.literal "$ [0m".toList]⟩,
      .entry ⟨.output, [.literal [], ⟨"m".toList, [], false⟩]⟩]
    '\x1b' ∉ prompt ∧
    (∀ signal ∈ signals, ∀ row ∈ signal.rows, '\x1b' ∉ row.text) ∧
    unstyle (run { color := true, interactive := true, prompt } signals).2 =
      (run { color := false, interactive := true, prompt } signals).2 ∧
    (run { color := true, interactive := true, prompt } signals).2 ≠
      (run { color := false, interactive := true, prompt } signals).2 := by
  intro prompt ready signals
  have prompt_plain : '\x1b' ∉ prompt := by decide
  have rows_plain : ∀ signal ∈ signals, ∀ row ∈ signal.rows, '\x1b' ∉ row.text := by decide
  exact ⟨prompt_plain, rows_plain, color_only_styles prompt true signals prompt_plain rows_plain,
    by decide⟩

end Console
end RemoteTerminal
