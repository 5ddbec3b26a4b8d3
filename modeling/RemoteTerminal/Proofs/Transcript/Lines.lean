import RemoteTerminal.Proofs.Session
import RemoteTerminal.Proofs.Transcript.Rows

/-!
# The lines of a transcript

A transcript is `Closed` if its rows hold nothing where no break follows them. Every transcript that
is made of welcomes, commands and outputs is (`closed_additions`), and then each row with a break is
a line of its own (`plainLines_eq_lines`). So whatever is added adds its own lines below and leaves
those above as they are (`plainLines_grow`).
-/

namespace RemoteTerminal

/-- The texts of the rows that a break follows. -/
def Entry.lines (entry : Entry) : List Text := (entry.rows.filter (·.breaks)).map (·.text)

/-- The texts of the rows that a break follows, in the order of the entries. -/
def Transcript.lines (t : Transcript) : List Text := t.flatMap Entry.lines

@[simp] theorem Transcript.lines_append (t u : Transcript) :
    Transcript.lines (t ++ u) = t.lines ++ u.lines := List.flatMap_append ..

theorem Transcript.lines_concat (t : Transcript) (entry : Entry) :
    Transcript.lines (t ++ [entry]) = t.lines ++ entry.lines := by
  simp [Transcript.lines]

/-- A transcript whose rows hold nothing where no break follows them. -/
def Transcript.Closed (t : Transcript) : Prop :=
  ∀ entry ∈ t, ∀ row ∈ entry.rows, row.breaks = false → row.text = []

/-- A transcript of outputs, each under settings of its own. -/
def Transcript.Outputs (t : Transcript) : Prop :=
  ∀ entry ∈ t, ∃ settings output, entry = .ofOutput settings output

namespace Transcript

theorem linesFrom_closed {rows : List Row}
    (closed : ∀ row ∈ rows, row.breaks = false → row.text = []) :
    linesFrom [] rows = (rows.filter (·.breaks)).map (·.text) := by
  induction rows with
  | nil => rfl
  | cons row rows ih =>
    have later := ih fun row hrow => closed row (.tail _ hrow)
    rw [linesFrom, List.nil_append]
    cases breaks : row.breaks with
    | true => simp [breaks, later]
    | false =>
      have empty := closed row (.head _) breaks
      simp [breaks, empty, later]

theorem plainLines_eq_lines {t : Transcript} (closed : t.Closed) : t.plainLines = t.lines := by
  have rows_closed : ∀ row ∈ t.flatMap Entry.rows, row.breaks = false → row.text = [] := by
    intro row hrow
    obtain ⟨entry, hentry, hrow⟩ := List.mem_flatMap.mp hrow
    exact closed entry hentry row hrow
  rw [plainLines, linesFrom_closed rows_closed, List.filter_flatMap, List.map_flatMap]
  rfl

theorem Closed.concat {t : Transcript} {entry : Entry} (ht : t.Closed)
    (hentry : ∀ row ∈ entry.rows, row.breaks = false → row.text = []) :
    Transcript.Closed (t ++ [entry]) := by
  intro other hother
  rcases List.mem_append.mp hother with earlier | last
  · exact ht other earlier
  · rw [List.mem_singleton.mp last]
    exact hentry

end Transcript

/-! ## The lines of an entry -/

namespace Entry

/-- The lines of an output: its pieces with their tabs widened, less an empty last one above a
prompt. -/
theorem lines_ofOutput (settings : Settings) (output : Text) :
    (ofOutput settings output).lines =
      (if settings.promptText.isSome ∧ (output.splitOn '\n').getLast? = some []
        then (output.splitOn '\n').dropLast else output.splitOn '\n').map
        (Text.substitute · '\t' (List.replicate settings.tabWidth ' ')) := by
  have widened : Row.widenTabs settings.tabWidth [' '] =
      (Text.substitute · '\t' (List.replicate settings.tabWidth ' ')) :=
    funext (Row.widenTabs_singleton settings.tabWidth ' ')
  have pieces_eq := (List.dropLast_concat_getLast (List.splitOn_ne_nil '\n' output)).symm
  generalize (output.splitOn '\n').dropLast = pieces at pieces_eq
  generalize (output.splitOn '\n').getLast _ = last at pieces_eq
  have broken : (pieces.map (Row.ofPiece settings.tabWidth true)).filter (·.breaks) =
      pieces.map (Row.ofPiece settings.tabWidth true) := by
    rw [List.filter_eq_self]
    intro row hrow
    obtain ⟨piece, -, rfl⟩ := List.mem_map.mp hrow
    rfl
  have texts : (pieces.map (Row.ofPiece settings.tabWidth true)).map (·.text) =
      pieces.map (Row.widenTabs settings.tabWidth [' ']) := by
    rw [List.map_map]
    rfl
  rw [← widened, pieces_eq, lines, ofOutput, Row.ofOutput_concat _ _ _ pieces_eq,
    List.filter_append, broken, List.map_append, texts, List.getLast?_concat]
  by_cases dropped : settings.promptText.isSome = true ∧ last = []
  · obtain ⟨prompted, rfl⟩ := dropped
    simp [prompted, Row.ofPiece]
  · have breaks : (!(last.isEmpty && settings.promptText.isSome)) = true := by
      simp only [not_and] at dropped
      cases prompted : settings.promptText.isSome <;> simp [dropped, prompted]
    simp [breaks, dropped, Row.ofPiece]

end Entry

/-! ## Additions -/

namespace Panel

/-- What can be added to a transcript, under settings of its own. -/
inductive Addition where
  | welcome (message : Text)
  | command (settings : Settings) (raw : Text)
  | output (settings : Settings) (text : Text)

def add (p : Panel) : Addition → Panel
  | .welcome message => p.greet message
  | .command settings raw => p.echo settings raw
  | .output settings text => p.append settings text

/-- The entry that an addition becomes. -/
def Addition.entry : Addition → Entry
  | .welcome message => .ofWelcome message
  | .command settings raw => .ofCommand settings raw.trim
  | .output settings text => .ofOutput settings text

theorem transcript_add (p : Panel) (a : Addition) :
    (p.add a).transcript = p.transcript ++ [a.entry] := by
  cases a <;> rfl

theorem Addition.closed (a : Addition) :
    ∀ row ∈ a.entry.rows, row.breaks = false → row.text = [] := by
  intro row hrow
  cases a with
  | welcome | command =>
    rw [List.mem_singleton.mp hrow]
    exact nofun
  | output settings text => exact Row.closed_ofOutput hrow

/-- The panel after outputs, each under settings of its own. -/
def putOut (p : Panel) (outputs : List (Settings × Text)) : Panel :=
  outputs.foldl (fun p (settings, text) => p.append settings text) p

theorem transcript_putOut (p : Panel) (outputs : List (Settings × Text)) :
    (p.putOut outputs).transcript =
      p.transcript ++ outputs.map fun (settings, text) => Entry.ofOutput settings text := by
  induction outputs generalizing p with
  | nil => exact (List.append_nil _).symm
  | cons output outputs ih =>
    refine (ih (p.append output.1 output.2)).trans ?_
    exact List.append_assoc ..

/-- Only outputs were put out. -/
theorem outputs_putOut (outputs : List (Settings × Text)) :
    (putOut {} outputs).transcript.Outputs := by
  intro entry mem
  rw [transcript_putOut, List.nil_append] at mem
  obtain ⟨⟨settings, output⟩, -, rfl⟩ := List.mem_map.mp mem
  exact ⟨settings, output, rfl⟩

theorem closed_additions (additions : List Addition) :
    (additions.foldl add {}).transcript.Closed := by
  have kept (p : Panel) (closed : p.transcript.Closed) :
      (additions.foldl add p).transcript.Closed := by
    induction additions generalizing p with
    | nil => exact closed
    | cons a additions ih =>
      refine ih (p.add a) ?_
      rw [transcript_add]
      exact closed.concat a.closed
  exact kept {} nofun

/-- An addition adds the lines of its entry. -/
theorem plainLines_add {p : Panel} (closed : p.transcript.Closed) (a : Addition) :
    (p.add a).transcript.plainLines = p.transcript.plainLines ++ a.entry.lines := by
  rw [transcript_add, Transcript.plainLines_eq_lines (closed.concat a.closed),
    Transcript.plainLines_eq_lines closed, Transcript.lines_concat]

/-- **Plain lines only grow.** Whatever was added to a panel, under whatever settings, its rows hold
nothing where no break follows them, and the next addition leaves the lines above as they are: a
welcome adds its text, a command its text after the prompt, and an output its pieces with their tabs
widened, all but an empty last piece above a prompt. So an empty output adds nothing above a prompt,
and tabs count as a line even where they have no width. -/
theorem plainLines_grow (additions : List Addition) :
    let p := additions.foldl add {}
    (∀ entry ∈ p.transcript, ∀ row ∈ entry.rows, row.breaks = false → row.text = []) ∧
    (∀ message, (p.greet message).transcript.plainLines = p.transcript.plainLines ++ [message]) ∧
    (∀ settings raw, (p.echo settings raw).transcript.plainLines =
      p.transcript.plainLines ++ [settings.promptText.getD [] ++ raw.trim]) ∧
    (∀ settings text, (p.append settings text).transcript.plainLines =
      p.transcript.plainLines ++
        (if settings.promptText.isSome ∧ (text.splitOn '\n').getLast? = some []
          then (text.splitOn '\n').dropLast else text.splitOn '\n').map
          (Text.substitute · '\t' (List.replicate settings.tabWidth ' '))) ∧
    (∀ settings, settings.promptText.isSome = true →
      (p.append settings []).transcript.plainLines = p.transcript.plainLines) ∧
    (∀ settings n, settings.tabWidth = 0 →
      (p.append settings (List.replicate (n + 1) '\t')).transcript.plainLines =
        p.transcript.plainLines ++ [[]]) := by
  intro p
  have closed : p.transcript.Closed := closed_additions additions
  have output_lines (settings : Settings) (text : Text) :=
    (plainLines_add closed (.output settings text)).trans
      (congrArg (p.transcript.plainLines ++ ·) (Entry.lines_ofOutput settings text))
  refine ⟨closed, fun message => plainLines_add closed (.welcome message),
    fun settings raw => plainLines_add closed (.command settings raw), output_lines, ?_, ?_⟩
  · intro settings prompted
    refine (output_lines settings []).trans ?_
    simp [prompted]
  · intro settings n flat
    refine (output_lines settings (List.replicate (n + 1) '\t')).trans ?_
    have one_piece : List.splitOn '\n' (List.replicate (n + 1) '\t') =
        [List.replicate (n + 1) '\t'] := by
      refine List.splitOn_eq_singleton fun mem => ?_
      exact absurd (List.eq_of_mem_replicate mem) (by decide)
    have flattened : Text.substitute (List.replicate (n + 1) '\t') '\t' [] = [] := by
      rw [Text.substitute, List.flatMap_eq_nil_iff]
      intro c hc
      rw [if_pos (List.eq_of_mem_replicate hc)]
    rw [one_piece, flat, List.getLast?_singleton, if_neg (by simp), List.map_singleton,
      List.replicate_zero, flattened]

end Panel
end RemoteTerminal
