import RemoteTerminal.Proofs.Markup.Reading
import RemoteTerminal.Proofs.Transcript.Lines

/-!
# Two projections of one transcript

The markup of a transcript and its plain lines are made apart from each other: one widens tabs with
spaces that do not break, the other with spaces, and one runs unbroken rows together by itself.
`Shows` says what a piece of markup shows once it is read and such spaces are softened; rows, entries
and transcripts of outputs show their plain lines (`markup_shows_plainLines`).
-/

namespace RemoteTerminal

namespace Markup

/-- A text with spaces that break in the place of those that do not. -/
def soften (t : Text) : Text := t.map fun c => if c = hardSpace then ' ' else c

@[simp] theorem soften_append (a b : Text) : soften (a ++ b) = soften a ++ soften b :=
  List.map_append

/-- Markup that shows a text, whatever follows it. -/
def Shows (markup shown : Text) : Prop :=
  ∀ rest, soften (read (markup ++ rest)) = soften shown ++ soften (read rest)

namespace Shows

theorem iff_readsAs {markup shown : Text} :
    Shows markup shown ↔ Text.ReadsAs (fun t => soften (read t)) markup (soften shown) := Iff.rfl

theorem nil : Shows [] [] := fun _ => rfl

theorem append {a b x y : Text} (ha : Shows a x) (hb : Shows b y) : Shows (a ++ b) (x ++ y) := by
  rw [iff_readsAs, soften_append]
  exact (iff_readsAs.mp ha).append (iff_readsAs.mp hb)

theorem flatMap {α : Type} {items : List α} {f g : α → Text}
    (h : ∀ item ∈ items, Shows (f item) (g item)) : Shows (items.flatMap f) (items.flatMap g) := by
  rw [iff_readsAs, soften, List.map_flatMap]
  exact .flatMap fun item mem => iff_readsAs.mp (h item mem)

theorem of_piece {piece meaning : Text} (known : (piece, meaning) ∈ meanings) :
    Shows piece meaning := by
  intro rest
  rw [read_piece known, soften_append]

/-- A tag around rows shows nothing itself. -/
theorem wrap {inner shown : Text} (h : Shows inner shown) :
    Shows ("<span>".toList ++ inner ++ "</span>".toList) shown := by
  have opened : Shows "<span>".toList [] := of_piece (by decide)
  have closed : Shows "</span>".toList [] := of_piece (by decide)
  have whole := (opened.append h).append closed
  rwa [List.nil_append, List.append_nil] at whole

end Shows

/-- The spaces that stand for a tab show as many spaces. -/
theorem shows_tab (tabWidth : Nat) :
    Shows (List.replicate tabWidth hardSpaceEntity).flatten (List.replicate tabWidth ' ') := by
  induction tabWidth with
  | zero => exact .nil
  | succ n ih =>
    have space : Shows hardSpaceEntity [' '] := by
      intro rest
      rw [read_piece (show (hardSpaceEntity, [hardSpace]) ∈ meanings by decide)]
      rfl
    rw [List.replicate_succ, List.flatten_cons, List.replicate_succ]
    exact space.append ih

theorem shows_widened (tabWidth : Nat) (t : Text) :
    Shows (Row.widenTabs tabWidth hardSpaceEntity (escape t)) (Row.widenTabs tabWidth [' '] t) := by
  induction t with
  | nil => exact .nil
  | cons c t ih =>
    show Shows _ (Row.widenTabs tabWidth [' '] ([c] ++ t))
    rw [escape_cons, Row.widenTabs_append, Row.widenTabs_append]
    refine Shows.append ?_ ih
    by_cases tab : c = '\t'
    · rw [tab, spell_of_plain (by decide), Row.widenTabs_singleton tabWidth ' ']
      have spaces := shows_tab tabWidth
      simpa [Row.widenTabs, Text.substitute] using spaces
    · have untabbed : '\t' ∉ spell c := not_mem_spell tab (by decide)
      have kept : '\t' ∉ [c] := fun mem => tab (List.mem_singleton.mp mem).symm
      rw [Row.widenTabs_of_not_mem tabWidth _ untabbed, Row.widenTabs_of_not_mem tabWidth _ kept]
      intro rest
      rw [read_spell]
      rfl

end Markup

/-- A row as text, with a line feed for its break. -/
def Row.plain (row : Row) : Text := row.text ++ if row.breaks then ['\n'] else []

theorem Row.shows_ofPiece (tabWidth : Nat) (breaks : Bool) (piece : Text) :
    Markup.Shows (ofPiece tabWidth breaks piece).toMarkup (ofPiece tabWidth breaks piece).plain := by
  have ending : Markup.Shows (if breaks then "<br />".toList else [])
      (if breaks then ['\n'] else []) := by
    cases breaks with
    | false => exact .nil
    | true =>
      have known : ("<br />".toList, ['\n']) ∈ Markup.meanings := by decide
      exact .of_piece known
  have whole := ((Markup.shows_widened tabWidth piece).append ending).wrap
  rwa [← List.append_assoc "<span>".toList] at whole

/-- An output shows its rows. -/
theorem Entry.shows_ofOutput (settings : Settings) (output : Text) :
    Markup.Shows (ofOutput settings output).toMarkup
      ((ofOutput settings output).rows.flatMap Row.plain) := by
  have rows_show : ∀ row ∈ (ofOutput settings output).rows, Markup.Shows row.toMarkup row.plain := by
    intro row hrow
    rw [ofOutput, Row.ofOutput_eq] at hrow
    obtain ⟨⟨piece, i⟩, -, rfl⟩ := List.mem_map.mp hrow
    exact Row.shows_ofPiece _ _ _
  exact (Markup.Shows.flatMap rows_show).wrap

/-- Rows that hold nothing where no break follows them are lines. -/
theorem Row.plain_of_closed {rows : List Row}
    (closed : ∀ row ∈ rows, row.breaks = false → row.text = []) :
    rows.flatMap plain = (Transcript.linesFrom [] rows).flatMap (· ++ ['\n']) := by
  rw [Transcript.linesFrom_closed closed]
  induction rows with
  | nil => rfl
  | cons row rows ih =>
    have later := ih fun other mem => closed other (.tail _ mem)
    rw [List.flatMap_cons, later]
    cases breaks : row.breaks with
    | true => simp [plain, breaks]
    | false => simp [plain, breaks, closed row (.head _) breaks]

namespace Panel

/-- **Markup and plain lines show the same.** A reader of the markup of a transcript to which only
outputs were added, under whatever settings, sees its plain lines, each ended by a line feed, once
spaces that do not break are taken for spaces. -/
theorem markup_shows_plainLines (outputs : List (Settings × Text)) :
    let t := (putOut {} outputs).transcript
    Markup.soften (Markup.read t.toMarkup) =
      Markup.soften (t.plainLines.flatMap (· ++ ['\n'])) := by
  intro t
  have only_outputs : t.Outputs := outputs_putOut outputs
  have closed : ∀ row ∈ t.flatMap Entry.rows, row.breaks = false → row.text = [] := by
    intro row hrow
    obtain ⟨entry, mem, hrow⟩ := List.mem_flatMap.mp hrow
    obtain ⟨settings, text, rfl⟩ := only_outputs entry mem
    exact Row.closed_ofOutput hrow
  have shows : Markup.Shows t.toMarkup (t.flatMap fun entry => entry.rows.flatMap Row.plain) := by
    refine .flatMap fun entry mem => ?_
    obtain ⟨settings, text, rfl⟩ := only_outputs entry mem
    exact Entry.shows_ofOutput settings text
  have seen := shows []
  rw [List.append_nil, ← List.flatMap_assoc, Row.plain_of_closed closed] at seen
  exact seen.trans (List.append_nil _)

end Panel
end RemoteTerminal
