import RemoteTerminal.Console
import RemoteTerminal.Proofs.Transcript.Lines
import Mathlib.Logic.Function.Basic

/-!
# A screen, as a console writes on it

A screen has rows without end and a cursor. Characters overwrite what stands at the cursor; a line
feed leads to the start of the next row; of the control sequences, those count that move the cursor
up, move it to the start of its row, and clear its row.

* `rows_of_spares`: a row that the cursor stays below of is never changed.
* `print_plain`: text without control characters is added to the row of the cursor.
* `lays_rows`: the rows of an entry are laid down one below the other.
-/

namespace RemoteTerminal

namespace Text

/-- Whether a character is a control character. -/
def isControl (c : Char) : Bool := c.toNat < 0x20 || (0x7F ≤ c.toNat && c.toNat < 0xA0)

/-- A text that is shown as it is. -/
def Plain (t : Text) : Prop := ∀ c ∈ t, isControl c = false

instance (t : Text) : Decidable t.Plain := List.decidableBAll (isControl · = false) t

theorem Plain.not_mem {t : Text} (h : Plain t) {c : Char} (control : isControl c = true) : c ∉ t :=
  fun hc => by simp [h c hc] at control

theorem Plain.append {t u : Text} (ht : Plain t) (hu : Plain u) : Plain (t ++ u) := by
  intro c hc
  exact (List.mem_append.mp hc).elim (ht c) (hu c)

end Text

/-- A screen. `sequence` holds the control sequence that has begun. -/
structure Screen where
  rows : Nat → Text := fun _ => []
  row : Nat := 0
  column : Nat := 0
  sequence : Text := []

namespace Screen

/-- Overwrites the row of the cursor. -/
def setRow (s : Screen) (line : Text) : Screen :=
  { s with rows := Function.update s.rows s.row line }

/-- Writes a character at the cursor, past the end of the row after blanks. -/
def put (s : Screen) (c : Char) : Screen :=
  let line := s.rows s.row
  { s.setRow (line.take s.column ++ List.replicate (s.column - line.length) ' ' ++
      c :: line.drop (s.column + 1)) with column := s.column + 1 }

/-- Obeys a control sequence. -/
def obey (s : Screen) (sequence : Text) : Screen :=
  if sequence = Console.control "1A" then { s with row := s.row - 1 }
  else if sequence = Console.control "1G" then { s with column := 0 }
  else if sequence = Console.control "2K" then s.setRow []
  else s

/-- Takes in a character. A letter ends a control sequence. -/
def meet (s : Screen) (c : Char) : Screen :=
  if s.sequence ≠ [] then
    if c.isAlpha then { s.obey (s.sequence ++ [c]) with sequence := [] }
    else { s with sequence := s.sequence ++ [c] }
  else if c = '\x1b' then { s with sequence := [c] }
  else if c = '\n' then { s with row := s.row + 1, column := 0 }
  else if c = '\r' then { s with column := 0 }
  else s.put c

def print (s : Screen) (t : Text) : Screen := t.foldl meet s

/-- The rows that line feeds end while a text is printed. -/
def breaks : Screen → Text → List Nat
  | _, [] => []
  | s, c :: t => (if c = '\n' then [s.row] else []) ++ breaks (s.meet c) t

/-- The cursor stays below a row while a text is printed. -/
def Spares (p : Nat) : Screen → Text → Prop
  | s, [] => p < s.row
  | s, c :: t => p < s.row ∧ Spares p (s.meet c) t

variable (s : Screen) {p : Nat}

@[simp] theorem print_nil : s.print [] = s := rfl

@[simp] theorem print_cons (c : Char) (t : Text) : s.print (c :: t) = (s.meet c).print t := rfl

@[simp] theorem print_append (t u : Text) : s.print (t ++ u) = (s.print t).print u :=
  List.foldl_append ..

@[simp] theorem breaks_append (t u : Text) :
    s.breaks (t ++ u) = s.breaks t ++ (s.print t).breaks u := by
  induction t generalizing s with
  | nil => rfl
  | cons c t ih => simp [breaks, ih]

theorem breaks_unbroken {t : Text} (unbroken : '\n' ∉ t) : s.breaks t = [] := by
  induction t generalizing s with
  | nil => rfl
  | cons c t ih =>
    obtain ⟨other, unbroken⟩ := not_or.mp (mt List.mem_cons.mpr unbroken)
    rw [breaks, if_neg (Ne.symm other), ih _ unbroken, List.append_nil]

theorem Spares.append {s : Screen} {t u : Text} (ht : s.Spares p t) (hu : (s.print t).Spares p u) :
    s.Spares p (t ++ u) := by
  induction t generalizing s with
  | nil => exact hu
  | cons c t ih => exact ⟨ht.1, ih ht.2 hu⟩

theorem rows_obey {s : Screen} (other : p ≠ s.row) (sequence : Text) :
    (s.obey sequence).rows p = s.rows p := by
  unfold obey
  split
  · rfl
  · split
    · rfl
    · split
      · exact Function.update_of_ne other ..
      · rfl

/-- A character changes no row but the one that the cursor is on. -/
theorem rows_meet {s : Screen} (other : p ≠ s.row) (c : Char) : (s.meet c).rows p = s.rows p := by
  unfold meet
  split
  · split
    · exact rows_obey other _
    · rfl
  · split
    · rfl
    · split
      · rfl
      · split
        · rfl
        · exact Function.update_of_ne other ..

/-- A row that is spared is as it was at any moment. -/
theorem rows_of_spares {s : Screen} {t part : Text} (h : s.Spares p t) (start : part <+: t) :
    (s.print part).rows p = s.rows p := by
  induction t generalizing s part with
  | nil => rw [List.prefix_nil.mp start, print_nil]
  | cons c t ih =>
    cases part with
    | nil => rfl
    | cons c' part =>
      obtain ⟨rfl, rest⟩ := List.cons_prefix_cons.mp start
      rw [print_cons, ih h.2 rest, rows_meet (Nat.ne_of_lt h.1)]

/-! ## Control sequences -/

section
variable {s}

theorem print_lineUp (quiet : s.sequence = []) :
    s.print Console.lineUp = { s with row := s.row - 1 } := by
  obtain ⟨rows, row, column, sequence⟩ := s
  obtain rfl : sequence = [] := quiet
  rfl

theorem print_clear (quiet : s.sequence = []) :
    s.print (Console.lineStart ++ Console.clearLine) = { s.setRow [] with column := 0 } := by
  obtain ⟨rows, row, column, sequence⟩ := s
  obtain rfl : sequence = [] := quiet
  rfl

theorem spares_lineUp (quiet : s.sequence = []) (above : p + 1 < s.row) :
    s.Spares p Console.lineUp := by
  obtain ⟨rows, row, column, sequence⟩ := s
  obtain rfl : sequence = [] := quiet
  exact ⟨Nat.lt_of_succ_lt above, Nat.lt_of_succ_lt above, Nat.lt_of_succ_lt above,
    Nat.lt_of_succ_lt above, Nat.lt_sub_of_add_lt above⟩

theorem spares_clear (quiet : s.sequence = []) (above : p < s.row) :
    s.Spares p (Console.lineStart ++ Console.clearLine) := by
  obtain ⟨rows, row, column, sequence⟩ := s
  obtain rfl : sequence = [] := quiet
  exact ⟨above, above, above, above, above, above, above, above, above⟩

/-! ## Text -/

theorem meet_quiet (quiet : s.sequence = []) {c : Char} (h : c ≠ '\x1b') :
    (s.meet c).sequence = [] ∧ s.row ≤ (s.meet c).row := by
  rw [meet, if_neg (not_not.mpr quiet), if_neg h]
  split
  · exact ⟨quiet, Nat.le_succ _⟩
  · split
    · exact ⟨quiet, Nat.le_refl _⟩
    · exact ⟨quiet, Nat.le_refl _⟩

/-- Without an escape character nothing leads the cursor up. -/
theorem spares_unescaped (quiet : s.sequence = []) (above : p < s.row) {t : Text}
    (unescaped : '\x1b' ∉ t) : s.Spares p t := by
  induction t generalizing s with
  | nil => exact above
  | cons c t ih =>
    obtain ⟨other, unescaped⟩ := not_or.mp (mt List.mem_cons.mpr unescaped)
    obtain ⟨quiet, down⟩ := meet_quiet quiet (Ne.symm other)
    exact ⟨above, ih quiet (Nat.lt_of_lt_of_le above down) unescaped⟩

theorem meet_of_plain (quiet : s.sequence = []) {c : Char} (plain : Text.isControl c = false) :
    s.meet c = s.put c := by
  have other {control : Char} (h : Text.isControl control = true) : c ≠ control := by
    rintro rfl
    simp [h] at plain
  rw [meet, if_neg (not_not.mpr quiet), if_neg (other (by decide)), if_neg (other (by decide)),
    if_neg (other (by decide))]

theorem put_at_end (at_end : s.column = (s.rows s.row).length) (c : Char) :
    s.put c = { s.setRow (s.rows s.row ++ [c]) with column := s.column + 1 } := by
  simp [put, at_end, List.drop_eq_nil_of_le]

/-- Text is added to the row of the cursor. -/
theorem print_plain (quiet : s.sequence = []) (at_end : s.column = (s.rows s.row).length) {t : Text}
    (plain : t.Plain) :
    s.print t = { s.setRow (s.rows s.row ++ t) with column := s.column + t.length } := by
  induction t generalizing s with
  | nil => simp [setRow]
  | cons c t ih =>
    rw [print_cons, meet_of_plain quiet (plain c (.head _)), put_at_end at_end, ih]
    · simp [setRow, Nat.add_comm, Nat.add_left_comm]
    · exact quiet
    · simp [setRow, at_end]
    · exact fun c hc => plain c (.tail _ hc)

/-- A line that is typed or printed to its end. -/
theorem print_ended (quiet : s.sequence = []) (at_end : s.column = (s.rows s.row).length) {t : Text}
    (plain : t.Plain) :
    s.print (t ++ ['\n']) =
      { s.setRow (s.rows s.row ++ t) with row := s.row + 1, column := 0 } := by
  rw [print_append, print_plain quiet at_end plain, print_cons, meet]
  simp [setRow, quiet]

theorem spares_ended (quiet : s.sequence = []) (above : p < s.row) {t : Text} (plain : t.Plain) :
    s.Spares p (t ++ ['\n']) := by
  refine spares_unescaped quiet above fun escape => ?_
  obtain escape | escape := List.mem_append.mp escape
  · exact plain.not_mem (by decide) escape
  · simp at escape

end

/-! ## Rows -/

/-- A screen with nothing from its cursor on. -/
structure Fresh (s : Screen) : Prop where
  quiet : s.sequence = []
  column_eq : s.column = 0
  blank : ∀ r, s.row ≤ r → s.rows r = []

/-- A text that, from a fresh row on, comes to the given lines, one a row. -/
structure Lays (s : Screen) (t : Text) (lines : List Text) : Prop where
  fresh : (s.print t).Fresh
  row_eq : (s.print t).row = s.row + lines.length
  rows_eq : (List.range' s.row lines.length).map (s.print t).rows = lines
  breaks_eq : s.breaks t = List.range' s.row lines.length
  spares : ∀ p < s.row, s.Spares p t

variable {s}

/-- Clearing the row of the cursor makes it fresh. -/
theorem fresh_clear (quiet : s.sequence = []) (blank : ∀ r, s.row < r → s.rows r = []) :
    (s.print (Console.lineStart ++ Console.clearLine)).Fresh ∧
      (s.print (Console.lineStart ++ Console.clearLine)).row = s.row := by
  rw [print_clear quiet]
  refine ⟨⟨quiet, rfl, fun r below => ?_⟩, rfl⟩
  obtain rfl | lower := Nat.eq_or_lt_of_le below
  · exact Function.update_self ..
  · exact (Function.update_of_ne (Nat.ne_of_gt lower) ..).trans (blank r lower)

theorem Lays.nil (fresh : s.Fresh) : s.Lays [] [] := ⟨fresh, rfl, rfl, rfl, fun _ above => above⟩

theorem Lays.append {t u : Text} {first rest : List Text} (ht : s.Lays t first)
    (hu : (s.print t).Lays u rest) : s.Lays (t ++ u) (first ++ rest) where
  fresh := by
    rw [print_append]
    exact hu.fresh
  row_eq := by rw [print_append, hu.row_eq, ht.row_eq, List.length_append, Nat.add_assoc]
  rows_eq := by
    have kept : (List.range' s.row first.length).map ((s.print t).print u).rows = first := by
      refine (List.map_congr_left fun p hp => ?_).trans ht.rows_eq
      have above : p < (s.print t).row := by
        rw [ht.row_eq]
        exact (List.mem_range'_1.mp hp).2
      exact rows_of_spares (hu.spares p above) (List.prefix_refl u)
    have laid := hu.rows_eq
    rw [ht.row_eq] at laid
    rw [print_append, List.length_append, ← List.range'_append_1, List.map_append, kept, laid]
  breaks_eq := by
    rw [breaks_append, ht.breaks_eq, hu.breaks_eq, ht.row_eq, List.length_append,
      List.range'_append_1]
  spares p above := (ht.spares p above).append (hu.spares p (by rw [ht.row_eq]; omega))

/-- A line on a fresh row. -/
theorem lays_line (fresh : s.Fresh) {t : Text} (plain : t.Plain) : s.Lays (t ++ ['\n']) [t] := by
  have blank := fresh.blank s.row (Nat.le_refl _)
  have at_end : s.column = (s.rows s.row).length := by rw [blank, fresh.column_eq]; rfl
  have printed := print_plain fresh.quiet at_end plain
  have ended := print_ended fresh.quiet at_end plain
  rw [blank, List.nil_append] at printed ended
  refine ⟨?_, by rw [ended]; rfl, ?_, ?_, fun p above => spares_ended fresh.quiet above plain⟩
  · rw [ended]
    refine ⟨fresh.quiet, rfl, fun r below => ?_⟩
    have below : s.row < r := below
    exact (Function.update_of_ne (Nat.ne_of_gt below) ..).trans (fresh.blank r (Nat.le_of_lt below))
  · rw [ended]
    simp [setRow]
  · rw [breaks_append, breaks_unbroken _ (plain.not_mem (by decide)), printed]
    rfl

end Screen

/-! ## Rows of entries -/

/-- A row that is shown as it is, and that holds nothing if no break follows it. -/
structure Row.Tidy (row : Row) : Prop where
  plain : row.text.Plain
  closed : row.breaks = false → row.text = []

/-- A text in no color is printed as it is. -/
theorem Console.paint_colorless {c : Console} (colorless : c.color = false) (t : Text)
    (token : Token) : c.paint t token = t := by
  unfold paint
  cases t <;> simp [colorless]

namespace Screen

variable {s : Screen} {c : Console}

theorem lays_row (colorless : c.color = false) (fresh : s.Fresh) (kind : EntryKind) {row : Row}
    (tidy : row.Tidy) :
    s.Lays (c.printRow kind row) (if row.breaks then [row.text] else []) := by
  rw [Console.printRow, Console.paint_colorless colorless]
  cases breaks : row.breaks with
  | true => exact lays_line fresh tidy.plain
  | false =>
    rw [tidy.closed breaks]
    exact Lays.nil fresh

theorem lays_rows (colorless : c.color = false) (fresh : s.Fresh) (kind : EntryKind)
    {rows : List Row} (tidy : ∀ row ∈ rows, row.Tidy) :
    s.Lays (rows.flatMap (c.printRow kind)) ((rows.filter (·.breaks)).map (·.text)) := by
  induction rows generalizing s with
  | nil => exact Lays.nil fresh
  | cons row rows ih =>
    have first := lays_row colorless fresh kind (tidy row (.head _))
    have both := first.append (ih first.fresh fun row hrow => tidy row (.tail _ hrow))
    cases breaks : row.breaks <;> simpa [breaks] using both

end Screen
end RemoteTerminal
