import RemoteTerminal.Panel
import RemoteTerminal.Proofs.Markup.Escape
import RemoteTerminal.Proofs.Text.Pieces
import Mathlib.Data.List.Basic

/-!
# The rows of output

Escaping leaves line feeds where they are (`splitOn_escape`), so that a text and its markup split into
rows at the same places: each row is made of its own piece of the text (`ofOutput_eq`). Only the
last row can be without a break, and it is the row of an empty piece then (`ofOutput_concat`,
`closed_ofOutput`). Tabs, line feeds and the characters of tags are gone from the rows
(`not_mem_ofOutput`, `inert_ofOutput`), and nothing else is lost (`rows_of_pieces`).
-/

namespace RemoteTerminal

namespace Markup

theorem splitOn_escape (t : Text) : (escape t).splitOn '\n' = (t.splitOn '\n').map escape := by
  have keeps : spell '\n' = ['\n'] := spell_of_plain (by decide)
  have others (c : Char) (other : c ≠ '\n') : '\n' ∉ spell c := not_mem_spell other (by decide)
  rw [escape_eq_flatMap, Text.splitOn_flatMap keeps others]
  exact List.map_congr_left fun piece _ => (escape_eq_flatMap piece).symm

end Markup

namespace Row

section
variable (tabWidth : Nat) (space : Text)

@[simp] theorem widenTabs_append (a b : Text) :
    widenTabs tabWidth space (a ++ b) = widenTabs tabWidth space a ++ widenTabs tabWidth space b :=
  List.flatMap_append

/-- Where a space is one character, widening puts that many of it into the place of each tab. -/
theorem widenTabs_singleton (c : Char) (t : Text) :
    widenTabs tabWidth [c] t = t.substitute '\t' (List.replicate tabWidth c) := by
  have flat : (List.replicate tabWidth [c]).flatten = List.replicate tabWidth c := by simp
  rw [widenTabs, flat]
  rfl

theorem widenTabs_of_not_mem {t : Text} (none_in : '\t' ∉ t) : widenTabs tabWidth space t = t :=
  Text.substitute_of_not_mem none_in _

/-- Neither tabs nor what their spaces and the text lack are left. -/
theorem not_mem_widenTabs {space t : Text} {c : Char} (absent : c ∉ space)
    (others : c ∈ t → c = '\t') : c ∉ widenTabs tabWidth space t := by
  intro mem
  obtain ⟨d, hd, from_d⟩ := List.mem_flatMap.mp mem
  by_cases tab : d = '\t'
  · rw [if_pos tab] at from_d
    obtain ⟨copy, copied, hc⟩ := List.mem_flatten.mp from_d
    exact absent (List.eq_of_mem_replicate copied ▸ hc)
  · rw [if_neg tab, List.mem_singleton] at from_d
    exact tab (from_d ▸ others (from_d ▸ hd))

theorem inert_widenTabs {space t : Text} (hs : Markup.Inert space) (ht : Markup.Inert t) :
    Markup.Inert (widenTabs tabWidth space t) := by
  intro c hc delimiter
  exact not_mem_widenTabs tabWidth (hs.not_mem delimiter)
    (fun mem => absurd mem (ht.not_mem delimiter)) hc

end

/-- The row of a piece of output that holds no line feed. -/
def ofPiece (tabWidth : Nat) (breaks : Bool) (piece : Text) : Row where
  text := widenTabs tabWidth [' '] piece
  markup := widenTabs tabWidth Markup.hardSpaceEntity (Markup.escape piece)
  breaks := breaks

section
variable (tabWidth : Nat) (prompted : Bool) (output : Text)

/-- Each row is made of its own piece. -/
theorem ofOutput_eq :
    ofOutput tabWidth prompted output =
      (output.splitOn '\n').zipIdx.map fun (piece, i) => ofPiece tabWidth
        (!(i == (output.splitOn '\n').length - 1 && piece.isEmpty && prompted)) piece := by
  rw [ofOutput, Markup.splitOn_escape]
  generalize output.splitOn '\n' = pieces
  have paired : pieces.zip (pieces.map Markup.escape) =
      pieces.map fun piece => (piece, Markup.escape piece) :=
    List.map_prod_left_eq_zip.symm
  dsimp only
  rw [paired, List.zipIdx_map, List.map_map]
  rfl

/-- Breaks follow all rows but the last, and the last too unless it is empty above a prompt. -/
theorem ofOutput_concat {pieces : List Text} {last : Text}
    (split : output.splitOn '\n' = pieces ++ [last]) :
    ofOutput tabWidth prompted output =
      pieces.map (ofPiece tabWidth true) ++
        [ofPiece tabWidth (!(last.isEmpty && prompted)) last] := by
  rw [ofOutput_eq, split, List.zipIdx_append, List.map_append]
  congr 1
  · have broken : ∀ p ∈ pieces.zipIdx,
        ofPiece tabWidth (!(p.2 == (pieces ++ [last]).length - 1 && p.1.isEmpty && prompted)) p.1 =
          ofPiece tabWidth true p.1 := by
      rintro ⟨piece, i⟩ mem
      have bound : i < 0 + pieces.length := (List.mem_zipIdx mem).2.1
      have not_last : (i == (pieces ++ [last]).length - 1) = false := by
        rw [List.length_append, beq_eq_false_iff_ne]
        simp only [List.length_singleton]
        omega
      rw [not_last]
      rfl
    calc pieces.zipIdx.map _
      _ = pieces.zipIdx.map fun p => ofPiece tabWidth true p.1 := List.map_congr_left broken
      _ = (pieces.zipIdx.map Prod.fst).map (ofPiece tabWidth true) := by
        rw [List.map_map]
        rfl
      _ = pieces.map (ofPiece tabWidth true) := by rw [List.zipIdx_map_fst]
  · simp

variable {tabWidth prompted output}

/-- The rows of output hold nothing where no break follows them. -/
theorem closed_ofOutput {row : Row} (h : row ∈ ofOutput tabWidth prompted output)
    (unbroken : row.breaks = false) : row.text = [] := by
  rw [ofOutput_eq] at h
  obtain ⟨⟨piece, i⟩, -, rfl⟩ := List.mem_map.mp h
  have empty : piece = [] := by
    by_contra some
    simp [ofPiece, some] at unbroken
  rw [empty]
  rfl

theorem mem_ofOutput {row : Row} (h : row ∈ ofOutput tabWidth prompted output) :
    ∃ piece ∈ output.splitOn '\n', ∃ breaks, row = ofPiece tabWidth breaks piece := by
  rw [ofOutput_eq] at h
  obtain ⟨⟨piece, i⟩, listed, rfl⟩ := List.mem_map.mp h
  exact ⟨piece, List.fst_mem_of_mem_zipIdx listed, _, rfl⟩

theorem inert_ofOutput {row : Row} (h : row ∈ ofOutput tabWidth prompted output) :
    Markup.Inert row.markup := by
  obtain ⟨piece, -, breaks, rfl⟩ := mem_ofOutput h
  exact inert_widenTabs tabWidth Markup.inert_hardSpaceEntity (Markup.inert_escape piece)

/-- Tabs are widened, and line feeds stand between pieces. -/
theorem not_mem_ofOutput {row : Row} (h : row ∈ ofOutput tabWidth prompted output) {c : Char}
    (gone : c ∈ ['\t', '\n']) : c ∉ row.text ∧ c ∉ row.markup := by
  obtain ⟨piece, listed, breaks, rfl⟩ := mem_ofOutput h
  obtain ⟨soft, hard, plain⟩ : c ∉ [' '] ∧ c ∉ Markup.hardSpaceEntity ∧
      ∀ entry ∈ Markup.entities, c ∉ entry.2 := by
    obtain rfl | rfl := List.mem_pair.mp gone <;> decide
  have only_tab : c ≠ '\t' → c ∉ piece := by
    intro other
    have feed : c = '\n' := by simpa [other] using gone
    exact feed ▸ Text.not_mem_of_mem_splitOn listed
  constructor
  · refine not_mem_widenTabs tabWidth soft fun mem => ?_
    by_contra other
    exact only_tab other mem
  · refine not_mem_widenTabs tabWidth hard fun mem => ?_
    by_contra other
    exact Markup.not_mem_escape plain (only_tab other) mem

end

/-! ## The rows and the pieces -/

section
variable (tabWidth : Nat) (prompted : Bool) (output : Text)

/-- What stands in the row of a piece. -/
theorem getElem?_ofOutput {i : Nat} {piece : Text} (listed : (output.splitOn '\n')[i]? = some piece) :
    (ofOutput tabWidth prompted output)[i]? = some (ofPiece tabWidth
      (!(i == (output.splitOn '\n').length - 1 && piece.isEmpty && prompted)) piece) := by
  rw [ofOutput_eq, List.getElem?_map, List.getElem?_zipIdx, listed]
  simp

/-- What a row shows whether it breaks or not is known from its piece. -/
theorem map_ofOutput {α : Type} {f : Row → α} {g : Text → α}
    (same : ∀ breaks piece, f (ofPiece tabWidth breaks piece) = g piece) :
    (ofOutput tabWidth prompted output).map f = (output.splitOn '\n').map g := by
  rw [ofOutput_eq, List.map_map]
  calc (output.splitOn '\n').zipIdx.map _
    _ = (output.splitOn '\n').zipIdx.map (g ∘ Prod.fst) := List.map_congr_left fun _ _ => same _ _
    _ = (output.splitOn '\n').map g := by rw [← List.map_map, List.zipIdx_map_fst]

theorem texts_ofOutput :
    (ofOutput tabWidth prompted output).map (·.text) =
      (output.splitOn '\n').map (widenTabs tabWidth [' ']) :=
  map_ofOutput tabWidth prompted output fun _ _ => rfl

theorem markups_ofOutput :
    (ofOutput tabWidth prompted output).map (·.markup) = (output.splitOn '\n').map
      fun piece => widenTabs tabWidth Markup.hardSpaceEntity (Markup.escape piece) :=
  map_ofOutput tabWidth prompted output fun _ _ => rfl

/-- Without tabs there is nothing to widen in any row. -/
theorem ofOutput_of_untabbed (untabbed : '\t' ∉ output) :
    (ofOutput tabWidth prompted output).map (·.text) = output.splitOn '\n' ∧
    (ofOutput tabWidth prompted output).map (·.markup) =
      (output.splitOn '\n').map Markup.escape := by
  have kept : ∀ piece ∈ output.splitOn '\n', '\t' ∉ piece := fun piece listed mem =>
    untabbed (Text.mem_of_mem_splitOn listed mem).1
  constructor
  · rw [texts_ofOutput]
    refine (List.map_congr_left fun piece listed => ?_).trans (List.map_id _)
    exact widenTabs_of_not_mem _ _ (kept piece listed)
  · rw [markups_ofOutput]
    refine List.map_congr_left fun piece listed => ?_
    exact widenTabs_of_not_mem _ _ (Markup.not_mem_escape (by decide) (kept piece listed))

/-- The rows joined again are the text with its tabs widened. -/
theorem intercalate_ofOutput :
    List.intercalate ['\n'] ((ofOutput tabWidth prompted output).map (·.text)) =
      output.substitute '\t' (List.replicate tabWidth ' ') := by
  have spread : widenTabs tabWidth [' '] = (·.substitute '\t' (List.replicate tabWidth ' ')) :=
    funext (widenTabs_singleton tabWidth ' ')
  have free : '\n' ∉ List.replicate tabWidth ' ' := by
    intro mem
    exact absurd (List.eq_of_mem_replicate mem) (by decide)
  rw [texts_ofOutput, spread, ← Text.splitOn_substitute (by decide) free, List.intercalate_splitOn]

end

/-- **Rows are made piece by piece.** A text has one row for each piece between its line feeds. The
text of the row is the piece with its tabs widened, and the markup of the row is the escaped piece
with as many entities for each tab; a text without tabs keeps its pieces as they are. Only the last
row can be without a break, and it is if its piece is empty above a prompt. So no tab, no line feed
and no character that starts or ends a tag or a value is left in a row, and the rows joined again
are the text with its tabs widened. -/
theorem rows_of_pieces (tabWidth : Nat) (prompted : Bool) (output : Text) :
    let pieces := output.splitOn '\n'
    let rows := ofOutput tabWidth prompted output
    (List.intercalate ['\n'] pieces = output ∧ ∀ piece ∈ pieces, '\n' ∉ piece) ∧
    rows.length = pieces.length ∧
    (∀ i piece, pieces[i]? = some piece → ∃ row, rows[i]? = some row ∧
      row.text = piece.substitute '\t' (List.replicate tabWidth ' ') ∧
      row.markup = (Markup.escape piece).substitute '\t'
        (List.replicate tabWidth "&nbsp;".toList).flatten ∧
      (row.breaks = false ↔ i + 1 = pieces.length ∧ piece = [] ∧ prompted = true)) ∧
    ('\t' ∉ output →
      rows.map (·.text) = pieces ∧ rows.map (·.markup) = pieces.map Markup.escape) ∧
    (∀ row ∈ rows, (∀ c ∈ ['\t', '\n'], c ∉ row.text ∧ c ∉ row.markup) ∧
      ∀ c ∈ ['<', '>', '"', '\''], c ∉ row.markup) ∧
    List.intercalate ['\n'] (rows.map (·.text)) =
      output.substitute '\t' (List.replicate tabWidth ' ') := by
  intro pieces rows
  have same_length := congrArg List.length (texts_ofOutput tabWidth prompted output)
  rw [List.length_map, List.length_map] at same_length
  refine ⟨⟨List.intercalate_splitOn '\n', fun _ => Text.not_mem_of_mem_splitOn⟩, same_length, ?_,
    ofOutput_of_untabbed tabWidth prompted output, ?_, intercalate_ofOutput tabWidth prompted output⟩
  · intro i piece listed
    refine ⟨_, getElem?_ofOutput tabWidth prompted output listed,
      widenTabs_singleton tabWidth ' ' piece, rfl, ?_⟩
    have bound : i < pieces.length := (List.getElem?_eq_some_iff.mp listed).1
    have last : i = pieces.length - 1 ↔ i + 1 = pieces.length := by omega
    simp [ofPiece, and_assoc, pieces, last]
  · intro row listed
    refine ⟨fun c gone => not_mem_ofOutput listed gone, fun c tag => ?_⟩
    have known : ['<', '>', '"', '\''] ⊆ Markup.delimiters := by decide
    exact (inert_ofOutput listed).not_mem (known tag)

end Row
end RemoteTerminal
