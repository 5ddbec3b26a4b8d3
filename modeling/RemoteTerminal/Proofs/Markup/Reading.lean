import RemoteTerminal.Proofs.Markup.Escape
import RemoteTerminal.Proofs.Text.Pieces

/-!
# Reading markup

`readWith` reads a text once from left to right: where one of the given pieces starts, its meaning
stands for it, and every other character stands for itself. As long as no piece starts another, each
is read as what it means, whatever follows it (`readWith_piece`). Pieces that know the entities read
an escaped text as the text (`KnowsEntities.reads_escape`); `read` knows the tags of rows besides.
-/

namespace RemoteTerminal.Markup

/-- Reads a text of which the first `skipped` characters belong to a piece that was read before. -/
def readFrom (pieces : List (Text × Text)) : Nat → Text → Text
  | _, [] => []
  | skipped + 1, _ :: cs => readFrom pieces skipped cs
  | 0, c :: cs =>
    match pieces.find? fun (piece, _) => piece.isPrefixOf (c :: cs) with
    | some (piece, meaning) => meaning ++ readFrom pieces (piece.length - 1) cs
    | none => c :: readFrom pieces 0 cs

/-- Puts the meanings in the places of the pieces. -/
def readWith (pieces : List (Text × Text)) (t : Text) : Text := readFrom pieces 0 t

/-- No piece is empty, and none starts another. -/
def Unambiguous (pieces : List (Text × Text)) : Prop :=
  ∀ p ∈ pieces, p.1 ≠ [] ∧ ∀ q ∈ pieces, p.1 <+: q.1 → p = q

instance (pieces : List (Text × Text)) : Decidable (Unambiguous pieces) :=
  inferInstanceAs (Decidable (∀ p ∈ pieces, _ ∧ ∀ q ∈ pieces, _))

section
variable {pieces : List (Text × Text)}

theorem readFrom_skipped (piece rest : Text) :
    readFrom pieces piece.length (piece ++ rest) = readWith pieces rest := by
  induction piece with
  | nil => rfl
  | cons c piece ih => exact ih

/-- Two pieces that the same text starts with are the same. -/
theorem Unambiguous.eq_of_prefix (h : Unambiguous pieces) {p q : Text × Text} (hp : p ∈ pieces)
    (hq : q ∈ pieces) {t : Text} (p_starts : p.1 <+: t) (q_starts : q.1 <+: t) : p = q := by
  rcases List.prefix_or_prefix_of_prefix p_starts q_starts with first | first
  · exact (h p hp).2 q hq first
  · exact ((h q hq).2 p hp first).symm

theorem readWith_piece (h : Unambiguous pieces) {piece meaning : Text}
    (known : (piece, meaning) ∈ pieces) (rest : Text) :
    readWith pieces (piece ++ rest) = meaning ++ readWith pieces rest := by
  have starts : piece <+: piece ++ rest := List.prefix_append _ _
  have found : (pieces.find? fun (p, _) => p.isPrefixOf (piece ++ rest)) =
      some (piece, meaning) := by
    cases hf : pieces.find? fun (p, _) => p.isPrefixOf (piece ++ rest) with
    | none =>
      have missed := List.find?_eq_none.mp hf _ known
      simp at missed
    | some other =>
      have other_starts := List.find?_some hf
      simp only [List.isPrefixOf_iff_prefix] at other_starts
      rw [h.eq_of_prefix (List.mem_of_find?_eq_some hf) known other_starts starts]
  cases piece with
  | nil => exact absurd rfl (h _ known).1
  | cons c cs =>
    show readFrom pieces 0 (c :: (cs ++ rest)) = _
    rw [readFrom, show c :: (cs ++ rest) = c :: cs ++ rest from rfl, found]
    show meaning ++ readFrom pieces cs.length (cs ++ rest) = _
    rw [readFrom_skipped]

/-- A character that no piece starts with is read as itself. -/
theorem readWith_cons (h : Unambiguous pieces) {c : Char}
    (plain : ∀ p ∈ pieces, p.1.head? ≠ some c) (rest : Text) :
    readWith pieces (c :: rest) = c :: readWith pieces rest := by
  have missed : (pieces.find? fun (p, _) => p.isPrefixOf (c :: rest)) = none := by
    rw [List.find?_eq_none]
    intro p hp starts
    obtain ⟨tail, whole⟩ := List.isPrefixOf_iff_prefix.mp starts
    cases first : p.1 with
    | nil => exact (h p hp).1 first
    | cons d ds =>
      rw [first, List.cons_append, List.cons.injEq] at whole
      exact plain p hp (by rw [first, List.head?_cons, whole.1])
  show readFrom pieces 0 (c :: rest) = _
  rw [readFrom, missed]
  rfl

/-! ## Entities -/

/-- Pieces with every entity among them, none of which starts with a character that is written as
itself. -/
structure KnowsEntities (pieces : List (Text × Text)) : Prop where
  unambiguous : Unambiguous pieces
  known : ∀ entry ∈ entities, (entry.2, [entry.1]) ∈ pieces
  starts : pieces.filterMap (·.1.head?) ⊆ entities.map Prod.fst

theorem KnowsEntities.reads_spell (h : KnowsEntities pieces) (c : Char) :
    Text.ReadsAs (readWith pieces) (spell c) [c] := by
  intro rest
  obtain listed | ⟨same, plain⟩ := spell_cases c
  · exact readWith_piece h.unambiguous (h.known _ listed) rest
  · rw [same]
    refine readWith_cons h.unambiguous (fun p hp first => ?_) rest
    exact plain (h.starts (List.mem_filterMap.mpr ⟨p, hp, first⟩))

/-- An escaped text is read as the text, whatever follows it. -/
theorem KnowsEntities.reads_escape (h : KnowsEntities pieces) (t : Text) :
    Text.ReadsAs (readWith pieces) (escape t) t := by
  have spelled : Text.ReadsAs (readWith pieces) (t.flatMap spell) (t.flatMap fun c => [c]) :=
    .flatMap fun c _ => h.reads_spell c
  rwa [← escape_eq_flatMap, List.flatMap_singleton'] at spelled

end

/-! ## Rows and entities -/

/-- The tags around and at the end of a row, and the entities. -/
def meanings : List (Text × Text) :=
  [("<span>".toList, []), ("</span>".toList, []), ("<br />".toList, ['\n'])] ++
    entities.map fun (c, entity) => (entity, [c])

theorem meanings_knowsEntities : KnowsEntities meanings where
  unambiguous := by decide
  known := by decide
  starts := by decide

/-- The text that markup of rows shows: without the tags around rows, with a line feed where a row
breaks, and with what the entities stand for. -/
def read (t : Text) : Text := readWith meanings t

theorem read_piece {piece meaning : Text} (known : (piece, meaning) ∈ meanings) (rest : Text) :
    read (piece ++ rest) = meaning ++ read rest :=
  readWith_piece meanings_knowsEntities.unambiguous known rest

theorem read_spell (c : Char) (rest : Text) : read (spell c ++ rest) = c :: read rest :=
  meanings_knowsEntities.reads_spell c rest

end RemoteTerminal.Markup
