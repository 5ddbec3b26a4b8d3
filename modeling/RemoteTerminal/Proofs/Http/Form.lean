import RemoteTerminal.Proofs.Text.Percent
import RemoteTerminal.Proofs.Text.Pieces

/-!
# Forms read back

A pair is read as bytes, and `texts` are the pairs whose bytes are text.

* `decodePart_encodePart`: each half of a pair comes back.
* `decode_encode`, `decode_extend`: so do all pairs of a form, and those that are added to a query
  come after its own.
* `texts_bytesOf`: they come back as the texts that they were.
-/

namespace RemoteTerminal.Http.Form

/-! ## One half of a pair -/

/-- The characters that need no percent sign: a space has a sign of its own. -/
def isWritten (c : Char) : Bool := isKept c || c = ' '

theorem plus_not_mem (t : Text) : '+' ∉ Text.Percent.encode isWritten t :=
  Text.Percent.not_mem_encode (by decide) (by decide) (by decide) t

/-- One half of a pair comes back. -/
@[simp] theorem decodePart_encodePart (t : Text) : decodePart (encodePart t) = Bytes.encode t := by
  have spaces : ((encodePart t).map fun c => if c = '+' then ' ' else c) =
      Text.Percent.encode isWritten t := by
    rw [encodePart, List.map_map]
    conv_rhs => rw [← List.map_id (Text.Percent.encode isWritten t)]
    refine List.map_congr_left fun c mem => ?_
    have other : c ≠ '+' := fun same => plus_not_mem t (same ▸ mem)
    by_cases space : c = ' '
    · subst space
      rfl
    · simp [space, other]
  rw [decodePart, spaces]
  exact Text.Percent.decode_encode (by decide) t

/-- A sign that is hidden is not found in a half, unless it stands for a space. -/
theorem not_mem_encodePart {c : Char} (hidden : isWritten c = false) (sign : c ≠ '%')
    (symbol : c.isAlphanum = false) (plus : c ≠ '+') (t : Text) : c ∉ encodePart t := by
  intro mem
  obtain ⟨d, written, same⟩ := List.mem_map.mp mem
  by_cases space : d = ' '
  · rw [if_pos space] at same
    exact plus same.symm
  · rw [if_neg space] at same
    exact Text.Percent.not_mem_encode hidden sign symbol t (same ▸ written)

theorem encodePart_of_kept {t : Text} (kept : ∀ c ∈ t, isKept c = true) : encodePart t = t := by
  have written : ∀ c ∈ t, (isKept c || decide (c = ' ')) = true := by
    intro c mem
    rw [kept c mem, Bool.true_or]
  rw [encodePart, Text.Percent.encode_of_kept written]
  conv_rhs => rw [← List.map_id t]
  refine List.map_congr_left fun c mem => ?_
  have other : c ≠ ' ' := by
    rintro rfl
    exact absurd (kept ' ' mem) (by decide)
  simp [other]

/-! ## Pairs -/

/-- A pair in bytes. -/
def bytesOf (pair : Text × Text) : Bytes × Bytes := (Bytes.encode pair.1, Bytes.encode pair.2)

theorem decodePair_encodePair (pair : Text × Text) :
    decodePair (encodePair pair) = bytesOf pair := by
  have free : '=' ∉ encodePart pair.1 :=
    not_mem_encodePart (by decide) (by decide) (by decide) (by decide) pair.1
  simp only [decodePair, encodePair, Text.cut?_append_cons free, decodePart_encodePart, bytesOf]

theorem encodePair_ne_nil (pair : Text × Text) : encodePair pair ≠ [] := by
  simp [encodePair]

theorem ampersand_not_mem (pair : Text × Text) : '&' ∉ encodePair pair := by
  have free (t : Text) : '&' ∉ encodePart t :=
    not_mem_encodePart (by decide) (by decide) (by decide) (by decide) t
  simp [encodePair, free]

theorem decode_append_cons (a b : Text) : decode (a ++ '&' :: b) = decode a ++ decode b := by
  simp only [decode, List.splitOn_append_cons_self, List.filter_append, List.map_append]

/-- All pairs of a form come back, in their order. -/
theorem decode_encode (pairs : List (Text × Text)) : decode (encode pairs) = pairs.map bytesOf := by
  by_cases none : pairs = []
  · subst none
    rfl
  · have pieces : (encode pairs).splitOn '&' = pairs.map encodePair := by
      apply List.splitOn_intercalate
      · intro piece mem
        obtain ⟨pair, -, rfl⟩ := List.mem_map.mp mem
        exact ampersand_not_mem pair
      · simpa using none
    have shown : (pairs.map encodePair).filter (fun piece => !piece.isEmpty) =
        pairs.map encodePair := by
      apply List.filter_eq_self.mpr
      intro piece mem
      obtain ⟨pair, -, rfl⟩ := List.mem_map.mp mem
      simp [encodePair_ne_nil]
    rw [decode, pieces, shown, List.map_map]
    exact List.map_congr_left fun pair _ => decodePair_encodePair pair

/-- Pairs that are added to a query come after its own. -/
theorem decode_extend (query : Text) (pairs : List (Text × Text)) :
    decode (extend query pairs) = decode query ++ pairs.map bytesOf := by
  unfold extend
  split
  next empty =>
    rw [List.isEmpty_iff.mp empty, decode_encode]
    rfl
  next =>
    split
    next empty =>
      rw [List.isEmpty_iff.mp empty]
      simp
    next => rw [decode_append_cons, decode_encode]

/-! ## Pairs of texts -/

/-- Pairs of bytes as texts, if they all are. -/
def texts (pairs : List (Bytes × Bytes)) : Except Bytes.Fault (List (Text × Text)) :=
  pairs.mapM fun pair => do pure (← Bytes.decode pair.1, ← Bytes.decode pair.2)

/-- Pairs come back as the texts that they were. -/
@[simp] theorem texts_bytesOf (pairs : List (Text × Text)) :
    texts (pairs.map bytesOf) = .ok pairs := by
  induction pairs with
  | nil => rfl
  | cons pair pairs ih =>
    have rest : (pairs.map bytesOf).mapM (fun pair => do
        pure (← Bytes.decode pair.1, ← Bytes.decode pair.2)) = Except.ok pairs := ih
    rw [texts, List.map_cons, List.mapM_cons, rest]
    simp only [bytesOf, Bytes.decode_encode]
    rfl

end RemoteTerminal.Http.Form
