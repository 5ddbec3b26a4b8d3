import RemoteTerminal.Markup

/-!
# Escaped text

`entities` is the table of what each entity stands for. Escaping spells a text character by
character (`escape_eq_flatMap`): a character of the table by its entity, every other as itself
(`spell_cases`). So nothing that markup gives a meaning to is left of a text, the `&` of entities
apart (`inert_escape`).
-/

namespace RemoteTerminal.Markup

/-- The characters that are not written as themselves, with their entities. -/
def entities : List (Char × Text) :=
  [('<', "&lt;".toList), ('>', "&gt;".toList), ('&', "&amp;".toList), ('"', "&quot;".toList),
   ('\'', "&#x27;".toList), ('/', "&#x2f;".toList), ('\u00a0', "&nbsp;".toList)]

/-- How escaped text writes a character. -/
def spell (c : Char) : Text := escape [c]

theorem spell_cases (c : Char) :
    (c, spell c) ∈ entities ∨ spell c = [c] ∧ c ∉ entities.map Prod.fst := by
  by_cases listed : c ∈ entities.map Prod.fst
  · left
    have spelled : ∀ entry ∈ entities, spell entry.1 = entry.2 := by decide
    obtain ⟨entry, mem, rfl⟩ := List.mem_map.mp listed
    rw [spelled entry mem]
    exact mem
  · right
    refine ⟨?_, listed⟩
    simp only [entities, List.map_cons, List.map_nil, List.mem_cons, List.not_mem_nil, or_false,
      not_or] at listed
    obtain ⟨lt, gt, amp, quot, apos, slash, hard⟩ := listed
    have plain : entity? c = none := by
      unfold entity?
      split <;> first | contradiction | rfl
    have soft : c ≠ hardSpace := hard
    simp [spell, escape, escapeSpecial, Text.substitute, plain, soft]

theorem spell_of_plain {c : Char} (plain : c ∉ entities.map Prod.fst) : spell c = [c] := by
  obtain listed | ⟨same, -⟩ := spell_cases c
  · exact absurd (List.mem_map_of_mem listed) plain
  · exact same

/-- A character that no entity holds is only written for itself. -/
theorem not_mem_spell {c d : Char} (other : c ≠ d) (absent : ∀ entry ∈ entities, d ∉ entry.2) :
    d ∉ spell c := by
  obtain listed | ⟨same, -⟩ := spell_cases c
  · exact absent _ listed
  · rw [same, List.mem_singleton]
    exact other.symm

/-! ## Escaping, character by character -/

@[simp] theorem escape_nil : escape [] = [] := rfl

@[simp] theorem escape_append (a b : Text) : escape (a ++ b) = escape a ++ escape b := by
  simp [escape, escapeSpecial, Text.substitute]

theorem escape_cons (c : Char) (t : Text) : escape (c :: t) = spell c ++ escape t :=
  escape_append [c] t

theorem escape_eq_flatMap (t : Text) : escape t = t.flatMap spell := by
  induction t with
  | nil => rfl
  | cons c t ih => rw [escape_cons, List.flatMap_cons, ih]

/-! ## What is left of a text -/

/-- A character that no entity holds is not in an escaped text, unless it is in the text. -/
theorem not_mem_escape {c : Char} {t : Text} (absent : ∀ entry ∈ entities, c ∉ entry.2)
    (free : c ∉ t) : c ∉ escape t := by
  intro mem
  rw [escape_eq_flatMap] at mem
  obtain ⟨d, hd, spelled⟩ := List.mem_flatMap.mp mem
  have other : d ≠ c := fun same => free (same ▸ hd)
  exact not_mem_spell other absent spelled

/-- Characters with a meaning that no escaped text holds. -/
def delimiters : List Char := ['<', '>', '"', '\'', '/', '\u00a0']

/-- A text that can neither start nor end a tag or an attribute value. -/
def Inert (t : Text) : Prop := ∀ c ∈ t, c ∉ delimiters

-- Other instances go through every character there is, not only through those of the text.
instance (t : Text) : Decidable (Inert t) := List.decidableBAll _ t

theorem Inert.append {a b : Text} (ha : Inert a) (hb : Inert b) : Inert (a ++ b) := by
  intro c hc
  rcases List.mem_append.mp hc with hc | hc
  · exact ha c hc
  · exact hb c hc

theorem Inert.not_mem {t : Text} (h : Inert t) {c : Char} (hc : c ∈ delimiters) : c ∉ t :=
  fun mem => h c mem hc

theorem inert_hardSpaceEntity : Inert hardSpaceEntity := by decide

theorem inert_spell (c : Char) : Inert (spell c) := by
  obtain listed | ⟨same, plain⟩ := spell_cases c
  · have entities_inert : ∀ entry ∈ entities, Inert entry.2 := by decide
    exact entities_inert _ listed
  · intro d hd delimiter
    rw [same, List.mem_singleton] at hd
    have known : delimiters ⊆ entities.map Prod.fst := by decide
    exact plain (hd ▸ known delimiter)

theorem inert_escape (t : Text) : Inert (escape t) := by
  intro c hc
  rw [escape_eq_flatMap] at hc
  obtain ⟨d, -, spelled⟩ := List.mem_flatMap.mp hc
  exact inert_spell d c spelled

end RemoteTerminal.Markup
