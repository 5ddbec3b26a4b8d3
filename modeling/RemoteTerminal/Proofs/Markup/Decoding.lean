import RemoteTerminal.Proofs.Markup.Reading

/-!
# Decoding entities

`decode` puts characters into the places of their entities, once from left to right.

* `decode_escape`: an escaped text is decoded to the text.
* `entity_of_ampersand`: every `&` of an escaped text starts an entity.
* `escape_of_soft`: a text without spaces that do not break needs the first pass only.
* `escape_lossless`: so escaping loses nothing, and leaves nothing that markup would take for its
  own.
-/

namespace RemoteTerminal.Markup

/-- The pieces that are entities. -/
def entityMeanings : List (Text × Text) := entities.map fun (c, entity) => (entity, [c])

theorem entityMeanings_knowsEntities : KnowsEntities entityMeanings where
  unambiguous := by decide
  known := by decide
  starts := by decide

/-- The text with characters in the places of their entities, each read once from left to right. -/
def decode (t : Text) : Text := readWith entityMeanings t

@[simp] theorem decode_escape (t : Text) : decode (escape t) = t :=
  (entityMeanings_knowsEntities.reads_escape t).whole rfl

theorem escape_injective : Function.Injective escape := Function.LeftInverse.injective decode_escape

/-- An `&` of escaped text starts an entity: it stands in no other character's place, and entities
hold it at their start alone. -/
theorem entity_of_ampersand {t rest : Text} (tail : '&' :: rest <:+ escape t) :
    ∃ entry ∈ entities, entry.2 <+: '&' :: rest := by
  induction t with
  | nil => exact absurd (List.suffix_nil.mp tail) (List.cons_ne_nil _ _)
  | cons c t ih =>
    rw [escape_cons] at tail
    obtain listed | ⟨same, plain⟩ := spell_cases c
    · have entities_free : ∀ entry ∈ entities, entry.2 ≠ [] ∧ '&' ∉ entry.2.tail := by decide
      obtain ⟨some_text, free⟩ : spell c ≠ [] ∧ '&' ∉ (spell c).tail := entities_free _ listed
      obtain ⟨first, inner, spelled⟩ := List.exists_cons_of_ne_nil some_text
      rw [spelled] at free
      rw [spelled, List.cons_append, List.suffix_cons_iff] at tail
      obtain whole | later := tail
      · refine ⟨_, listed, ?_⟩
        rw [whole, ← List.cons_append, ← spelled]
        exact List.prefix_append _ _
      · exact ih (Text.suffix_of_suffix_append free later)
    · have other : '&' ∉ [c] := by
        intro mem
        rw [← List.mem_singleton.mp mem] at plain
        exact plain (by decide)
      rw [same] at tail
      exact ih (Text.suffix_of_suffix_append other tail)

/-- The first pass writes no space that does not break. -/
theorem hardSpace_not_mem_escapeSpecial {t : Text} (soft : hardSpace ∉ t) :
    hardSpace ∉ escapeSpecial t := by
  intro mem
  obtain ⟨c, hc, written⟩ := List.mem_flatMap.mp mem
  have other : hardSpace ≠ c := fun same => soft (same ▸ hc)
  revert written
  unfold entity?
  split
  case h_7 => exact fun written => other (List.mem_singleton.mp written)
  all_goals decide

theorem escape_of_soft {t : Text} (soft : hardSpace ∉ t) : escape t = escapeSpecial t :=
  Text.substitute_of_not_mem (hardSpace_not_mem_escapeSpecial soft) hardSpaceEntity

/-- **Escaping is lossless and safe.** Entities decoded once from left to right, an escaped text is
the text again, so no two texts are escaped alike. Of the characters with a meaning an escaped text
holds none but `&`, which always starts one of the seven entities. Texts are escaped part by part,
and where there is no space that does not break, the first pass alone is enough. -/
theorem escape_lossless :
    Function.Injective escape ∧
    ∀ t : Text,
      decode (escape t) = t ∧
      (∀ c ∈ ['<', '>', '"', '\'', '/', '\u00a0'], c ∉ escape t) ∧
      (∀ rest, '&' :: rest <:+ escape t →
        ∃ entity ∈ ["&lt;", "&gt;", "&amp;", "&quot;", "&#x27;", "&#x2f;", "&nbsp;"],
          entity.toList <+: '&' :: rest) ∧
      (∀ u, escape (t ++ u) = escape t ++ escape u) ∧
      (hardSpace ∉ t → escape t = escapeSpecial t) := by
  refine ⟨escape_injective, fun t => ⟨decode_escape t, ?_, ?_, escape_append t, ?_⟩⟩
  · intro c listed
    exact (inert_escape t).not_mem listed
  · intro rest tail
    obtain ⟨entry, listed, start⟩ := entity_of_ampersand tail
    have spelled : ∀ entry ∈ entities,
        ∃ entity ∈ ["&lt;", "&gt;", "&amp;", "&quot;", "&#x27;", "&#x2f;", "&nbsp;"],
          entity.toList = entry.2 := by decide
    obtain ⟨entity, known, same⟩ := spelled entry listed
    exact ⟨entity, known, same ▸ start⟩
  · exact escape_of_soft

end RemoteTerminal.Markup
