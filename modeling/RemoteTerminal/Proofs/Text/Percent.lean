import RemoteTerminal.Http.Form
import RemoteTerminal.Proofs.Text.Utf8

/-!
# Percent notation read back

* `decode_encode`: what is written is read back as the bytes of the text, as long as no `%` is kept.
* `not_mem_encode`: of the characters that are not to be kept, only letters, digits and `%` are left
  in what is written.
* `encode_of_kept`: where every character is kept, the text stays.
-/

namespace RemoteTerminal.Text

/-- The digits that a byte is written in. -/
theorem hexByte_eq (b : UInt8) :
    ∃ high < 16, ∃ low < 16, b = Bytes.byte (high * 16 + low) ∧
      hexByte b = [high.digitChar.toUpper, low.digitChar.toUpper] := by
  have digit : ∀ n < 16,
      (if n < 10 then Char.ofNat (48 + n) else Char.ofNat (55 + n)) = n.digitChar.toUpper := by
    decide
  have small := b.toNat_lt
  refine ⟨b.toNat / 16, by omega, b.toNat % 16, by omega, ?_, ?_⟩
  · rw [Nat.div_add_mod']
    exact (UInt8.ofNat_toNat).symm
  · rw [← digit _ (by omega), ← digit _ (by omega)]
    rfl

theorem digitValue?_hex : ∀ n < 16, digitValue? 16 n.digitChar.toUpper = some n := by decide

theorem isAlphanum_hex : ∀ n < 16, n.digitChar.toUpper.isAlphanum = true := by decide

namespace Percent

theorem decode_escapeByte (b : UInt8) (rest : Text) :
    decode (escapeByte b ++ rest) = b :: decode rest := by
  obtain ⟨high, small, low, small', value, digits⟩ := hexByte_eq b
  rw [escapeByte, digits]
  simp only [List.cons_append, List.nil_append, decode, digitValue?_hex _ small,
    digitValue?_hex _ small', value]

theorem decode_escapes (bytes : Bytes) (rest : Text) :
    decode (bytes.flatMap escapeByte ++ rest) = bytes ++ decode rest := by
  induction bytes with
  | nil => rfl
  | cons b bytes ih =>
    rw [List.flatMap_cons, List.append_assoc, decode_escapeByte, ih, List.cons_append]

theorem decode_cons_of_ne {c : Char} (plain : c ≠ '%') (rest : Text) :
    decode (c :: rest) = Bytes.ofChar c ++ decode rest := by
  rw [decode]
  simp [plain]

/-- What is written is read back, as bytes. -/
theorem decode_encode {keep : Char → Bool} (hidden : keep '%' = false) (t : Text) :
    decode (encode keep t) = Bytes.encode t := by
  induction t with
  | nil => rfl
  | cons c t ih =>
    rw [encode, List.flatMap_cons, ← encode]
    by_cases kept : keep c = true
    · have plain : c ≠ '%' := by
        rintro rfl
        rw [hidden] at kept
        cases kept
      rw [if_pos kept, List.singleton_append, decode_cons_of_ne plain, ih]
      rfl
    · rw [if_neg kept, decode_escapes, ih]
      rfl

/-- Characters of what is written: kept ones, and those of the notation. -/
theorem mem_encode {keep : Char → Bool} {t : Text} {c : Char} (mem : c ∈ encode keep t) :
    keep c = true ∨ c = '%' ∨ c.isAlphanum = true := by
  obtain ⟨d, -, written⟩ := List.mem_flatMap.mp mem
  by_cases kept : keep d = true
  · rw [if_pos kept, List.mem_singleton] at written
    exact .inl (written ▸ kept)
  · rw [if_neg kept] at written
    obtain ⟨b, -, written⟩ := List.mem_flatMap.mp written
    obtain ⟨high, small, low, small', -, digits⟩ := hexByte_eq b
    rw [escapeByte, digits] at written
    simp only [List.mem_cons, List.not_mem_nil, or_false] at written
    obtain rfl | rfl | rfl := written
    · exact .inr (.inl rfl)
    · exact .inr (.inr (isAlphanum_hex _ small))
    · exact .inr (.inr (isAlphanum_hex _ small'))

/-- What is hidden is not found in what is written. -/
theorem not_mem_encode {keep : Char → Bool} {c : Char} (hidden : keep c = false) (sign : c ≠ '%')
    (symbol : c.isAlphanum = false) (t : Text) : c ∉ encode keep t := by
  intro mem
  obtain kept | same | alphanum := mem_encode mem
  · rw [hidden] at kept
    cases kept
  · exact sign same
  · rw [symbol] at alphanum
    cases alphanum

theorem encode_of_kept {keep : Char → Bool} {t : Text} (kept : ∀ c ∈ t, keep c = true) :
    encode keep t = t := by
  induction t with
  | nil => rfl
  | cons c t ih =>
    rw [encode, List.flatMap_cons, if_pos (kept c (.head _))]
    exact congrArg (c :: ·) (ih fun d mem => kept d (.tail _ mem))

end Percent
end RemoteTerminal.Text
