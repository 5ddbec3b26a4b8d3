import RemoteTerminal.Text.Bytes
import Mathlib.Tactic.SplitIfs

/-!
# Texts and their bytes

A text comes back from its bytes, and nothing else is read as a text.

* `decodeFrom_ofChar`: one character is read back, by the four widths that one can have.
* `decode_encode`: a text is read back.
* `decodeFrom_sound`, `decode_eq_ok_iff`: bytes that are read as a text are the bytes of this text;
  so there are no overlong forms, no surrogates and no characters cut short.
-/

namespace RemoteTerminal.Bytes

theorem toNat_byte {n : Nat} (small : n < 256) : (byte n).toNat = n := by
  simp only [byte, UInt8.toNat_ofNat']
  omega

/-- No character is a surrogate. -/
theorem char_range (c : Char) : c.toNat < 0xD800 ∨ (0xDFFF < c.toNat ∧ c.toNat < 0x110000) :=
  c.valid

/-- What may follow the first byte of a wide character: its range, and what the first byte adds. -/
theorem within_byte {low high n : Nat} (small : n < 256) (least : low ≤ n) (most : n ≤ high) :
    within low high (byte n) = true := by
  rw [within, toNat_byte small]
  simp [least, most]

theorem lead_single {n : Nat} (h : n < 0x80) : lead (byte n) = .single n := by
  rw [lead, toNat_byte (by omega)]
  simp [h]

theorem lead_double {n : Nat} (least : 0x80 ≤ n) (most : n < 0x800) :
    lead (byte (0xC0 + n / 64)) = .multi 2 0x80 0xBF (n / 64) := by
  rw [lead, toNat_byte (by omega)]
  rw [if_neg (by omega), if_neg (by omega), if_pos (by omega), Nat.add_sub_cancel_left]

/-- The first byte of three, and the range that it leaves for the second. -/
theorem lead_triple {c : Char} (least : 0x800 ≤ c.toNat) (most : c.toNat < 0x10000) :
    ∃ low high, lead (byte (0xE0 + c.toNat / 4096)) = .multi 3 low high (c.toNat / 4096) ∧
      low ≤ 0x80 + c.toNat / 64 % 64 ∧ 0x80 + c.toNat / 64 % 64 ≤ high := by
  have range := char_range c
  generalize c.toNat = n at *
  rw [lead, toNat_byte (by omega)]
  by_cases lowest : n / 4096 = 0
  · refine ⟨0xA0, 0xBF, ?_, by omega, by omega⟩
    rw [lowest]
    rfl
  · by_cases surrogates : n / 4096 = 13
    · refine ⟨0x80, 0x9F, ?_, by omega, by omega⟩
      rw [surrogates]
      rfl
    · refine ⟨0x80, 0xBF, ?_, by omega, by omega⟩
      rw [if_neg (by omega), if_neg (by omega), if_neg (by omega), if_neg (by omega),
        if_neg (by omega), if_pos (by omega), Nat.add_sub_cancel_left]

/-- The first byte of four, and the range that it leaves for the second. -/
theorem lead_quadruple {c : Char} (least : 0x10000 ≤ c.toNat) :
    ∃ low high, lead (byte (0xF0 + c.toNat / 262144)) = .multi 4 low high (c.toNat / 262144) ∧
      low ≤ 0x80 + c.toNat / 4096 % 64 ∧ 0x80 + c.toNat / 4096 % 64 ≤ high := by
  have range := char_range c
  generalize c.toNat = n at *
  rw [lead, toNat_byte (by omega)]
  by_cases lowest : n / 262144 = 0
  · refine ⟨0x90, 0xBF, ?_, by omega, by omega⟩
    rw [lowest]
    rfl
  · by_cases highest : n / 262144 = 4
    · refine ⟨0x80, 0x8F, ?_, by omega, by omega⟩
      rw [highest]
      rfl
    · refine ⟨0x80, 0xBF, ?_, by omega, by omega⟩
      rw [if_neg (by omega), if_neg (by omega), if_neg (by omega), if_neg (by omega),
        if_neg (by omega), if_neg (by omega), if_neg (by omega), if_pos (by omega),
        Nat.add_sub_cancel_left]

/-- Reading a character back, whatever follows it. -/
theorem decodeFrom_ofChar (offset : Nat) (c : Char) (rest : Bytes) :
    decodeFrom offset (ofChar c ++ rest) =
      (decodeFrom (offset + (ofChar c).length) rest).map (c :: ·) := by
  have range := char_range c
  have tail (n : Nat) : within 0x80 0xBF (byte (0x80 + n % 64)) = true :=
    within_byte (by omega) (by omega) (by omega)
  have value (n : Nat) : (byte (0x80 + n % 64)).toNat - 0x80 = n % 64 := by
    rw [toNat_byte (by omega)]
    omega
  by_cases one : c.toNat < 0x80
  · have bytes : ofChar c = [byte c.toNat] := if_pos one
    rw [bytes, List.singleton_append, decodeFrom, lead_single one]
    simp
  by_cases two : c.toNat < 0x800
  · have bytes : ofChar c = [byte (0xC0 + c.toNat / 64), byte (0x80 + c.toNat % 64)] := by
      simp [ofChar, one, two]
    have code : c.toNat / 64 * 64 + c.toNat % 64 = c.toNat := by omega
    simp [bytes, decodeFrom, lead_double (by omega) two, tail, value, code]
  by_cases three : c.toNat < 0x10000
  · have bytes : ofChar c = [byte (0xE0 + c.toNat / 4096), byte (0x80 + c.toNat / 64 % 64),
        byte (0x80 + c.toNat % 64)] := by
      simp [ofChar, one, two, three]
    have code : (c.toNat / 4096 * 64 + c.toNat / 64 % 64) * 64 + c.toNat % 64 = c.toNat := by
      omega
    obtain ⟨low, high, first, least, most⟩ := lead_triple (Nat.le_of_not_lt two) three
    have second := within_byte (by omega) least most
    simp [bytes, decodeFrom, first, second, tail, value, code]
  · have bytes : ofChar c = [byte (0xF0 + c.toNat / 262144), byte (0x80 + c.toNat / 4096 % 64),
        byte (0x80 + c.toNat / 64 % 64), byte (0x80 + c.toNat % 64)] := by
      simp [ofChar, one, two, three]
    have code : ((c.toNat / 262144 * 64 + c.toNat / 4096 % 64) * 64 + c.toNat / 64 % 64) * 64 +
        c.toNat % 64 = c.toNat := by
      omega
    obtain ⟨low, high, first, least, most⟩ := lead_quadruple (Nat.le_of_not_lt three)
    have second := within_byte (by omega) least most
    simp [bytes, decodeFrom, first, second, tail, value, code]

theorem decodeFrom_encode (offset : Nat) (t : Text) : decodeFrom offset (encode t) = .ok t := by
  induction t generalizing offset with
  | nil => rfl
  | cons c t ih =>
    rw [encode, List.flatMap_cons, decodeFrom_ofChar]
    rw [show t.flatMap ofChar = encode t from rfl, ih]
    rfl

/-- A text comes back from its bytes. -/
@[simp] theorem decode_encode (t : Text) : decode (encode t) = .ok t := decodeFrom_encode 0 t

/-! ## What is no text -/

theorem lead_eq_single {b : UInt8} {n : Nat} (h : lead b = .single n) : b.toNat = n ∧ n < 0x80 := by
  unfold lead at h
  dsimp only at h
  split_ifs at h with small
  cases h
  exact ⟨rfl, small⟩

/-- The ranges that the first byte of a wide character leaves for the second are those of characters
that are written in no shorter way, and that are no surrogates. -/
theorem lead_eq_multi {b : UInt8} {width low high code : Nat}
    (h : lead b = .multi width low high code) :
    (width = 2 ∧ b.toNat = 0xC0 + code ∧ 2 ≤ code ∧ code < 32 ∧ 0x80 ≤ low ∧ high ≤ 0xBF) ∨
    (width = 3 ∧ b.toNat = 0xE0 + code ∧ code < 16 ∧ 0x80 ≤ low ∧ high ≤ 0xBF ∧
      (code = 0 → 0xA0 ≤ low) ∧ (code = 13 → high ≤ 0x9F)) ∨
    (width = 4 ∧ b.toNat = 0xF0 + code ∧ code < 5 ∧ 0x80 ≤ low ∧ high ≤ 0xBF ∧
      (code = 0 → 0x90 ≤ low) ∧ (code = 4 → high ≤ 0x8F)) := by
  unfold lead at h
  dsimp only at h
  split_ifs at h
  all_goals
    cases h
    omega

theorem range_of_within {low high : Nat} {b : UInt8} (inside : ¬ (!within low high b) = true) :
    low ≤ b.toNat ∧ b.toNat ≤ high := by
  simpa [within] using inside

theorem byte_eq {b : UInt8} {n : Nat} (value : b.toNat = n) : byte n = b := by
  rw [← value]
  exact UInt8.ofNat_toNat

theorem toNat_ofNat {n : Nat} (valid : n < 0xD800 ∨ (0xDFFF < n ∧ n < 0x110000)) :
    (Char.ofNat n).toNat = n := by
  rw [Char.ofNat, dif_pos valid]
  exact UInt32.toNat_ofNatLT

/-- Bytes that are read as a character are those of the character, in each of the four widths. -/
theorem ofChar_single {a : UInt8} {n : Nat} (first : a.toNat = n) (small : n < 0x80) :
    ofChar (Char.ofNat n) = [a] := by
  rw [ofChar, toNat_ofNat (by omega)]
  simp only [small, if_true, byte_eq first]

theorem ofChar_double {a b : UInt8} {code : Nat} (first : a.toNat = 0xC0 + code) (least : 2 ≤ code)
    (most : code < 32) (second : 0x80 ≤ b.toNat ∧ b.toNat ≤ 0xBF) :
    ofChar (Char.ofNat (code * 64 + (b.toNat - 0x80))) = [a, b] := by
  rw [ofChar, toNat_ofNat (by omega)]
  rw [if_neg (by omega), if_pos (by omega), byte_eq (b := a) (by omega),
    byte_eq (b := b) (by omega)]

theorem ofChar_triple {a b c : UInt8} {low high code : Nat} (first : a.toNat = 0xE0 + code)
    (most : code < 16) (bounds : 0x80 ≤ low ∧ high ≤ 0xBF) (lowest : code = 0 → 0xA0 ≤ low)
    (surrogates : code = 13 → high ≤ 0x9F) (second : low ≤ b.toNat ∧ b.toNat ≤ high)
    (third : 0x80 ≤ c.toNat ∧ c.toNat ≤ 0xBF) :
    ofChar (Char.ofNat ((code * 64 + (b.toNat - 0x80)) * 64 + (c.toNat - 0x80))) = [a, b, c] := by
  rw [ofChar, toNat_ofNat (by omega)]
  rw [if_neg (by omega), if_neg (by omega), if_pos (by omega), byte_eq (b := a) (by omega),
    byte_eq (b := b) (by omega), byte_eq (b := c) (by omega)]

theorem ofChar_quadruple {a b c d : UInt8} {low high code : Nat} (first : a.toNat = 0xF0 + code)
    (most : code < 5) (bounds : 0x80 ≤ low ∧ high ≤ 0xBF) (lowest : code = 0 → 0x90 ≤ low)
    (highest : code = 4 → high ≤ 0x8F) (second : low ≤ b.toNat ∧ b.toNat ≤ high)
    (third : 0x80 ≤ c.toNat ∧ c.toNat ≤ 0xBF) (fourth : 0x80 ≤ d.toNat ∧ d.toNat ≤ 0xBF) :
    ofChar (Char.ofNat (((code * 64 + (b.toNat - 0x80)) * 64 + (c.toNat - 0x80)) * 64 +
      (d.toNat - 0x80))) = [a, b, c, d] := by
  rw [ofChar, toNat_ofNat (by omega)]
  rw [if_neg (by omega), if_neg (by omega), if_neg (by omega), byte_eq (b := a) (by omega),
    byte_eq (b := b) (by omega), byte_eq (b := c) (by omega), byte_eq (b := d) (by omega)]

/-- What is read as a text are the bytes of a character and of the text after it. -/
theorem encode_of_map (bytes : Bytes) {rest : Bytes} {c : Char} {read : Except Fault Text}
    {t : Text} (wide : bytes = ofChar c) (rest_eq : ∀ t, read = .ok t → rest = encode t)
    (whole : read.map (c :: ·) = .ok t) : bytes ++ rest = encode t := by
  cases read with
  | error fault => cases whole
  | ok t =>
    cases whole
    rw [wide, rest_eq t rfl]
    rfl

/-- Nothing is read as a text but its own bytes. -/
theorem decodeFrom_sound {offset : Nat} {bytes : Bytes} {t : Text}
    (h : decodeFrom offset bytes = .ok t) : bytes = encode t := by
  fun_induction decodeFrom offset bytes generalizing t
  case case1 =>
    cases h
    rfl
  case case3 ih =>
    obtain ⟨first, small⟩ := lead_eq_single ‹_›
    exact encode_of_map [_] (ofChar_single first small).symm (fun _ => ih) h
  case case6 inside _ lead_eq ih =>
    have second := range_of_within inside
    obtain ⟨-, first, least, most, bounds⟩ | ⟨⟨⟩, -⟩ | ⟨⟨⟩, -⟩ := lead_eq_multi lead_eq
    exact encode_of_map [_, _]
      (ofChar_double first least most ⟨by omega, by omega⟩).symm (fun _ => ih) h
  case case9 inside _ _ _ inside' _ lead_eq _ ih =>
    have second := range_of_within inside
    have third := range_of_within inside'
    obtain ⟨⟨⟩, -⟩ | ⟨-, first, most, least, high, lowest, surrogates⟩ | ⟨⟨⟩, -⟩ :=
      lead_eq_multi lead_eq
    exact encode_of_map [_, _, _]
      (ofChar_triple first most ⟨least, high⟩ lowest surrogates second third).symm (fun _ => ih) h
  case case12 lead_eq _ inside _ two _ inside' _ three _ _ inside'' ih =>
    have second := range_of_within inside
    have third := range_of_within inside'
    have fourth := range_of_within inside''
    obtain ⟨wide, -⟩ | ⟨wide, -⟩ | ⟨-, first, most, least, high, lowest, highest⟩ :=
      lead_eq_multi lead_eq
    · exact absurd wide two
    · exact absurd wide three
    · exact encode_of_map [_, _, _, _]
        (ofChar_quadruple first most ⟨least, high⟩ lowest highest second third fourth).symm
        (fun _ => ih) h
  all_goals cases h

/-- **A text is read from its own bytes and from no others.** -/
theorem decode_eq_ok_iff {bytes : Bytes} {t : Text} : decode bytes = .ok t ↔ bytes = encode t := by
  constructor
  · exact decodeFrom_sound
  · rintro rfl
    exact decode_encode t

theorem encode_injective {t u : Text} (same : encode t = encode u) : t = u := by
  have read := decode_encode t
  rw [same, decode_encode] at read
  exact (Except.ok.inj read).symm

/-- The bytes of a character are the ones that the core library knows. -/
theorem ofChar_eq_utf8EncodeChar (c : Char) : ofChar c = String.utf8EncodeChar c := by
  have range := char_range c
  unfold ofChar String.utf8EncodeChar
  rw [show c.val.toNat = c.toNat from rfl]
  generalize c.toNat = n at *
  dsimp only
  have single : n < 0x80 ↔ n ≤ 127 := by omega
  have double : n < 0x800 ↔ n ≤ 2047 := by omega
  have triple : n < 0x10000 ↔ n ≤ 65535 := by omega
  simp only [single, double, triple, byte]
  split_ifs with one two three
  · rfl
  · rw [show 0xC0 + n / 64 = n / 64 % 32 + 192 by omega, Nat.add_comm 0x80]
  · rw [show 0xE0 + n / 4096 = n / 4096 % 16 + 224 by omega, Nat.add_comm 0x80, Nat.add_comm 0x80]
  · rw [show 0xF0 + n / 262144 = n / 262144 % 8 + 240 by omega, Nat.add_comm 0x80,
      Nat.add_comm 0x80, Nat.add_comm 0x80]

end RemoteTerminal.Bytes
