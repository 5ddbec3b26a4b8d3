import RemoteTerminal.Text.Digits

/-!
# Which texts are counts

A text `Spells` a number if it is one or more decimal digits, after at most one `+`, that have this
value. `count?_eq_some_iff` says that exactly the texts that spell a number below the bound are
read as counts, and `Spells.unique` that no text spells two.
-/

namespace RemoteTerminal.Text

/-- One or more decimal digits of value `n`, after at most one `+`. -/
def Spells (t : Text) (n : Nat) : Prop :=
  ∃ digits : Text, (t = digits ∨ t = '+' :: digits) ∧
    digits ≠ [] ∧ (∀ c ∈ digits, c.isDigit = true) ∧ Nat.ofDigitChars 10 digits 0 = n

theorem decimal_injective {m n : Nat} (same : decimal m = decimal n) : m = n := by
  have value := congrArg (Nat.ofDigitChars 10 · 0) same
  simpa only [decimal, Nat.ofDigitChars_ten_toDigits] using value

theorem digitValue?_decimal (c : Char) :
    digitValue? 10 c = if c.isDigit then some (c.toNat - '0'.toNat) else none := by
  unfold digitValue?
  by_cases digit : c.isDigit = true
  · have last : c.toNat ≤ 57 := by
      simp only [Char.isDigit, Bool.and_eq_true, decide_eq_true_eq] at digit
      exact digit.2
    have small : c.toNat - '0'.toNat < 10 := by
      show c.toNat - 48 < 10
      omega
    rw [if_pos digit, if_pos digit, Option.filter_some, if_pos (decide_eq_true small)]
  · simp only [digit]
    grind

theorem mapM_digitValue? (t : Text) :
    t.mapM (digitValue? 10) =
      if t.all Char.isDigit then some (t.map fun c => c.toNat - '0'.toNat) else none := by
  induction t with
  | nil => rfl
  | cons c t ih =>
    rw [List.mapM_cons, ih, digitValue?_decimal, List.all_cons]
    cases c.isDigit with
    | false => rfl
    | true => cases t.all Char.isDigit <;> rfl

theorem ofDigits_map (t : Text) (n : Nat) :
    (t.map fun c => c.toNat - '0'.toNat).foldl (fun n d => n * 10 + d) n =
      Nat.ofDigitChars 10 t n := by
  induction t generalizing n with
  | nil => rfl
  | cons c t ih =>
    rw [List.map_cons, List.foldl_cons, ih, Nat.ofDigitChars_cons, Nat.mul_comm]

theorem digits?_eq_some_iff {t : Text} {n : Nat} :
    digits? 10 t = some n ↔
      t ≠ [] ∧ (∀ c ∈ t, c.isDigit = true) ∧ Nat.ofDigitChars 10 t 0 = n := by
  unfold digits?
  rw [mapM_digitValue?, ← List.all_eq_true]
  cases t with
  | nil => simp
  | cons c t =>
    rw [if_neg (by simp)]
    cases all : (c :: t).all Char.isDigit with
    | true =>
      rw [if_pos rfl, Option.map_some, Option.some_inj, ofDigits, ofDigits_map]
      constructor
      · intro value
        exact ⟨by simp, rfl, value⟩
      · rintro ⟨-, -, value⟩
        exact value
    | false => simp

/-- A number comes back from its digits. -/
theorem digits?_decimal (n : Nat) : digits? 10 (decimal n) = some n :=
  digits?_eq_some_iff.mpr ⟨Nat.toDigits_ne_nil,
    fun _ mem => Nat.isDigit_of_mem_toDigits (by decide) (by decide) mem,
    Nat.ofDigitChars_ten_toDigits⟩

/-- What a count is read from. -/
theorem count?_eq_some_iff {bound n : Nat} {t : Text} :
    count? bound t = some n ↔ t.Spells n ∧ n < bound := by
  have plus : ('+' : Char).isDigit = false := rfl
  unfold count?
  rw [Option.filter_eq_some_iff, decide_eq_true_eq]
  refine and_congr_left fun _ => ?_
  split
  next rest =>
    rw [digits?_eq_some_iff]
    constructor
    · intro h
      exact ⟨rest, .inr rfl, h⟩
    · rintro ⟨digits, rfl | same, nonempty, all, value⟩
      · have := all '+' (.head _)
        rw [plus] at this
        cases this
      · cases same
        exact ⟨nonempty, all, value⟩
  next unsigned =>
    rw [digits?_eq_some_iff]
    constructor
    · intro h
      exact ⟨t, .inl rfl, h⟩
    · rintro ⟨digits, rfl | same, nonempty, all, value⟩
      · exact ⟨nonempty, all, value⟩
      · exact absurd same (unsigned digits)

theorem Spells.unique {t : Text} {m n : Nat} (hm : t.Spells m) (hn : t.Spells n) : m = n := by
  have low : count? (m + n + 1) t = some m := count?_eq_some_iff.mpr ⟨hm, by omega⟩
  have high : count? (m + n + 1) t = some n := count?_eq_some_iff.mpr ⟨hn, by omega⟩
  rw [low] at high
  exact Option.some.inj high

end RemoteTerminal.Text
