import RemoteTerminal.Json.Parse
import Mathlib.Data.List.Basic

/-!
# Strings and numbers in JSON text

What a string and a number look like, and that each is read to its end.

* `Quoted`, `IsString`: strings, with or without escapes; `Denotes`, `Spells`: the text that a
  string stands for. Not every string stands for one, since half a pair of escapes is no character.
* `IsNumber`: numbers.
* `scan_string`: a string is read up to its closing quotation mark, and `leafOf_spells` as what it
  stands for.
* `scan_number`: a number is read up to what `Ends` it.
-/

namespace RemoteTerminal.Json

/-! ## Strings -/

/-- What may stand between the quotation marks of a string. -/
inductive Quoted : Text → Prop
  | nil : Quoted []
  | plain {c : Char} {t : Text} (open_ : c ≠ '"') (bare : c ≠ '\\') (shown : 0x20 ≤ c.toNat)
      (rest : Quoted t) : Quoted (c :: t)
  | short {e d : Char} {t : Text} (known : Quote.shortEscape? e = some d) (rest : Quoted t) :
      Quoted ('\\' :: e :: t)
  | code {digits t : Text} {n : Nat} (four : digits.length = 4)
      (value : Text.digits? 16 digits = some n) (rest : Quoted t) :
      Quoted ('\\' :: 'u' :: (digits ++ t))

/-- What stands for a text between the quotation marks. A character past the first `0x10000` is
written as it is, or as a pair of numbers. -/
inductive Denotes : Text → Text → Prop
  | nil : Denotes [] []
  | plain {c : Char} {t s : Text} (open_ : c ≠ '"') (bare : c ≠ '\\') (shown : 0x20 ≤ c.toNat)
      (rest : Denotes t s) : Denotes (c :: t) (c :: s)
  | short {e d : Char} {t s : Text} (known : Quote.shortEscape? e = some d) (rest : Denotes t s) :
      Denotes ('\\' :: e :: t) (d :: s)
  | code {digits t s : Text} {n : Nat} (four : digits.length = 4)
      (value : Text.digits? 16 digits = some n) (whole : n < 0xD800 ∨ 0xDFFF < n)
      (rest : Denotes t s) : Denotes ('\\' :: 'u' :: (digits ++ t)) (Char.ofNat n :: s)
  | pair {high low t s : Text} {m n : Nat} (four : high.length = 4)
      (value : Text.digits? 16 high = some m) (leading : 0xD800 ≤ m ∧ m ≤ 0xDBFF)
      (four' : low.length = 4) (value' : Text.digits? 16 low = some n)
      (trailing : 0xDC00 ≤ n ∧ n ≤ 0xDFFF) (rest : Denotes t s) :
      Denotes ('\\' :: 'u' :: (high ++ '\\' :: 'u' :: (low ++ t)))
        (Char.ofNat (0x10000 + (m - 0xD800) * 0x400 + (n - 0xDC00)) :: s)

/-- A string as it is written. -/
def IsString (t : Text) : Prop := ∃ body, Quoted body ∧ t = '"' :: (body ++ ['"'])

/-- A string as it is written, and what it stands for. -/
def Spells (t s : Text) : Prop := ∃ body, Denotes body s ∧ t = '"' :: (body ++ ['"'])

namespace Quote

@[simp] theorem scan_end (fuel : Nat) (rest : Text) :
    scan (fuel + 1) ('"' :: rest) = ⟨.sound [], rest⟩ := rfl

theorem scan_plain {c : Char} (open_ : c ≠ '"') (bare : c ≠ '\\') (shown : 0x20 ≤ c.toNat)
    (fuel : Nat) (rest : Text) : scan (fuel + 1) (c :: rest) = (scan fuel rest).cons c := by
  rw [scan.eq_def]
  simp only [if_neg open_, if_neg bare]
  exact if_neg (by omega)

theorem scan_short {e d : Char} (known : shortEscape? e = some d) (fuel : Nat) (rest : Text) :
    scan (fuel + 1) ('\\' :: e :: rest) = (scan fuel rest).cons d := by
  have other : e ≠ 'u' := by
    rintro rfl
    cases known
  rw [scan]
  · simp [known]
  · exact other

theorem hex_digits {digits : Text} {n : Nat} (four : digits.length = 4)
    (value : Text.digits? 16 digits = some n) (rest : Text) : hex (digits ++ rest) = .ok n := by
  have width (c : Char) : 1 ≤ (Bytes.ofChar c).length := by
    unfold Bytes.ofChar
    dsimp only
    split_ifs <;> simp
  have bytes (t : Text) : t.length ≤ (Bytes.encode t).length := by
    induction t with
    | nil => simp
    | cons c t ih =>
      have := width c
      rw [Bytes.encode, List.flatMap_cons, List.length_append, List.length_cons, ← Bytes.encode]
      omega
  have taken : (digits ++ rest).take 4 = digits := four ▸ List.take_left
  have := bytes digits
  rw [hex, taken, if_neg (by omega), value]

theorem scan_code {digits : Text} {n : Nat} (four : digits.length = 4)
    (value : Text.digits? 16 digits = some n) (fuel : Nat) (rest : Text) :
    scan (fuel + 1) ('\\' :: 'u' :: (digits ++ rest)) =
      if isTrailing n then (scan fuel rest).spoil .malformed
      else if isLeading n then
        match secondHalf rest with
        | .error fault => (scan fuel rest).spoil fault
        | .ok m =>
          (scan fuel (rest.drop 6)).cons
            (Char.ofNat (0x10000 + (n - 0xD800) * 0x400 + (m - 0xDC00)))
      else (scan fuel rest).cons (Char.ofNat n) := by
  have left : (digits ++ rest).drop 4 = rest := four ▸ List.drop_left
  rw [scan]
  simp only [hex_digits four value, left]
  rfl

theorem isLeading_iff {n : Nat} : isLeading n = true ↔ 0xD800 ≤ n ∧ n ≤ 0xDBFF := by
  simp [isLeading]

theorem isTrailing_iff {n : Nat} : isTrailing n = true ↔ 0xDC00 ≤ n ∧ n ≤ 0xDFFF := by
  simp [isTrailing]

/-- A number that is no half of a pair. -/
theorem scan_whole {digits : Text} {n : Nat} (four : digits.length = 4)
    (value : Text.digits? 16 digits = some n) (whole : n < 0xD800 ∨ 0xDFFF < n) (fuel : Nat)
    (rest : Text) :
    scan (fuel + 1) ('\\' :: 'u' :: (digits ++ rest)) = (scan fuel rest).cons (Char.ofNat n) := by
  have leading : ¬ isLeading n = true := by
    rw [isLeading_iff]
    omega
  have trailing : ¬ isTrailing n = true := by
    rw [isTrailing_iff]
    omega
  rw [scan_code four value, if_neg trailing, if_neg leading]

theorem secondHalf_code {digits : Text} {n : Nat} (four : digits.length = 4)
    (value : Text.digits? 16 digits = some n) (rest : Text) :
    secondHalf ('\\' :: 'u' :: (digits ++ rest)) =
      if isTrailing n then .ok n else .error .malformed := by
  rw [secondHalf, hex_digits four value]
  rfl

/-- The two halves of a pair. -/
theorem scan_pair {high low : Text} {m n : Nat} (four : high.length = 4)
    (value : Text.digits? 16 high = some m) (leading : 0xD800 ≤ m ∧ m ≤ 0xDBFF)
    (four' : low.length = 4) (value' : Text.digits? 16 low = some n)
    (trailing : 0xDC00 ≤ n ∧ n ≤ 0xDFFF) (fuel : Nat) (rest : Text) :
    scan (fuel + 1) ('\\' :: 'u' :: (high ++ '\\' :: 'u' :: (low ++ rest))) =
      (scan fuel rest).cons (Char.ofNat (0x10000 + (m - 0xD800) * 0x400 + (n - 0xDC00))) := by
  have first : ¬ isTrailing m = true := by
    rw [isTrailing_iff]
    omega
  have left : ('\\' :: 'u' :: (low ++ rest)).drop 6 = rest := by
    show (low ++ rest).drop 4 = rest
    exact four' ▸ List.drop_left
  rw [scan_code four value, if_neg first, if_pos (isLeading_iff.mpr leading),
    secondHalf_code four' value', if_pos (isTrailing_iff.mpr trailing)]
  show (scan fuel (('\\' :: 'u' :: (low ++ rest)).drop 6)).cons _ = _
  rw [left]

end Quote

/-- Whatever follows its closing quotation mark, a string that begins so is passed over, and what it
is read as is what it stands for. -/
def Closes (t : Text) : Prop :=
  ∃ leaf : Leaf Text, leaf.skip = .ok () ∧ (∀ s, leaf.value = .ok s → Denotes t s) ∧
    ∀ fuel rest, t.length < fuel → Quote.scan fuel (t ++ '"' :: rest) = ⟨leaf, rest⟩

/-- A step of the reader to a character. -/
theorem Closes.cons {t : Text} {c : Char} (closes : Closes t) (head : Text) (some_head : head ≠ [])
    (denotes : ∀ s, Denotes t s → Denotes (head ++ t) (c :: s))
    (step : ∀ fuel rest, Quote.scan (fuel + 1) (head ++ (t ++ '"' :: rest)) =
      (Quote.scan fuel (t ++ '"' :: rest)).cons c) : Closes (head ++ t) := by
  obtain ⟨leaf, passed, means, reads⟩ := closes
  refine ⟨{ leaf with value := leaf.value.map (c :: ·) }, passed, ?_, fun fuel rest room => ?_⟩
  · intro s same
    cases value : leaf.value with
    | error fault =>
      rw [value] at same
      cases same
    | ok s' =>
      rw [value] at same
      cases same
      exact denotes s' (means s' value)
  · have := List.length_pos_of_ne_nil some_head
    rw [List.length_append] at room
    obtain ⟨fuel, rfl⟩ : ∃ less, fuel = less + 1 := ⟨fuel - 1, by omega⟩
    rw [List.append_assoc, step, reads fuel rest (by omega)]
    rfl

/-- A step of the reader to what is no character. -/
theorem Closes.spoil {t : Text} (closes : Closes t) (fault : Fault) (head : Text)
    (some_head : head ≠ [])
    (step : ∀ fuel rest, Quote.scan (fuel + 1) (head ++ (t ++ '"' :: rest)) =
      (Quote.scan fuel (t ++ '"' :: rest)).spoil fault) : Closes (head ++ t) := by
  obtain ⟨leaf, passed, -, reads⟩ := closes
  refine ⟨{ leaf with value := .error fault }, passed, by simp, fun fuel rest room => ?_⟩
  have := List.length_pos_of_ne_nil some_head
  rw [List.length_append] at room
  obtain ⟨fuel, rfl⟩ : ∃ less, fuel = less + 1 := ⟨fuel - 1, by omega⟩
  rw [List.append_assoc, step, reads fuel rest (by omega)]
  rfl

/-- After the first half of a pair either the second half stands, or its absence is noticed. -/
theorem Quoted.secondHalf {t : Text} (quoted : Quoted t) :
    (∃ fault, ∀ rest, Quote.secondHalf (t ++ '"' :: rest) = .error fault) ∨
      ∃ digits after m, digits.length = 4 ∧ Text.digits? 16 digits = some m ∧
        (0xDC00 ≤ m ∧ m ≤ 0xDFFF) ∧ t = '\\' :: 'u' :: (digits ++ after) := by
  cases quoted with
  | nil => exact .inl ⟨.malformed, fun rest => rfl⟩
  | @plain c t open_ bare =>
    refine .inl ⟨.malformed, fun rest => ?_⟩
    rw [List.cons_append, Quote.secondHalf]
    · simp
    · simp [bare]
    · simp [bare]
  | @short e d t known =>
    refine .inl ⟨.malformed, fun rest => ?_⟩
    have other : e ≠ 'u' := by
      rintro rfl
      cases known
    rw [List.cons_append, List.cons_append, Quote.secondHalf]
    · simp
    · simp
    · simp [other]
  | @code digits after n four value =>
    by_cases trailing : Quote.isTrailing n = true
    · exact .inr ⟨digits, after, n, four, value, Quote.isTrailing_iff.mp trailing, rfl⟩
    · refine .inl ⟨.malformed, fun rest => ?_⟩
      rw [List.cons_append, List.cons_append, List.append_assoc, Quote.secondHalf_code four value,
        if_neg trailing]

/-- A number that is half of a pair is read together with what follows it, so that a string and what
follows such a number in it are looked at together. -/
theorem Quoted.closes {t : Text} (quoted : Quoted t) :
    Closes t ∧ ∀ digits rest, digits.length = 4 → t = '\\' :: 'u' :: (digits ++ rest) →
      Closes rest := by
  induction quoted with
  | nil =>
    refine ⟨⟨.sound [], rfl, ?_, fun fuel rest room => ?_⟩, by simp⟩
    · rintro s ⟨⟩
      exact .nil
    · obtain ⟨fuel, rfl⟩ : ∃ less, fuel = less + 1 := ⟨fuel - 1, by omega⟩
      rfl
  | @plain c t open_ bare shown _ ih =>
    refine ⟨ih.1.cons [c] (by simp) (fun s => .plain open_ bare shown)
      fun fuel rest => Quote.scan_plain open_ bare shown _ _, ?_⟩
    rintro digits rest - same
    exact absurd (List.cons.inj same).1 bare
  | @short e d t known _ ih =>
    refine ⟨ih.1.cons ['\\', e] (by simp) (fun s => .short known)
      fun fuel rest => Quote.scan_short known _ _, ?_⟩
    rintro digits rest - same
    have same : e = 'u' := (List.cons.inj (List.cons.inj same).2).1
    rw [same] at known
    cases known
  | @code digits t n four value quoted ih =>
    constructor
    · by_cases trailing : Quote.isTrailing n = true
      · refine ih.1.spoil .malformed ('\\' :: 'u' :: digits) (by simp) fun fuel rest => ?_
        exact (Quote.scan_code four value _ _).trans (if_pos trailing)
      by_cases leading : Quote.isLeading n = true
      · obtain ⟨fault, missing⟩ | ⟨digits', after, m, four', value', trails, rfl⟩ :=
          quoted.secondHalf
        · refine ih.1.spoil fault ('\\' :: 'u' :: digits) (by simp) fun fuel rest => ?_
          refine (Quote.scan_code four value _ _).trans ?_
          rw [if_neg trailing, if_pos leading, missing]
        · have leads := Quote.isLeading_iff.mp leading
          have closes := (ih.2 digits' after four' rfl).cons
            ('\\' :: 'u' :: (digits ++ '\\' :: 'u' :: digits')) (by simp)
            (by simpa using fun s => Denotes.pair four value leads four' value' trails)
            fun fuel rest => by
              simpa using Quote.scan_pair four value leads four' value' trails fuel _
          simpa using closes
      · have whole : n < 0xD800 ∨ 0xDFFF < n := by
          rw [Quote.isTrailing_iff] at trailing
          rw [Quote.isLeading_iff] at leading
          omega
        exact ih.1.cons ('\\' :: 'u' :: digits) (by simp) (fun s => .code four value whole)
          fun fuel rest => Quote.scan_whole four value whole _ _
    · intro digits' rest four' same
      have both := List.append_inj (List.cons.inj (List.cons.inj same).2).2 (four.trans four'.symm)
      exact both.2 ▸ ih.1

theorem Denotes.quoted {t s : Text} (denotes : Denotes t s) : Quoted t := by
  induction denotes with
  | nil => exact .nil
  | plain open_ bare shown _ ih => exact .plain open_ bare shown ih
  | short known _ ih => exact .short known ih
  | code four value _ _ ih => exact .code four value ih
  | pair four value _ four' value' _ _ ih => exact .code four value (.code four' value' ih)

/-- A string that stands for a text is read as that text. -/
theorem Denotes.scan {t s : Text} (denotes : Denotes t s) {fuel : Nat} (room : t.length < fuel)
    (rest : Text) : Quote.scan fuel (t ++ '"' :: rest) = ⟨.sound s, rest⟩ := by
  induction denotes generalizing fuel with
  | nil =>
    obtain ⟨fuel, rfl⟩ : ∃ less, fuel = less + 1 := ⟨fuel - 1, by omega⟩
    rfl
  | @plain c t s open_ bare shown _ ih =>
    rw [List.length_cons] at room
    obtain ⟨fuel, rfl⟩ : ∃ less, fuel = less + 1 := ⟨fuel - 1, by omega⟩
    rw [List.cons_append, Quote.scan_plain open_ bare shown, ih (by omega)]
    rfl
  | @short e d t s known _ ih =>
    simp only [List.length_cons] at room
    obtain ⟨fuel, rfl⟩ : ∃ less, fuel = less + 1 := ⟨fuel - 1, by omega⟩
    rw [List.cons_append, List.cons_append, Quote.scan_short known, ih (by omega)]
    rfl
  | @code digits t s n four value whole _ ih =>
    simp only [List.length_cons, List.length_append] at room
    obtain ⟨fuel, rfl⟩ : ∃ less, fuel = less + 1 := ⟨fuel - 1, by omega⟩
    rw [List.cons_append, List.cons_append, List.append_assoc, Quote.scan_whole four value whole,
      ih (by omega)]
    rfl
  | @pair high low t s m n four value leading four' value' trailing _ ih =>
    simp only [List.length_cons, List.length_append] at room
    obtain ⟨fuel, rfl⟩ : ∃ less, fuel = less + 1 := ⟨fuel - 1, by omega⟩
    simp only [List.cons_append, List.append_assoc]
    rw [Quote.scan_pair four value leading four' value' trailing, ih (by omega)]
    rfl

/-- The leaf that a string is read as. -/
def leafOf (t : Text) : Leaf Text := (Quote.scan t.length t.tail).leaf

/-- A string is read up to its closing quotation mark, whatever follows that. -/
theorem scan_string {t : Text} (written : IsString t) :
    (leafOf t).skip = .ok () ∧ (∀ s, (leafOf t).value = .ok s → Spells t s) ∧
      ∃ inner, t = '"' :: inner ∧
        ∀ after, Quote.scan ((inner ++ after).length + 1) (inner ++ after) = ⟨leafOf t, after⟩ := by
  obtain ⟨body, quoted, rfl⟩ := written
  obtain ⟨leaf, passed, means, reads⟩ := quoted.closes.1
  have room : body.length < ('"' :: (body ++ ['"'])).length := by
    rw [List.length_cons, List.length_append]
    omega
  have same : leafOf ('"' :: (body ++ ['"'])) = leaf := by
    rw [leafOf, List.tail_cons, reads _ [] room]
  rw [same]
  refine ⟨passed, fun s value => ⟨body, means s value, rfl⟩, body ++ ['"'], rfl, fun after => ?_⟩
  have room' : body.length < (body ++ '"' :: after).length + 1 := by
    rw [List.length_append]
    omega
  rw [List.append_assoc, List.singleton_append]
  exact reads _ after room'

theorem Spells.isString {t s : Text} (spells : Spells t s) : IsString t := by
  obtain ⟨body, denotes, rfl⟩ := spells
  exact ⟨body, denotes.quoted, rfl⟩

/-- **A string is read as what it stands for**, if it stands for a text at all. -/
theorem value_leafOf_iff {t s : Text} (written : IsString t) :
    (leafOf t).value = .ok s ↔ Spells t s := by
  refine ⟨(scan_string written).2.1 s, ?_⟩
  rintro ⟨body, denotes, rfl⟩
  have room : body.length < ('"' :: (body ++ ['"'])).length := by
    rw [List.length_cons, List.length_append]
    omega
  rw [leafOf, List.tail_cons, denotes.scan room]
  rfl

/-- A text in which nothing has to be escaped spells itself. -/
theorem spells_plain {s : Text}
    (plain : s.all (fun c => c != '"' && c != '\\' && decide (0x20 ≤ c.toNat)) = true) :
    Spells ('"' :: (s ++ ['"'])) s := by
  refine ⟨s, ?_, rfl⟩
  induction s with
  | nil => exact .nil
  | cons c s ih =>
    simp only [List.all_cons, Bool.and_eq_true, bne_iff_ne, decide_eq_true_eq] at plain
    obtain ⟨⟨⟨open_, bare⟩, shown⟩, others⟩ := plain
    exact .plain open_ bare shown (ih (by simpa using others))

/-! ## Numbers -/

/-- One or more digits. -/
def Digits (t : Text) : Prop := t ≠ [] ∧ ∀ c ∈ t, c.isDigit = true

/-- The digits before the point: a zero alone, or digits that no zero leads. -/
def IsWhole (t : Text) : Prop := Digits t ∧ (t.head? = some '0' → t = ['0'])

/-- A point and digits, if there is a fraction. -/
def IsFraction (t : Text) : Prop := t = [] ∨ ∃ digits, Digits digits ∧ t = '.' :: digits

/-- A power of ten, if there is one. -/
def IsExponent (t : Text) : Prop :=
  t = [] ∨ ∃ mark sign digits, (mark = 'e' ∨ mark = 'E') ∧
    (sign = [] ∨ sign = ['+'] ∨ sign = ['-']) ∧ Digits digits ∧ t = mark :: (sign ++ digits)

/-- A number as it is written. -/
def IsNumber (t : Text) : Prop :=
  ∃ sign whole fraction exponent, (sign = [] ∨ sign = ['-']) ∧ IsWhole whole ∧
    IsFraction fraction ∧ IsExponent exponent ∧ t = sign ++ (whole ++ (fraction ++ exponent))

theorem IsNumber.first {t : Text} (number : IsNumber t) :
    ∃ c inner, t = c :: inner ∧ (c = '-' ∨ c.isDigit = true) := by
  obtain ⟨sign, whole, fraction, exponent, rfl | rfl, wholes, -, -, rfl⟩ := number
  · obtain ⟨c, whole, rfl⟩ := List.exists_cons_of_ne_nil wholes.1.1
    exact ⟨c, _, rfl, .inr (wholes.1.2 c (.head _))⟩
  · exact ⟨'-', _, rfl, .inl rfl⟩

theorem isNumber_of_digits {t : Text} (all : Digits t) (leads : t.head? ≠ some '0') : IsNumber t :=
  ⟨[], t, [], [], .inl rfl, ⟨all, fun zero => absurd zero leads⟩, .inl rfl, .inl rfl, by simp⟩

/-- What may follow a value: nothing, white space, or the end of an item, a list or a record. -/
def Ends (rest : Text) : Prop :=
  ∀ c ∈ rest.head?, isSpace c = true ∨ c = ',' ∨ c = ']' ∨ c = '\x7d'

/-- No number goes on with what ends a value. -/
theorem Ends.stops {rest : Text} (ends : Ends rest) :
    ∀ c ∈ rest.head?, c.isDigit = false ∧ c ≠ '.' ∧ c ≠ 'e' ∧ c ≠ 'E' := by
  intro c first
  obtain space | rfl | rfl | rfl := ends c first
  · simp only [isSpace, Bool.or_eq_true, decide_eq_true_eq] at space
    obtain ((rfl | rfl) | rfl) | rfl := space <;> decide
  all_goals decide

namespace Numeral

theorem digits_end {digits : Text} (all : ∀ c ∈ digits, c.isDigit = true) (rest : Text)
    (stops : ∀ c ∈ rest.head?, c.isDigit = false) :
    (digits ++ rest).takeWhile Char.isDigit = digits ∧
      (digits ++ rest).dropWhile Char.isDigit = rest := by
  have none_left : rest.takeWhile Char.isDigit = [] ∧ rest.dropWhile Char.isDigit = rest := by
    cases rest with
    | nil => exact ⟨rfl, rfl⟩
    | cons c rest =>
      have stop := stops c rfl
      constructor
      · exact List.takeWhile_cons_of_neg (by simp [stop])
      · exact List.dropWhile_cons_of_neg (by simp [stop])
  rw [List.takeWhile_append_of_pos all, List.dropWhile_append_of_pos all, none_left.1, none_left.2,
    List.append_nil]
  exact ⟨rfl, rfl⟩

/-- Whatever ends it, a reader of numbers reads a text to its end. -/
def Reads (scan : Text → Scanned) (t : Text) : Prop :=
  ∃ leaf : Leaf Numeral, leaf.skip = .ok () ∧ ∀ rest, Ends rest → scan (t ++ rest) = (leaf, rest)

theorem not_digit {c d : Char} (digit : c.isDigit = true) (other : d.isDigit = false := by decide) :
    c ≠ d := by
  rintro rfl
  rw [digit] at other
  cases other

theorem reads_exponent (negative : Bool) (whole : Text) (fraction : Option Text)
    {sign digits : Text} (signs : sign = [] ∨ sign = ['+'] ∨ sign = ['-']) (all : Digits digits) :
    Reads (scanExponent negative whole fraction) (sign ++ digits) := by
  refine ⟨⟨value negative whole fraction (some (sign == ['-'], digits)), .ok ()⟩, rfl,
    fun rest ends => ?_⟩
  have ended := digits_end all.2 rest fun c first => (ends.stops c first).1
  obtain ⟨first, digits, rfl⟩ := List.exists_cons_of_ne_nil all.1
  have digit := all.2 first (.head _)
  rw [List.cons_append] at ended
  obtain rfl | rfl | rfl := signs
  · rw [List.nil_append, List.cons_append, scanExponent]
    · simp only [ended]
      rfl
    · simp [not_digit digit (d := '+')]
    · simp [not_digit digit (d := '-')]
  all_goals
    simp only [List.cons_append, List.nil_append, scanExponent, ended]
    rfl

theorem reads_fraction (negative : Bool) (whole : Text) {digits exponent : Text}
    (all : Digits digits) (exponents : IsExponent exponent) :
    Reads (scanFraction negative whole) (digits ++ exponent) := by
  have some_digits : digits.isEmpty = false := by simp [all.1]
  obtain rfl | ⟨mark, sign, digits', marks, signs, all', rfl⟩ := exponents
  · refine ⟨⟨value negative whole (some digits) none, .ok ()⟩, rfl, fun rest ends => ?_⟩
    have stops := ends.stops
    have ended := digits_end all.2 rest fun c first => (stops c first).1
    rw [List.append_nil, scanFraction, ended.1, ended.2]
    simp only [some_digits, Bool.false_eq_true, if_false]
    split
    · simp at stops
    · simp at stops
    · rfl
  · obtain ⟨leaf, passed, reads⟩ := reads_exponent negative whole (some digits) signs all'
    refine ⟨leaf, passed, fun rest ends => ?_⟩
    have ended := digits_end all.2 (mark :: (sign ++ digits' ++ rest)) (by
      rintro c ⟨⟩
      obtain rfl | rfl := marks <;> rfl)
    rw [List.append_assoc, List.cons_append, scanFraction, ended.1, ended.2, some_digits,
      ← reads rest ends]
    obtain rfl | rfl := marks <;> rfl

theorem reads_whole (negative : Bool) {whole fraction exponent : Text} (wholes : IsWhole whole)
    (fractions : IsFraction fraction) (exponents : IsExponent exponent) :
    Reads (scanWhole negative) (whole ++ (fraction ++ exponent)) := by
  obtain ⟨all, single⟩ := wholes
  have some_digits : whole.isEmpty = false := by simp [all.1]
  have zero : ¬ (whole.head? = some '0' ∧ 1 < whole.length) := by
    rintro ⟨leads, long⟩
    rw [single leads] at long
    exact absurd long (by decide)
  obtain rfl | ⟨digits, all', rfl⟩ := fractions
  · obtain rfl | ⟨mark, sign, digits', marks, signs, all', rfl⟩ := exponents
    · refine ⟨⟨value negative whole none none, .ok ()⟩, rfl, fun rest ends => ?_⟩
      have stops := ends.stops
      have ended := digits_end all.2 rest fun c first => (stops c first).1
      rw [List.append_nil, List.append_nil, scanWhole, ended.1, ended.2]
      simp only [some_digits, if_neg zero, Bool.false_eq_true, if_false]
      split
      · simp at stops
      · simp at stops
      · simp at stops
      · rfl
    · obtain ⟨leaf, passed, reads⟩ := reads_exponent negative whole none signs all'
      refine ⟨leaf, passed, fun rest ends => ?_⟩
      have ended := digits_end all.2 (mark :: (sign ++ digits' ++ rest)) (by
        rintro c ⟨⟩
        obtain rfl | rfl := marks <;> rfl)
      rw [List.nil_append, List.append_assoc, List.cons_append, scanWhole, ended.1, ended.2,
        some_digits, if_neg zero, ← reads rest ends]
      obtain rfl | rfl := marks <;> rfl
  · obtain ⟨leaf, passed, reads⟩ := reads_fraction negative whole all' exponents
    refine ⟨leaf, passed, fun rest ends => ?_⟩
    have ended := digits_end all.2 ('.' :: (digits ++ exponent ++ rest)) (by
      rintro c ⟨⟩
      rfl)
    rw [List.append_assoc, List.cons_append, List.cons_append, scanWhole, ended.1, ended.2,
      some_digits, if_neg zero, ← reads rest ends]
    rfl

/-- **A number is read to its end**, whatever it comes to and whatever ends it. -/
theorem scan_number {t : Text} (number : IsNumber t) : Reads scan t := by
  obtain ⟨sign, whole, fraction, exponent, signs, wholes, fractions, exponents, rfl⟩ := number
  obtain rfl | rfl := signs
  · obtain ⟨leaf, passed, reads⟩ := reads_whole false wholes fractions exponents
    refine ⟨leaf, passed, fun rest ends => ?_⟩
    rw [← reads rest ends]
    obtain ⟨first, whole, rfl⟩ := List.exists_cons_of_ne_nil wholes.1.1
    have digit := wholes.1.2 first (.head _)
    rw [List.nil_append, List.cons_append, List.cons_append, scan]
    simp [not_digit digit (d := '-')]
  · obtain ⟨leaf, passed, reads⟩ := reads_whole true wholes fractions exponents
    exact ⟨leaf, passed, reads⟩

end Numeral
end RemoteTerminal.Json
