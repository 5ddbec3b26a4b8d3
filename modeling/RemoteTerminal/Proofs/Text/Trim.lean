import RemoteTerminal.Text

/-!
# Trimmed texts

A text is `Trimmed` if white space neither begins nor ends it.

* `trim_eq_iff`: trimming takes off white space and nothing else, and all of it.
* `trim_trim`, `trim_eq_self`: so trimming twice is trimming once, and a text without white space
  stays.
* `blank_iff`: a text is blank if all of it is white space.
-/

namespace RemoteTerminal.Text

/-- No printed character of ASCII is white space. -/
theorem isBlank_of_printed {c : Char} (least : 0x21 ≤ c.toNat) (most : c.toNat ≤ 0x7E) :
    isBlank c = false := by
  simp only [isBlank, blankRanges, List.any_cons, List.any_nil, Bool.or_false, Bool.or_eq_false_iff,
    Bool.and_eq_false_iff, decide_eq_false_iff_not]
  omega

/-- No white space begins or ends the text. -/
def Trimmed (t : Text) : Prop :=
  (∀ c ∈ t.head?, isBlank c = false) ∧ (∀ c ∈ t.getLast?, isBlank c = false)

theorem trimStart_eq_self {t : Text} (h : ∀ c ∈ t.head?, isBlank c = false) :
    trimStart t = t := by
  cases t with
  | nil => rfl
  | cons c cs => simp [trimStart, h c rfl]

theorem head_trimStart (t : Text) : ∀ c ∈ (trimStart t).head?, isBlank c = false := by
  intro c hc
  have := List.head?_dropWhile_not isBlank t
  rw [trimStart] at hc
  simpa [Option.mem_def.mp hc] using this

theorem trimStart_append {a : Text} (blank : ∀ c ∈ a, isBlank c = true) (t : Text) :
    trimStart (a ++ t) = trimStart t := List.dropWhile_append_of_pos blank

theorem trimEnd_isPrefix (t : Text) : trimEnd t <+: t := by
  rw [trimEnd, ← List.reverse_suffix, List.reverse_reverse]
  exact List.dropWhile_suffix isBlank

theorem trimmed_trim (t : Text) : Trimmed (trim t) := by
  constructor
  · intro c hc
    apply head_trimStart t c
    obtain ⟨rest, whole⟩ := trimEnd_isPrefix (trimStart t)
    rw [← whole, List.head?_append, Option.mem_def,
      show (trimEnd (trimStart t)).head? = some c from hc]
    rfl
  · intro c hc
    rw [trim, trimEnd, List.getLast?_reverse] at hc
    exact head_trimStart _ c hc

/-- What is taken off is white space. -/
theorem exists_trim (t : Text) : ∃ a b, (∀ c ∈ a, isBlank c = true) ∧ (∀ c ∈ b, isBlank c = true) ∧
    t = a ++ trim t ++ b := by
  have blank (u : Text) : ∀ c ∈ u.takeWhile isBlank, isBlank c = true :=
    List.all_eq_true.mp List.all_takeWhile
  refine ⟨t.takeWhile isBlank, ((trimStart t).reverse.takeWhile isBlank).reverse, blank t,
    fun c mem => blank _ c (List.mem_reverse.mp mem), ?_⟩
  have back : trim t ++ ((trimStart t).reverse.takeWhile isBlank).reverse = trimStart t := by
    rw [trim, trimEnd, ← List.reverse_append, List.takeWhile_append_dropWhile, List.reverse_reverse]
  rw [List.append_assoc, back]
  exact List.takeWhile_append_dropWhile.symm

theorem trim_surrounded {a b t : Text} (before : ∀ c ∈ a, isBlank c = true)
    (after : ∀ c ∈ b, isBlank c = true) (trimmed : Trimmed t) : trim (a ++ t ++ b) = t := by
  rw [trim, List.append_assoc, trimStart_append before]
  cases t with
  | nil =>
    have gone := trimStart_append after []
    rw [List.append_nil] at gone
    rw [List.nil_append, gone]
    rfl
  | cons c t =>
    have back : ∀ d ∈ b.reverse, isBlank d = true := fun d mem => after d (List.mem_reverse.mp mem)
    have first : ∀ d ∈ (c :: t).reverse.head?, isBlank d = false := by
      rw [List.head?_reverse]
      exact trimmed.2
    rw [trimStart_eq_self (t := c :: t ++ b) trimmed.1, trimEnd, List.reverse_append]
    show (trimStart (b.reverse ++ (c :: t).reverse)).reverse = c :: t
    rw [trimStart_append back, trimStart_eq_self first, List.reverse_reverse]

/-- Trimming takes off white space, all of it, at both ends. -/
theorem trim_eq_iff {t body : Text} :
    trim t = body ↔ Trimmed body ∧ ∃ a b, (∀ c ∈ a, isBlank c = true) ∧
      (∀ c ∈ b, isBlank c = true) ∧ t = a ++ body ++ b := by
  constructor
  · rintro rfl
    exact ⟨trimmed_trim t, exists_trim t⟩
  · rintro ⟨trimmed, a, b, before, after, rfl⟩
    exact trim_surrounded before after trimmed

theorem trim_of_trimmed {t : Text} (trimmed : Trimmed t) : trim t = t := by
  simpa using trim_surrounded (a := []) (b := []) (by simp) (by simp) trimmed

@[simp] theorem trim_trim (t : Text) : trim (trim t) = trim t := trim_of_trimmed (trimmed_trim t)

theorem trimmed_of_shown {t : Text} (shown : ∀ c ∈ t, isBlank c = false) : Trimmed t :=
  ⟨fun c first => shown c (List.mem_of_mem_head? first),
    fun c last => shown c (List.mem_of_mem_getLast? last)⟩

theorem trim_eq_self {t : Text} (shown : ∀ c ∈ t, isBlank c = false) : trim t = t :=
  trim_of_trimmed (trimmed_of_shown shown)

/-- A text is blank if all of it is white space. -/
theorem blank_iff {t : Text} : blank t = true ↔ ∀ c ∈ t, isBlank c = true := by
  have empty : Trimmed [] := trimmed_of_shown (by simp)
  rw [blank, List.isEmpty_iff, trim_eq_iff]
  constructor
  · rintro ⟨-, a, b, before, after, rfl⟩ c mem
    rw [List.append_nil] at mem
    exact (List.mem_append.mp mem).elim (before c) (after c)
  · intro all
    exact ⟨empty, t, [], all, by simp, by simp⟩

end RemoteTerminal.Text
