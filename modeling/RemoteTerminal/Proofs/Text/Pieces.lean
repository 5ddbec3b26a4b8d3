import RemoteTerminal.Text
import Mathlib.Data.List.Basic

/-!
# Texts in pieces

What `List.splitOn`, `List.intercalate` and `cut?` make of a text and of its pieces, and what a text
is read as whose parts are read one after the other.

* `not_mem_of_mem_splitOn`: no piece that a text is split into holds the separator.
* `splitOn_flatMap`, `splitOn_substitute`: rewriting the characters of a text rewrites its pieces.
* `cut?_eq_some_iff`: a text is cut at its first separator.
* `ReadsAs`: a part is read as another text, whatever follows it.
-/

namespace RemoteTerminal.Text

theorem splitOn_cons_of_ne {sep c : Char} (other : c ≠ sep) (t : Text) :
    (c :: t).splitOn sep = (t.splitOn sep).modifyHead (c :: ·) := by
  rw [List.splitOn_cons_eq_if_modifyHead, if_neg (by simpa using other)]

theorem splitOn_append_of_not_mem {sep : Char} {a : Text} (none_in : sep ∉ a) (t : Text) :
    (a ++ t).splitOn sep = (t.splitOn sep).modifyHead (a ++ ·) := by
  induction a with
  | nil =>
    rw [List.nil_append]
    cases t.splitOn sep <;> rfl
  | cons c a ih =>
    have other : c ≠ sep := fun same => none_in (same ▸ List.mem_cons_self)
    have others : sep ∉ a := fun mem => none_in (List.mem_cons_of_mem _ mem)
    rw [List.cons_append, splitOn_cons_of_ne other, ih others]
    cases t.splitOn sep <;> rfl

/-- Where every other character is rewritten without the separator, the pieces are rewritten one by
one. -/
theorem splitOn_flatMap {sep : Char} {f : Char → Text} (keeps : f sep = [sep])
    (others : ∀ c, c ≠ sep → sep ∉ f c) (t : Text) :
    (t.flatMap f).splitOn sep = (t.splitOn sep).map (·.flatMap f) := by
  induction t with
  | nil => rfl
  | cons c t ih =>
    rw [List.flatMap_cons]
    by_cases same : c = sep
    · rw [same, keeps, List.singleton_append]
      simp only [List.splitOn_cons_eq_if_modifyHead, BEq.rfl, if_true, ih]
      rfl
    · rw [splitOn_append_of_not_mem (others c same), ih, splitOn_cons_of_ne same]
      cases t.splitOn sep <;> rfl

/-- A piece holds characters of the text, other than the separator. -/
theorem mem_of_mem_splitOn {sep : Char} {t piece : Text} (listed : piece ∈ t.splitOn sep) {c : Char}
    (mem : c ∈ piece) : c ∈ t ∧ c ≠ sep := by
  induction t generalizing piece with
  | nil =>
    rw [List.splitOn_nil, List.mem_singleton] at listed
    rw [listed] at mem
    exact absurd mem List.not_mem_nil
  | cons d t ih =>
    by_cases same : d = sep
    · simp only [List.splitOn_cons_eq_if_modifyHead, same, BEq.rfl, if_true] at listed
      obtain rfl | later := List.mem_cons.mp listed
      · exact absurd mem List.not_mem_nil
      · exact (ih later mem).imp_left (.tail d)
    · obtain ⟨first, others, pieces⟩ := List.exists_cons_of_ne_nil (List.splitOn_ne_nil sep t)
      rw [splitOn_cons_of_ne same, pieces] at listed
      rw [pieces] at ih
      obtain rfl | later := List.mem_cons.mp listed
      · obtain rfl | within := List.mem_cons.mp mem
        · exact ⟨.head _, same⟩
        · exact (ih (.head _) within).imp_left (.tail d)
      · exact (ih (.tail _ later) mem).imp_left (.tail d)

theorem not_mem_of_mem_splitOn {sep : Char} {t piece : Text} (listed : piece ∈ t.splitOn sep) :
    sep ∉ piece := fun mem => (mem_of_mem_splitOn listed mem).2 rfl

theorem not_mem_intercalate {c : Char} {sep : Text} {pieces : List Text} (absent : c ∉ sep)
    (pieces_free : ∀ piece ∈ pieces, c ∉ piece) : c ∉ sep.intercalate pieces := by
  induction pieces with
  | nil => exact List.not_mem_nil
  | cons piece pieces ih =>
    have first := pieces_free piece (.head _)
    have others := ih fun other mem => pieces_free other (.tail _ mem)
    cases pieces with
    | nil => rwa [List.intercalate_singleton]
    | cons next pieces =>
      rw [List.intercalate_cons_cons]
      simp only [List.mem_append, first, absent, others, or_self, not_false_eq_true]

theorem cut?_append_cons {sep : Char} {a : Text} (none_in : sep ∉ a) (b : Text) :
    cut? sep (a ++ sep :: b) = some (a, b) := by
  induction a with
  | nil => rw [List.nil_append, cut?, if_pos rfl]
  | cons c a ih =>
    have other : c ≠ sep := fun same => none_in (same ▸ List.mem_cons_self)
    have others : sep ∉ a := fun mem => none_in (List.mem_cons_of_mem _ mem)
    rw [List.cons_append, cut?, if_neg other, ih others, Option.map_some]

theorem cut?_of_not_mem {sep : Char} {t : Text} (none_in : sep ∉ t) : cut? sep t = none := by
  induction t with
  | nil => rfl
  | cons c t ih =>
    obtain ⟨other, others⟩ := not_or.mp (mt List.mem_cons.mpr none_in)
    rw [cut?, if_neg (Ne.symm other), ih others, Option.map_none]

/-- A text is cut into what its first separator stands between. -/
theorem cut?_eq_some_iff {sep : Char} {t a b : Text} :
    cut? sep t = some (a, b) ↔ sep ∉ a ∧ t = a ++ sep :: b := by
  constructor
  · intro found
    by_cases mem : sep ∈ t
    · obtain ⟨before, after, rfl, first⟩ := List.eq_append_cons_of_mem mem
      rw [cut?_append_cons first] at found
      cases found
      exact ⟨first, rfl⟩
    · rw [cut?_of_not_mem mem] at found
      cases found
  · rintro ⟨none_in, rfl⟩
    exact cut?_append_cons none_in b

theorem substitute_of_not_mem {t : Text} {c : Char} (none_in : c ∉ t) (piece : Text) :
    t.substitute c piece = t := by
  induction t with
  | nil => rfl
  | cons d t ih =>
    obtain ⟨other, others⟩ := not_or.mp (mt List.mem_cons.mpr none_in)
    rw [substitute, List.flatMap_cons, if_neg (Ne.symm other)]
    exact congrArg (d :: ·) (ih others)

theorem splitOn_substitute {sep c : Char} {piece : Text} (other : c ≠ sep) (free : sep ∉ piece)
    (t : Text) :
    (t.substitute c piece).splitOn sep = (t.splitOn sep).map (substitute · c piece) := by
  refine splitOn_flatMap (if_neg (Ne.symm other)) (fun d hd => ?_) t
  split
  · exact free
  · exact fun mem => hd (List.mem_singleton.mp mem).symm

/-- What ends a text and starts with a character that the first part lacks ends the second part. -/
theorem suffix_of_suffix_append {c : Char} {a b rest : Text} (free : c ∉ a)
    (tail : c :: rest <:+ a ++ b) : c :: rest <:+ b := by
  induction a with
  | nil => exact tail
  | cons d a ih =>
    obtain ⟨other, free⟩ := not_or.mp (mt List.mem_cons.mpr free)
    obtain whole | later := List.suffix_cons_iff.mp tail
    · exact absurd (List.cons.inj whole).1 other
    · exact ih free later

/-! ## Reading part by part -/

/-- Whatever follows it, a text is read as another. -/
def ReadsAs (read : Text → Text) (t shown : Text) : Prop :=
  ∀ rest, read (t ++ rest) = shown ++ read rest

namespace ReadsAs

variable {read : Text → Text}

theorem nil : ReadsAs read [] [] := fun _ => rfl

theorem append {a b x y : Text} (ha : ReadsAs read a x) (hb : ReadsAs read b y) :
    ReadsAs read (a ++ b) (x ++ y) := by
  intro rest
  rw [List.append_assoc, ha, hb, List.append_assoc]

theorem flatMap {α : Type} {items : List α} {f g : α → Text}
    (each : ∀ item ∈ items, ReadsAs read (f item) (g item)) :
    ReadsAs read (items.flatMap f) (items.flatMap g) := by
  induction items with
  | nil => exact nil
  | cons item items ih =>
    rw [List.flatMap_cons, List.flatMap_cons]
    exact (each item (.head _)).append (ih fun other mem => each other (.tail _ mem))

/-- With nothing after it, a text is read as all that it is read as. -/
theorem whole {t shown : Text} (h : ReadsAs read t shown) (empty : read [] = []) :
    read t = shown := by
  have all := h []
  rwa [List.append_nil, empty, List.append_nil] at all

end ReadsAs

end RemoteTerminal.Text
