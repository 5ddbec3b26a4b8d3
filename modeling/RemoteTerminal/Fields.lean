import RemoteTerminal.Text

/-!
The fields of a form: texts by name, each name once, in the order of the names. Main statements:
`insert` sets one name and leaves every other (`get?_insert`), and fields that agree on every name
are equal (`ext`).
-/
namespace RemoteTerminal

namespace Text

theorem before_irrefl (t : Text) : before t t = false := by
  induction t with
  | nil => rfl
  | cons c cs ih => simp [before, ih]

theorem before_trans {s t u : Text} (hst : before s t = true) (htu : before t u = true) :
    before s u = true := by
  induction s generalizing t u with
  | nil => cases u with
    | nil => cases t <;> simp [before] at htu
    | cons => rfl
  | cons c cs ih =>
    cases t with
    | nil => simp [before] at hst
    | cons d ds =>
      cases u with
      | nil => simp [before] at htu
      | cons e es =>
        simp only [before] at hst htu ⊢
        by_cases hcd : c = d
        · subst hcd
          by_cases hce : c = e
          · subst hce
            simp only [if_true] at hst htu ⊢
            exact ih hst htu
          · simp only [hce, if_false] at htu ⊢
            exact htu
        · by_cases hde : d = e
          · subst hde
            simp only [hcd, if_false] at hst ⊢
            exact hst
          · simp only [hcd, hde, if_false, decide_eq_true_eq] at hst htu
            have hlt : c.toNat < e.toNat := Nat.lt_trans hst htu
            have hne : c ≠ e := fun h => by subst h; exact Nat.lt_irrefl _ hlt
            simp [hne, hlt]

theorem before_total {s t : Text} (hne : s ≠ t) (hst : before s t = false) :
    before t s = true := by
  induction s generalizing t with
  | nil => cases t with
    | nil => exact absurd rfl hne
    | cons => simp [before] at hst
  | cons c cs ih =>
    cases t with
    | nil => rfl
    | cons d ds =>
      simp only [before] at hst ⊢
      by_cases hcd : c = d
      · subst hcd
        simp only [if_true] at hst ⊢
        exact ih (fun h => hne (by rw [h])) hst
      · have hdc : ¬ d = c := fun h => hcd h.symm
        simp only [hcd, hdc, if_false, decide_eq_false_iff_not, decide_eq_true_eq] at hst ⊢
        have : c.toNat ≠ d.toNat := fun h => hcd (Char.toNat_inj.mp h)
        omega

end Text

/-- Fields by name. -/
structure Fields where
  pairs : List (Text × Text)
  sorted : pairs.Pairwise fun p q => Text.before p.1 q.1 = true

namespace Fields

instance : DecidableEq Fields := fun a b =>
  if h : a.pairs = b.pairs then
    isTrue (by cases a; cases b; cases h; rfl)
  else isFalse fun e => h (congrArg pairs e)

def empty : Fields := ⟨[], .nil⟩

instance : Inhabited Fields := ⟨empty⟩

/-- The pairs with `name` set to `value`, in the place that its order gives it. -/
def set (name value : Text) : List (Text × Text) → List (Text × Text)
  | [] => [(name, value)]
  | (other, held) :: rest =>
    if name = other then (name, value) :: rest
    else if Text.before name other then (name, value) :: (other, held) :: rest
    else (other, held) :: set name value rest

theorem mem_set {name value : Text} {pairs : List (Text × Text)} {p : Text × Text}
    (h : p ∈ set name value pairs) : p = (name, value) ∨ p ∈ pairs := by
  induction pairs with
  | nil => simpa [set] using h
  | cons q rest ih =>
    obtain ⟨other, held⟩ := q
    rw [set] at h
    split at h
    · rcases List.mem_cons.mp h with h | h
      · exact .inl h
      · exact .inr (List.mem_cons_of_mem _ h)
    · split at h
      · rcases List.mem_cons.mp h with h | h
        · exact .inl h
        · exact .inr h
      · rcases List.mem_cons.mp h with h | h
        · exact .inr (h ▸ List.mem_cons_self)
        · exact (ih h).imp id (List.mem_cons_of_mem _)

theorem sorted_set (name value : Text) {pairs : List (Text × Text)}
    (h : pairs.Pairwise fun p q => Text.before p.1 q.1 = true) :
    (set name value pairs).Pairwise fun p q => Text.before p.1 q.1 = true := by
  induction pairs with
  | nil => simp [set]
  | cons q rest ih =>
    obtain ⟨other, held⟩ := q
    obtain ⟨first, others⟩ := List.pairwise_cons.mp h
    rw [set]
    split
    next same => subst same; exact List.pairwise_cons.mpr ⟨first, others⟩
    next ne =>
      split
      next lt =>
        refine List.pairwise_cons.mpr ⟨fun p hp => ?_, h⟩
        rcases List.mem_cons.mp hp with rfl | hp
        · exact lt
        · exact Text.before_trans lt (first p hp)
      next ge =>
        refine List.pairwise_cons.mpr ⟨fun p hp => ?_, ih others⟩
        rcases mem_set hp with rfl | hp
        · exact Text.before_total ne (Bool.eq_false_iff.mpr ge)
        · exact first p hp

/-- The fields with `name` set to `value`. -/
def insert (fields : Fields) (name value : Text) : Fields :=
  ⟨set name value fields.pairs, sorted_set name value fields.sorted⟩

/-- The value of a name. -/
def get? (fields : Fields) (name : Text) : Option Text := fields.pairs.lookup name

/-- The fields that a list of pairs sets, from left to right: the last pair of a name counts. -/
def ofList (pairs : List (Text × Text)) : Fields :=
  pairs.foldl (fun fields (name, value) => fields.insert name value) empty

theorem lookup_set (name value other : Text) (pairs : List (Text × Text)) :
    (set name value pairs).lookup other =
      if other = name then some value else pairs.lookup other := by
  induction pairs with
  | nil =>
    by_cases h : other = name
    · subst h; simp [set]
    · have hb : (other == name) = false := by simp [h]
      simp [set, List.lookup_cons, hb, h]
  | cons q rest ih =>
    obtain ⟨held, w⟩ := q
    rw [set]
    split
    next same =>
      subst same
      by_cases h : other = name
      · subst h; simp
      · have hb : (other == name) = false := by simp [h]
        simp [List.lookup_cons, hb, h]
    next ne =>
      split
      next =>
        by_cases h : other = name
        · subst h; simp
        · have hb : (other == name) = false := by simp [h]
          simp [List.lookup_cons, hb, h]
      next =>
        by_cases h : other = held
        · subst h
          have hn : other ≠ name := fun e => ne e.symm
          simp [hn]
        · have hb : (other == held) = false := by simp [h]
          simp [List.lookup_cons, hb, ih]

theorem get?_insert (fields : Fields) (name value other : Text) :
    (fields.insert name value).get? other =
      if other = name then some value else fields.get? other :=
  lookup_set name value other fields.pairs

theorem get?_empty (name : Text) : empty.get? name = none := rfl

theorem lookup_eq_none_of_before {pairs : List (Text × Text)} {name : Text}
    (h : ∀ p ∈ pairs, Text.before name p.1 = true) : pairs.lookup name = none := by
  induction pairs with
  | nil => rfl
  | cons q rest ih =>
    obtain ⟨held, w⟩ := q
    have hne : name ≠ held := fun e => by
      have := h (held, w) List.mem_cons_self
      rw [e, Text.before_irrefl] at this
      exact Bool.noConfusion this
    have hb : (name == held) = false := by simp [hne]
    simp only [List.lookup_cons, hb]
    exact ih fun p hp => h p (List.mem_cons_of_mem _ hp)

theorem pairs_ext {xs ys : List (Text × Text)}
    (hx : xs.Pairwise fun p q => Text.before p.1 q.1 = true)
    (hy : ys.Pairwise fun p q => Text.before p.1 q.1 = true)
    (h : ∀ name, xs.lookup name = ys.lookup name) : xs = ys := by
  induction xs generalizing ys with
  | nil =>
    cases ys with
    | nil => rfl
    | cons q rest =>
      obtain ⟨n, v⟩ := q
      have := h n
      simp at this
  | cons p xs ih =>
    obtain ⟨n, v⟩ := p
    obtain ⟨px, hxs⟩ := List.pairwise_cons.mp hx
    cases ys with
    | nil =>
      have := h n
      simp at this
    | cons q ys =>
      obtain ⟨m, w⟩ := q
      obtain ⟨py, hys⟩ := List.pairwise_cons.mp hy
      by_cases hnm : n = m
      · subst hnm
        have hv : v = w := by simpa using h n
        subst hv
        congr 1
        refine ih hxs hys fun name => ?_
        by_cases hn : name = n
        · subst hn
          rw [lookup_eq_none_of_before px, lookup_eq_none_of_before py]
        · have hb : (name == n) = false := by simp [hn]
          simpa [List.lookup_cons, hb] using h name
      · exfalso
        cases hlt : Text.before n m with
        | true =>
          have none_left : ((m, w) :: ys).lookup n = none :=
            lookup_eq_none_of_before fun p hp => by
              rcases List.mem_cons.mp hp with rfl | hp
              · exact hlt
              · exact Text.before_trans hlt (py p hp)
          have := h n
          rw [none_left] at this
          simp at this
        | false =>
          have hgt := Text.before_total hnm hlt
          have none_right : ((n, v) :: xs).lookup m = none :=
            lookup_eq_none_of_before fun p hp => by
              rcases List.mem_cons.mp hp with rfl | hp
              · exact hgt
              · exact Text.before_trans hgt (px p hp)
          have := h m
          rw [none_right] at this
          simp at this

/-- Fields that hold the same value under every name are the same. -/
theorem ext {a b : Fields} (h : ∀ name, a.get? name = b.get? name) : a = b := by
  have := pairs_ext a.sorted b.sorted h
  cases a
  cases b
  cases this
  rfl

end Fields
end RemoteTerminal
