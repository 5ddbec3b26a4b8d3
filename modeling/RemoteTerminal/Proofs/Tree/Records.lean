import RemoteTerminal.Tree.Read
import Mathlib.Data.List.Perm.Basic
import Mathlib.Data.List.Nodup

/-!
# What a record is read from

A record is read from the members that name a field, each taken with its field (`named`), and they
are set one after the other (`assignAll`).

* `readMembers_eq_ok_iff`: members are read if all others can be passed over, no field is named
  twice, and every field that is named can be set.
* `assignAll_perm`: where fields are `Independent`, the order of the settings does not matter.
* `readItems_eq_ok_iff`: a list of no more items than fields is read as settings of the first
  fields.
* `read_record_eq_ok_iff`, `read_list_eq_ok_iff`: what a whole record is read as, from either form.
-/

namespace RemoteTerminal.Read

theorem bind_eq_ok_iff {ε α β : Type} {x : Except ε α} {f : α → Except ε β} {b : β} :
    x >>= f = .ok b ↔ ∃ a, x = .ok a ∧ f a = .ok b := by
  cases x with
  | error e =>
    constructor
    · intro h
      cases h
    · rintro ⟨a, h, -⟩
      cases h
  | ok a =>
    constructor
    · intro h
      exact ⟨a, rfl, h⟩
    · rintro ⟨_, same, h⟩
      cases same
      exact h

theorem toOption_eq_some_iff {ε α : Type} {x : Except ε α} {a : α} :
    x.toOption = some a ↔ x = .ok a := by
  cases x <;> simp [Except.toOption]

theorem passing_eq_ok_iff {α : Type} {r : Except Fault α} {a : α} :
    passing r = .ok a ↔ r = .ok a := by
  cases r with
  | error fault =>
    constructor <;>
    · intro h
      cases h
  | ok b =>
    constructor <;>
    · intro h
      cases h
      rfl

namespace Layout

variable {ν φ σ : Type} (layout : Layout ν φ σ)

/-- The members that name a field, with the field in the place of the name. -/
def named (members : List (Text × ν)) : List (φ × ν) :=
  members.filterMap fun member => (layout.fieldOf member.1).map (·, member.2)

/-- Sets one field after the other. -/
def assignAll (settings : List (φ × ν)) (held : σ) : Except ReadError σ :=
  settings.foldlM (fun held setting => layout.assign setting.1 setting.2 held) held

/-- The order in which two fields are set does not matter. -/
def Independent : Prop :=
  ∀ ⦃f g : φ⦄, f ≠ g → ∀ (v w : ν) (held read : σ),
    layout.assign f v held >>= layout.assign g w = .ok read →
      layout.assign g w held >>= layout.assign f v = .ok read

variable {layout}

@[simp] theorem assignAll_nil (held : σ) : layout.assignAll [] held = .ok held := rfl

theorem assignAll_cons (setting : φ × ν) (settings : List (φ × ν)) (held : σ) :
    layout.assignAll (setting :: settings) held =
      layout.assign setting.1 setting.2 held >>= layout.assignAll settings :=
  List.foldlM_cons

theorem named_cons_of_none {key : Text} (unknown : layout.fieldOf key = none) (v : ν)
    (members : List (Text × ν)) : layout.named ((key, v) :: members) = layout.named members := by
  simp [named, unknown]

theorem named_cons_of_some {key : Text} {field : φ} (names : layout.fieldOf key = some field)
    (v : ν) (members : List (Text × ν)) :
    layout.named ((key, v) :: members) = (field, v) :: layout.named members := by
  simp [named, names]

/-- The order of settings does not matter, if none is set twice. -/
theorem assignAll_perm (independent : layout.Independent) {settings settings' : List (φ × ν)}
    (perm : settings.Perm settings') (distinct : (settings.map Prod.fst).Nodup) {held read : σ}
    (done : layout.assignAll settings held = .ok read) :
    layout.assignAll settings' held = .ok read := by
  induction perm generalizing held with
  | nil => exact done
  | cons setting _ ih =>
    rw [assignAll_cons, bind_eq_ok_iff] at done ⊢
    obtain ⟨next, set, others⟩ := done
    exact ⟨next, set, ih (List.nodup_cons.mp distinct).2 others⟩
  | swap first second settings =>
    have other : second.1 ≠ first.1 := by
      intro same
      exact (List.nodup_cons.mp distinct).1 (same ▸ List.mem_cons_self)
    simp only [assignAll_cons, bind_eq_ok_iff] at done ⊢
    obtain ⟨one, set, next, set', others⟩ := done
    have both := independent other _ _ _ _ (bind_eq_ok_iff.mpr ⟨one, set, set'⟩)
    obtain ⟨one', set, set'⟩ := bind_eq_ok_iff.mp both
    exact ⟨one', set, next, set', others⟩
  | trans perm _ ih ih' => exact ih' ((perm.map Prod.fst).nodup_iff.mp distinct) (ih distinct done)

theorem assignAll_perm_iff (independent : layout.Independent) {settings settings' : List (φ × ν)}
    (perm : settings.Perm settings') (distinct : (settings.map Prod.fst).Nodup) {held read : σ} :
    layout.assignAll settings held = .ok read ↔ layout.assignAll settings' held = .ok read :=
  ⟨assignAll_perm independent perm distinct,
    assignAll_perm independent perm.symm ((perm.map Prod.fst).nodup_iff.mp distinct)⟩

/-- Items are settings of the first fields, as long as there are fields. -/
theorem readItems_eq_ok_iff {order : List φ} {items : List ν} (room : items.length ≤ order.length)
    {held : σ} {read : σ × List ν} :
    layout.readItems order items held = .ok read ↔
      read.2 = [] ∧ layout.assignAll (order.zip items) held = .ok read.1 := by
  induction items generalizing order held with
  | nil =>
    have none_left : layout.readItems order [] held = .ok (held, []) := by
      cases order <;> rfl
    rw [none_left, List.zip_nil_right, assignAll_nil]
    obtain ⟨result, surplus⟩ := read
    simp [eq_comm, and_comm]
  | cons v items ih =>
    cases order with
    | nil => exact absurd room (by simp)
    | cons field order =>
      rw [readItems, List.zip_cons_cons, assignAll_cons, bind_eq_ok_iff, bind_eq_ok_iff]
      have room : items.length ≤ order.length := Nat.le_of_succ_le_succ room
      simp only [ih room]
      grind

variable [Tree ν] [DecidableEq φ]

/-- What members are read as: what names no field is passed over, and the fields that are named,
each of them once and none of those met before, are set in turn. -/
theorem readMembers_eq_ok_iff {members : List (Text × ν)} {met : List φ} {held read : σ} :
    layout.readMembers members met held = .ok read ↔
      (∀ member ∈ members, layout.fieldOf member.1 = none → Tree.skip member.2 = .ok ()) ∧
      ((layout.named members).map Prod.fst).Nodup ∧
      (∀ setting ∈ layout.named members, setting.1 ∉ met) ∧
      layout.assignAll (layout.named members) held = .ok read := by
  induction members generalizing met held with
  | nil => simp [readMembers, named]
  | cons member members ih =>
    obtain ⟨key, v⟩ := member
    rw [readMembers, List.forall_mem_cons]
    cases known : layout.fieldOf key with
    | none =>
      simp only [named_cons_of_none known]
      rw [bind_eq_ok_iff]
      simp only [passing_eq_ok_iff, ih, true_implies]
      constructor
      · rintro ⟨⟨⟩, passed, others, rest⟩
        exact ⟨⟨passed, others⟩, rest⟩
      · rintro ⟨⟨passed, others⟩, rest⟩
        exact ⟨(), passed, others, rest⟩
    | some field =>
      have named_others : (∀ setting ∈ layout.named members, setting.1 ∉ field :: met) ↔
          field ∉ (layout.named members).map Prod.fst ∧
            ∀ setting ∈ layout.named members, setting.1 ∉ met := by
        simp only [List.mem_cons, not_or, List.mem_map, not_exists, not_and]
        constructor
        · intro fresh
          exact ⟨fun setting mem => (fresh setting mem).1, fun setting mem => (fresh setting mem).2⟩
        · rintro ⟨others, fresh⟩ setting mem
          exact ⟨others setting mem, fresh setting mem⟩
      simp only [named_cons_of_some known, List.map_cons, List.nodup_cons, List.forall_mem_cons,
        reduceCtorEq, false_implies, true_and, assignAll_cons]
      by_cases again : field ∈ met
      · simp [again]
      · rw [if_neg (by simpa using again), bind_eq_ok_iff, bind_eq_ok_iff]
        simp only [ih, named_others]
        grind

theorem read_record_eq_ok_iff {v : ν} {members : List (Text × ν)} {close : Except Fault Unit}
    (shape : (Tree.shape v : Shape ν) = .record members close) {start read : σ} :
    layout.read start v = .ok read ↔
      close = .ok () ∧
      (∀ member ∈ members, layout.fieldOf member.1 = none → Tree.skip member.2 = .ok ()) ∧
      ((layout.named members).map Prod.fst).Nodup ∧
      layout.assignAll (layout.named members) start = .ok read := by
  rw [Layout.read, shape]
  simp only [bind_eq_ok_iff, passing_eq_ok_iff, readMembers_eq_ok_iff]
  constructor
  · rintro ⟨held, ⟨passed, distinct, -, done⟩, ⟨⟩, closed, same⟩
    cases same
    exact ⟨closed, passed, distinct, done⟩
  · rintro ⟨closed, passed, distinct, done⟩
    exact ⟨read, ⟨passed, distinct, by simp, done⟩, (), closed, rfl⟩

theorem read_list_eq_ok_iff {v : ν} {items : List ν} {close : Except Fault Unit}
    (shape : (Tree.shape v : Shape ν) = .list items close)
    (room : items.length ≤ layout.order.length) {start read : σ} :
    layout.read start v = .ok read ↔
      close = .ok () ∧ layout.assignAll (layout.order.zip items) start = .ok read := by
  rw [Layout.read, shape]
  simp only [bind_eq_ok_iff, passing_eq_ok_iff, readItems_eq_ok_iff room]
  constructor
  · rintro ⟨⟨held, surplus⟩, ⟨rfl, done⟩, ⟨⟩, closed, same⟩
    cases same
    exact ⟨closed, done⟩
  · rintro ⟨closed, done⟩
    exact ⟨(read, []), ⟨rfl, done⟩, (), closed, rfl⟩

end Layout
end RemoteTerminal.Read
