import RemoteTerminal.Proofs.CommandLine.Items
import RemoteTerminal.Proofs.Text.Trim
import Mathlib.Data.List.Forall2
import Mathlib.Data.List.Induction

/-!
# The fields that a command line posts

Each value of `--post` `Holds` a field. What is posted (`posts`) goes its own way beside the other
items (`unposted`) of a command line.

* `postField_eq_ok_iff`, `exists_postField_iff`: which values hold a field that can be posted.
* `spelled_posts`, `exists_spelled_unposted`: any values can be given to `--post`, and what is left
  without them is a command line.
* `ofItems?_eq_some_iff`: the other items come to what they come to alone, and each value must hold
  a field. So it is with the command line (`read_posted_iff`).
* `get?_posted_iff`: of the fields of one name the one that is held last counts.
-/

namespace RemoteTerminal

namespace Fields

theorem ofList_concat (pairs : List (Text × Text)) (name value : Text) :
    ofList (pairs ++ [(name, value)]) = (ofList pairs).insert name value :=
  List.foldl_concat ..

theorem get?_ofList (pairs : List (Text × Text)) (name : Text) :
    (ofList pairs).get? name = pairs.reverse.lookup name := by
  induction pairs using List.reverseRecOn with
  | nil => rfl
  | append_singleton pairs pair ih =>
    obtain ⟨last, value⟩ := pair
    rw [ofList_concat, get?_insert, List.reverse_concat, List.lookup_cons]
    by_cases same : name = last
    · simp [same]
    · have other : (name == last) = false := by simp [same]
      rw [if_neg same, ih, other]

/-- The last pair of a name counts. -/
theorem get?_ofList_iff {pairs : List (Text × Text)} {name value : Text} :
    (ofList pairs).get? name = some value ↔
      ∃ before after, pairs = before ++ (name, value) :: after ∧ ∀ pair ∈ after, pair.1 ≠ name := by
  rw [get?_ofList, List.lookup_eq_some_iff]
  constructor
  · rintro ⟨after, before, backward, others⟩
    refine ⟨before.reverse, after.reverse, ?_, fun pair mem => ?_⟩
    · rw [← List.reverse_reverse pairs, backward]
      simp
    · exact (bne_iff_ne.mp (others pair (List.mem_reverse.mp mem))).symm
  · rintro ⟨before, after, rfl, others⟩
    refine ⟨after.reverse, before.reverse, by simp, fun pair mem => ?_⟩
    exact bne_iff_ne.mpr (others pair (List.mem_reverse.mp mem)).symm

end Fields

namespace CommandLine

/-! ## One value -/

/-- The field that a value holds: the text before its first `=`, trimmed, names it, and the text
after that `=` is its value, as it is. -/
def Holds (raw name value : Text) : Prop :=
  ∃ start, '=' ∉ start ∧ raw = start ++ '=' :: value ∧ start.trim = name

theorem holds_iff {raw name value : Text} :
    Holds raw name value ↔ ∃ start, raw.cut? '=' = some (start, value) ∧ start.trim = name := by
  simp only [Holds, Text.cut?_eq_some_iff, and_assoc]

/-- A value holds one field at most. -/
theorem Holds.unique {raw name value name' value' : Text} (h : Holds raw name value)
    (h' : Holds raw name' value') : name = name' ∧ value = value' := by
  obtain ⟨start, cut, rfl⟩ := holds_iff.mp h
  obtain ⟨start', cut', rfl⟩ := holds_iff.mp h'
  rw [cut] at cut'
  cases cut'
  exact ⟨rfl, rfl⟩

theorem postField_eq_ok_iff {raw name value : Text} :
    postField raw = .ok (name, value) ↔ Holds raw name value ∧ name ≠ [] := by
  rw [holds_iff]
  unfold postField
  cases raw.cut? '=' with
  | none => simp
  | some parts =>
    obtain ⟨start, rest⟩ := parts
    dsimp only
    by_cases blank : start.trim = []
    · rw [blank]
      constructor
      · intro read
        cases read
      · rintro ⟨⟨_, same, rfl⟩, shown⟩
        cases same
        exact absurd blank shown
    · rw [if_neg (by simpa using blank)]
      constructor
      · intro read
        cases read
        exact ⟨⟨start, rfl, rfl⟩, blank⟩
      · rintro ⟨⟨_, same, rfl⟩, -⟩
        cases same
        rfl

/-- A value is accepted where it holds `=` and not just white space before the first one. -/
theorem exists_postField_iff {raw : Text} :
    (∃ pair, postField raw = .ok pair) ↔
      ∃ start value, raw = start ++ '=' :: value ∧ '=' ∉ start ∧
        ∃ c ∈ start, Text.isBlank c = false := by
  have shown_iff (start : Text) : start.trim ≠ [] ↔ ∃ c ∈ start, Text.isBlank c = false := by
    have blank := @Text.blank_iff start
    rw [Text.blank, List.isEmpty_iff] at blank
    simp [ne_eq, blank]
  constructor
  · rintro ⟨⟨name, value⟩, read⟩
    obtain ⟨⟨start, whole, rfl, rfl⟩, shown⟩ := postField_eq_ok_iff.mp read
    exact ⟨start, value, rfl, whole, (shown_iff start).mp shown⟩
  · rintro ⟨start, value, rfl, whole, shown⟩
    exact ⟨(start.trim, value), postField_eq_ok_iff.mpr
      ⟨⟨start, whole, rfl, rfl⟩, (shown_iff start).mpr shown⟩⟩

/-! ## The values of a command line -/

/-- The value that an item gives to `--post`. -/
def Item.post? : Item → Option Text
  | .setting .post raw => some raw
  | _ => none

/-- The values that items give to `--post`, in their order. -/
def posts (items : List Item) : List Text := items.filterMap Item.post?

/-- The other items. -/
def unposted (items : List Item) : List Item := items.filter fun item => item.post?.isNone

/-- What is left of a command line without what it posts is a command line. -/
theorem exists_spelled_unposted {items : List Item} {arguments : List Text}
    (spelled : Spelled items arguments) : ∃ others, Spelled (unposted items) others := by
  induction spelled with
  | nil | closed => exact ⟨[], .nil⟩
  | last value => exact ⟨_, .last value⟩
  | @cons item items _ _ spelling _ ih =>
    obtain ⟨others, left⟩ := ih
    unfold unposted at left ⊢
    rw [List.filter_cons]
    split
    · exact ⟨_, .cons spelling left⟩
    · exact ⟨others, left⟩

/-- Whatever the values, they can be posted, each in an argument of its own. -/
theorem spelled_posts (raws : List Text) {items : List Item} {arguments : List Text}
    (spelled : Spelled items arguments) :
    Spelled (raws.map (.setting .post) ++ items)
      (raws.map ("--post=".toList ++ ·) ++ arguments) := by
  induction raws with
  | nil => exact spelled
  | cons raw raws ih =>
    have named : Named .post ('-' :: '-' :: "post".toList) := .long rfl
    have first : Spelling (.setting .post raw) ["--post=".toList ++ raw] := .joined named raw
    have all := Spelled.cons first ih
    exact all

/-- Values and the fields that they hold. -/
abbrev Posted : List Text → List (Text × Text) → Prop :=
  List.Forall₂ fun raw pair => postField raw = .ok pair

/-- What is posted makes no difference to the other items. -/
theorem say?_unposted {item : Item} (other : item.post? = none) (line : CommandLine)
    (post : List (Text × Text)) :
    ({ line with post } : CommandLine).say? item =
      (line.say? item).map fun next => { next with post } := by
  cases item with
  | flag flag =>
    show (raise { line with post } flag).toOption = (line.raise flag).toOption.map _
    cases flag with
    | help | version => rfl
    | _ =>
      unfold raise
      dsimp only
      split <;> rfl
  | setting setting value =>
    show (give { line with post } setting value).toOption = (line.give setting value).toOption.map _
    unfold give
    have holds : holds { line with post } setting = line.holds setting := by cases setting <;> rfl
    rw [holds]
    split
    next => rfl
    next =>
      unfold assign
      cases setting with
      | post => cases other
      | tabWidth | timeout =>
        dsimp only
        cases count value <;> rfl
      | _ => rfl

theorem say?_post (line : CommandLine) (raw : Text) :
    line.say? (.setting .post raw) =
      (postField raw).toOption.map fun pair => { line with post := line.post ++ [pair] } := by
  show (line.assign .post raw).toOption = _
  unfold assign
  dsimp only
  cases postField raw <;> rfl

theorem foldlM_posts {items : List Item} {line next : CommandLine} {post : List (Text × Text)} :
    items.foldlM say? { line with post } = some next ↔
      ∃ other pairs, (unposted items).foldlM say? line = some other ∧ Posted (posts items) pairs ∧
        next = { other with post := post ++ pairs } := by
  induction items generalizing line post with
  | nil =>
    constructor
    · rintro ⟨⟩
      exact ⟨line, [], rfl, .nil, by rw [List.append_nil]⟩
    · rintro ⟨_, _, ⟨⟩, ⟨⟩, rfl⟩
      rw [List.append_nil]
      rfl
  | cons item items ih =>
    rw [List.foldlM_cons]
    cases posted : item.post? with
    | none =>
      have values : posts (item :: items) = posts items := List.filterMap_cons_none posted
      have others : unposted (item :: items) = item :: unposted items :=
        List.filter_cons_of_pos (by rw [posted]; rfl)
      rw [say?_unposted posted, values, others, List.foldlM_cons]
      cases line.say? item with
      | none => exact iff_of_false nofun (by rintro ⟨_, _, ⟨⟩, -⟩)
      | some mid => exact ih
    | some raw =>
      obtain rfl : item = .setting .post raw := by
        unfold Item.post? at posted
        split at posted <;> cases posted
        rfl
      have values : posts (.setting .post raw :: items) = raw :: posts items := rfl
      have others : unposted (.setting .post raw :: items) = unposted items := rfl
      rw [say?_post, values, others]
      cases field : postField raw with
      | error fault =>
        refine iff_of_false nofun ?_
        rintro ⟨other, pairs, -, read, -⟩
        obtain ⟨pair, _, first, -⟩ := List.forall₂_cons_left_iff.mp read
        rw [field] at first
        cases first
      | ok pair =>
        refine Iff.trans (@ih line (post ++ [pair])) ?_
        constructor
        · rintro ⟨other, pairs, comes, read, rfl⟩
          exact ⟨other, pair :: pairs, comes, .cons field read, by simp⟩
        · rintro ⟨other, _, comes, read, rfl⟩
          obtain ⟨_, pairs, first, later, rfl⟩ := List.forall₂_cons_left_iff.mp read
          rw [field] at first
          cases first
          exact ⟨other, pairs, comes, later, by simp⟩

/-- The items of a command line come to what those that are not posted come to alone, together with
the fields that are posted. -/
theorem ofItems?_eq_some_iff {items : List Item} {line : CommandLine} :
    ofItems? items = some line ↔
      ∃ other pairs, ofItems? (unposted items) = some other ∧ Posted (posts items) pairs ∧
        line = { other with post := pairs } :=
  @foldlM_posts items {} line []

/-! ## What is posted -/

/-- The field of a name that values hold: that of the last value with a field of the name. -/
def HoldLast (raws : List Text) (name value : Text) : Prop :=
  ∃ before raw after, raws = before ++ raw :: after ∧ Holds raw name value ∧
    ∀ later ∈ after, ∀ other, ¬ Holds later name other

theorem exists_posted_iff {raws : List Text} :
    (∃ pairs, Posted raws pairs) ↔ ∀ raw ∈ raws, ∃ pair, postField raw = .ok pair := by
  induction raws with
  | nil => exact iff_of_true ⟨[], .nil⟩ nofun
  | cons raw raws ih =>
    rw [List.forall_mem_cons, ← ih]
    constructor
    · rintro ⟨_, read⟩
      obtain ⟨pair, pairs, first, others, -⟩ := List.forall₂_cons_left_iff.mp read
      exact ⟨⟨pair, first⟩, pairs, others⟩
    · rintro ⟨⟨pair, first⟩, pairs, others⟩
      exact ⟨pair :: pairs, .cons first others⟩

theorem exists_of_forall₂_append {α β : Type} {r : α → β → Prop} {before after : List α} {a : α}
    {bs : List β} (related : List.Forall₂ r (before ++ a :: after) bs) :
    ∃ before' b after', bs = before' ++ b :: after' ∧ r a b ∧ List.Forall₂ r after after' := by
  induction before generalizing bs with
  | nil =>
    obtain ⟨b, after', first, others, rfl⟩ := List.forall₂_cons_left_iff.mp related
    exact ⟨[], b, after', rfl, first, others⟩
  | cons _ before ih =>
    obtain ⟨c, _, -, later, rfl⟩ := List.forall₂_cons_left_iff.mp related
    obtain ⟨before', b, after', rfl, here, others⟩ := ih later
    exact ⟨c :: before', b, after', rfl, here, others⟩

/-- Of values and their fields, one has a field of a name where the other is one of the name. -/
theorem forall_not_holds_iff {raws : List Text} {pairs : List (Text × Text)}
    (read : Posted raws pairs) (name : Text) :
    (∀ raw ∈ raws, ∀ value, ¬ Holds raw name value) ↔ ∀ pair ∈ pairs, pair.1 ≠ name := by
  induction read with
  | nil => exact iff_of_true nofun nofun
  | @cons raw pair raws pairs first _ ih =>
    have holds := (postField_eq_ok_iff.mp first).1
    have here : (∀ value, ¬ Holds raw name value) ↔ pair.1 ≠ name := by
      constructor
      · rintro none rfl
        exact none _ holds
      · exact fun other value same => other (holds.unique same).1
    rw [List.forall_mem_cons, List.forall_mem_cons, here, ih]

/-- The fields that are posted are those that the values hold last. -/
theorem get?_posted_iff {raws : List Text} {pairs : List (Text × Text)} (read : Posted raws pairs)
    {name value : Text} :
    (Fields.ofList pairs).get? name = some value ↔ HoldLast raws name value := by
  rw [Fields.get?_ofList_iff]
  constructor
  · rintro ⟨before, after, rfl, others⟩
    obtain ⟨before', raw, after', rfl, first, later⟩ := exists_of_forall₂_append read.flip
    refine ⟨before', raw, after', rfl, (postField_eq_ok_iff.mp first).1, ?_⟩
    exact (forall_not_holds_iff later.flip name).mpr others
  · rintro ⟨before, raw, after, rfl, holds, others⟩
    obtain ⟨before', pair, after', rfl, first, later⟩ := exists_of_forall₂_append read
    obtain ⟨rfl, rfl⟩ := (postField_eq_ok_iff.mp first).1.unique holds
    exact ⟨before', after', rfl, (forall_not_holds_iff later _).mp others⟩

/-! ## The command line -/

variable {items : List Item} {arguments others : List Text} {base : CommandLine}

/-- Where a command line is read without what it posts, it is read if each value holds a field that
can be posted. -/
theorem read_posted_iff (spelled : Spelled items arguments)
    (apart : Spelled (unposted items) others) (accepted : read others = .ok base)
    {line : CommandLine} :
    read arguments = .ok line ↔
      ∃ pairs, Posted (posts items) pairs ∧ line = { base with post := pairs } := by
  have comes : ofItems? (unposted items) = some base := (read_spelled_iff apart).mp accepted
  rw [read_spelled_iff spelled, ofItems?_eq_some_iff]
  constructor
  · rintro ⟨other, pairs, same, read, rfl⟩
    rw [comes] at same
    cases same
    exact ⟨pairs, read, rfl⟩
  · rintro ⟨pairs, read, rfl⟩
    exact ⟨base, pairs, comes, read, rfl⟩

theorem exists_read_posted_iff (spelled : Spelled items arguments)
    (apart : Spelled (unposted items) others) (accepted : read others = .ok base) :
    (∃ line, read arguments = .ok line) ↔
      ∀ raw ∈ posts items, ∃ start value, raw = start ++ '=' :: value ∧ '=' ∉ start ∧
        ∃ c ∈ start, Text.isBlank c = false := by
  simp only [read_posted_iff spelled apart accepted, ← exists_postField_iff, ← exists_posted_iff]
  constructor
  · rintro ⟨_, pairs, read, -⟩
    exact ⟨pairs, read⟩
  · rintro ⟨pairs, read⟩
    exact ⟨_, pairs, read, rfl⟩

end CommandLine
end RemoteTerminal
