import RemoteTerminal.Proofs.Options.Members
import RemoteTerminal.Proofs.Text.Digits
import RemoteTerminal.Proofs.Text.Trim
import Mathlib.Algebra.Group.Nat.Defs

/-!
# Which texts are heights

* `Fills`, `Counts`: the texts for the whole container, and for a number of pixels; no text is both.
* `parse_eq_fill_iff`, `parse_eq_pixels_iff`: exactly these are read as heights.
* `parse_decimal`: every count below the bound is read back from its decimal text, with or without
  its unit, whatever white space surrounds it.
* `accepted_text_height`, `read_text_height`: a text in place of a height never keeps options from
  being read, in JSON text or in a table.
-/

namespace RemoteTerminal

namespace Text

theorem dropTail_append (t tail : Text) : (t ++ tail).dropTail tail = t := by
  rw [dropTail, if_pos (List.isSuffixOf_iff_suffix.mpr (List.suffix_append t tail)),
    List.length_append, Nat.add_sub_cancel]
  exact List.take_left

theorem dropTail_of_not_suffix {t tail : Text} (other : ¬ tail <:+ t) : t.dropTail tail = t :=
  if_neg fun suffix => other (List.isSuffixOf_iff_suffix.mp suffix)

theorem digit_or_plus_of_spells {t : Text} {n : Nat} (spells : t.Spells n) :
    ∀ c ∈ t, c.isDigit = true ∨ c = '+' := by
  obtain ⟨digits, rfl | rfl, -, all, -⟩ := spells
  · exact fun c mem => .inl (all c mem)
  · intro c mem
    obtain rfl | mem := List.mem_cons.mp mem
    · exact .inr rfl
    · exact .inl (all c mem)

theorem range_of_spells {t : Text} {n : Nat} (spells : t.Spells n) {c : Char} (mem : c ∈ t) :
    43 ≤ c.toNat ∧ c.toNat ≤ 57 := by
  obtain digit | rfl := digit_or_plus_of_spells spells c mem
  · have range : 48 ≤ c.toNat ∧ c.toNat ≤ 57 := by
      simpa [Char.isDigit, UInt32.le_iff_toNat_le] using digit
    omega
  · decide

theorem trim_of_spells {t : Text} {n : Nat} (spells : t.Spells n) : t.trim = t := by
  refine trim_eq_self fun c mem => ?_
  have range := range_of_spells spells mem
  exact isBlank_of_printed (by omega) (by omega)

theorem asciiLower_of_spells {t : Text} {n : Nat} (spells : t.Spells n) : t.asciiLower = t := by
  refine (List.map_congr_left fun c mem => ?_).trans t.map_id
  have range := range_of_spells spells mem
  refine dif_neg fun upper => ?_
  have : 65 ≤ c.toNat := UInt32.le_iff_toNat_le.mp upper.1
  omega

theorem spells_decimal (n : Nat) : (decimal n).Spells n :=
  ⟨decimal n, .inl rfl, digits?_eq_some_iff.mp (digits?_decimal n)⟩

end Text

namespace Height

/-- A word for the whole container, in any case of its letters. -/
def Fills (t : Text) : Prop :=
  t.asciiLower = "fill".toList ∨ t.asciiLower = "100%".toList ∨ t.asciiLower = "auto".toList

/-- A count of pixels with at most one unit after it, and white space before the unit. -/
def Counts (t : Text) (n : Nat) : Prop :=
  ∃ body : Text, (t = body ∨ t = body ++ "px".toList) ∧ body.trim.Spells n ∧ n < 2 ^ 32

theorem fills_iff {t : Text} : Fills t ↔ keywords.contains t.asciiLower = true := by
  simp [Fills, keywords]

/-- Digits have no case, so no count of pixels is a word. -/
theorem not_fills_of_spells {t : Text} {n : Nat} (spells : t.Spells n) : ¬ Fills t := by
  have chars := Text.digit_or_plus_of_spells spells
  rw [Fills, Text.asciiLower_of_spells spells]
  rintro (rfl | rfl | rfl)
  · exact absurd (chars 'f' (by decide)) (by decide)
  · exact absurd (chars '%' (by decide)) (by decide)
  · exact absurd (chars 'a' (by decide)) (by decide)

/-- No word ends in the unit. -/
theorem not_fills_append (body : Text) : ¬ Fills (body ++ "px".toList) := by
  have ends : Text.asciiLower (body ++ "px".toList) = body.asciiLower ++ "px".toList := by
    rw [Text.asciiLower, List.map_append]
    rfl
  rw [Fills, ends]
  rintro (same | same | same)
  all_goals
    have last := congrArg List.getLast? same
    rw [List.getLast?_append] at last
    cases last

theorem not_suffix_of_spells {t : Text} {n : Nat} (spells : t.Spells n) : ¬ "px".toList <:+ t := by
  intro suffix
  exact absurd (Text.digit_or_plus_of_spells spells 'x' (suffix.subset (by decide))) (by decide)

/-- No text is both a word and a count of pixels. -/
theorem not_fills_of_counts {s : Text} {n : Nat} (counts : Counts s.trim n) : ¬ Fills s.trim := by
  obtain ⟨body, rfl_ | same, spells, -⟩ := counts
  · rw [← rfl_, Text.trim_trim] at spells
    exact not_fills_of_spells spells
  · rw [same]
    exact not_fills_append body

/-- **Which texts fill the container.** -/
theorem parse_eq_fill_iff {s : Text} : parse s = some .fill ↔ Fills s.trim := by
  rw [parse, fills_iff]
  split
  next word => exact ⟨fun _ => word, fun _ => rfl⟩
  next other =>
    refine ⟨fun filled => ?_, fun word => absurd word other⟩
    obtain ⟨n, -, same⟩ := Option.map_eq_some_iff.mp filled
    cases same

/-- **Which texts are counts of pixels.** -/
theorem parse_eq_pixels_iff {s : Text} {n : Nat} :
    parse s = some (.pixels n) ↔ Counts s.trim n := by
  constructor
  · intro counted
    rw [parse] at counted
    split at counted
    next word => cases counted
    next other =>
      obtain ⟨m, count, same⟩ := Option.map_eq_some_iff.mp counted
      cases same
      obtain ⟨spells, small⟩ := Text.count?_eq_some_iff.mp count
      by_cases suffix : "px".toList <:+ s.trim
      · obtain ⟨body, whole⟩ := suffix
        rw [← whole, Text.dropTail_append] at spells
        exact ⟨body, .inr whole.symm, spells, small⟩
      · rw [Text.dropTail_of_not_suffix suffix] at spells
        exact ⟨s.trim, .inl rfl, spells, small⟩
  · intro counts
    have other : ¬ keywords.contains s.trim.asciiLower = true :=
      fun word => not_fills_of_counts counts (fills_iff.mpr word)
    obtain ⟨body, whole, spells, small⟩ := counts
    have rest : (s.trim.dropTail "px".toList).trim = body.trim := by
      obtain whole | whole := whole
      · rw [← whole, Text.trim_trim] at spells
        rw [Text.dropTail_of_not_suffix (not_suffix_of_spells spells), whole]
      · rw [whole, Text.dropTail_append]
    have count : Text.count? bound body.trim = some n := Text.count?_eq_some_iff.mpr ⟨spells, small⟩
    rw [parse, if_neg other, rest, count]
    rfl

/-- **Every count is read back** from its decimal text, with or without its unit, whatever white
space stands around it. -/
theorem parse_decimal {n : Nat} (small : n < 2 ^ 32) {a b m : Text} (before : a.blank = true)
    (after : b.blank = true) (between : m.blank = true) :
    parse (a ++ Text.decimal n ++ b) = some (.pixels n) ∧
      parse (a ++ (Text.decimal n ++ m ++ "px".toList) ++ b) = some (.pixels n) := by
  have spells := Text.spells_decimal n
  have trimmed : Text.Trimmed (Text.decimal n) := (Text.trim_of_spells spells) ▸ Text.trimmed_trim _
  rw [Text.blank_iff] at before after between
  rw [parse_eq_pixels_iff, parse_eq_pixels_iff]
  constructor
  · rw [Text.trim_surrounded before after trimmed]
    exact ⟨_, .inl rfl, (Text.trim_of_spells spells).symm ▸ spells, small⟩
  · have whole : Text.Trimmed (Text.decimal n ++ m ++ "px".toList) := by
      constructor
      · intro c first
        have some_digits : Text.decimal n ≠ [] := Nat.toDigits_ne_nil
        rw [List.append_assoc, List.head?_append_of_ne_nil _ some_digits] at first
        exact trimmed.1 c first
      · intro c last
        rw [List.getLast?_append] at last
        cases last
        decide
    rw [Text.trim_surrounded before after whole]
    refine ⟨_, .inr rfl, ?_, small⟩
    rw [← List.nil_append (Text.decimal n), Text.trim_surrounded (by simp) between trimmed]
    exact spells

end Height

namespace Options

open Json (IsObject nodeOf leafOf)
open Read (bind_eq_ok_iff)

section
variable {ν : Type} [Tree ν]

/-- A text sets the height to what it means, and never fails to. -/
theorem assign_text {w : ν} {s : Text} (shape : (Tree.shape w : Shape ν) = .text s)
    (scanned : Tree.scan w = .ok ()) (held : Options) :
    assign .maxHeight w held = .ok { held with maxHeight := some (.ofText s) } := by
  have read : Read.optional Read.height w = .ok (some (.ofText s)) := by
    rw [Read.optional, shape]
    simp only [Read.height, scanned, shape]
    rfl
  rw [assign, read]
  rfl

/-- A text in place of the height, and what else is set. -/
theorem assignAll_text_iff {w : ν} {s : Text} (shape : (Tree.shape w : Shape ν) = .text s)
    (scanned : Tree.scan w = .ok ()) {settings : List (Field × ν)}
    (fresh : Field.maxHeight ∉ settings.map Prod.fst) {o : Options} :
    ((((Field.maxHeight, w) :: settings).map Prod.fst).Nodup ∧
      layout.assignAll ((.maxHeight, w) :: settings) unset = .ok o) ↔
      ∃ held, ((settings.map Prod.fst).Nodup ∧ layout.assignAll settings unset = .ok held) ∧
        { held with maxHeight := some (.ofText s) } = o := by
  have distinct_iff : (((Field.maxHeight, w) :: settings).map Prod.fst).Nodup ↔
      (settings.map Prod.fst).Nodup := by
    rw [List.map_cons, List.nodup_cons, and_iff_right fresh]
  have last : ((Field.maxHeight, w) :: settings).Perm (settings ++ [(Field.maxHeight, w)]) :=
    (List.perm_append_singleton _ _).symm
  simp only [and_assoc, exists_and_left, ← distinct_iff]
  refine and_congr_right fun distinct => ?_
  rw [Read.Layout.assignAll_perm_iff assign_independent last distinct, Read.Layout.assignAll,
    List.foldlM_append, bind_eq_ok_iff]
  refine exists_congr fun held => and_congr_right fun _ => ?_
  rw [List.foldlM_cons]
  show (assign .maxHeight w held >>= fun held => pure held) = .ok o ↔ _
  rw [assign_text shape scanned]
  constructor <;>
  · rintro ⟨⟩
    rfl

end

/-- **A text in place of the height never keeps an object from being read**: one that is no height
fills the container. -/
theorem accepted_text_height {t t' key value s : Text} {before after : List (Text × Text)}
    (object : IsObject t (before ++ (key, value) :: after))
    (object' : IsObject t' (before ++ after))
    (names : Names key .maxHeight) (spells : Json.Spells value s)
    (single : ∀ member ∈ before ++ after, ¬ Names member.1 .maxHeight) :
    accepted t =
      (accepted t').map fun o => { o with maxHeight := some ((Height.parse s).getD .fill) } := by
  have shape : (Tree.shape (nodeOf value) : Shape Json.Node) = .text s := by
    rw [Json.nodeOf_spells spells]
    rfl
  have scanned : Tree.scan (nodeOf value) = .ok () := by
    rw [Json.nodeOf_spells spells]
    rfl
  ext o
  rw [accepted_eq_some_iff, Option.map_eq_some_iff, ofJson_moved_iff object names,
    assignAll_text_iff shape scanned (fresh_of_single object' single)]
  simp only [accepted_eq_some_iff, ofJson_object_iff object', and_assoc, exists_and_left]
  rfl

/-- What a table is read as. -/
theorem read_table_iff {members : List (Text × Toml.Value)} {o : Options} :
    read (Toml.Value.table members) = .ok o ↔
      ((layout.named members).map Prod.fst).Nodup ∧
      layout.assignAll (layout.named members) unset = .ok o := by
  have shape :
      (Tree.shape (Toml.Value.table members) : Shape Toml.Value) = .record members (.ok ()) := rfl
  rw [read, Read.Layout.read_record_eq_ok_iff shape]
  exact ⟨fun ⟨_, _, rest⟩ => rest, fun rest => ⟨rfl, fun _ _ _ => rfl, rest⟩⟩

/-- An entry that names a field is as good as the first entry. -/
theorem read_table_moved_iff {name : Text} {field : Field} (spelled : name ∈ field.spellings)
    {value : Toml.Value} {before after : List (Text × Toml.Value)} {o : Options} :
    read (Toml.Value.table (before ++ (name, value) :: after)) = .ok o ↔
      (((field, value) :: layout.named (before ++ after)).map Prod.fst).Nodup ∧
      layout.assignAll ((field, value) :: layout.named (before ++ after)) unset = .ok o := by
  have moved : (layout.named (before ++ (name, value) :: after)).Perm
      ((field, value) :: layout.named (before ++ after)) := by
    rw [← Read.Layout.named_cons_of_some (fieldOf_eq_some_iff.mpr spelled)]
    exact List.perm_middle.filterMap _
  rw [read_table_iff, (moved.map Prod.fst).nodup_iff]
  refine and_congr_right fun distinct => ?_
  exact (Read.Layout.assignAll_perm_iff assign_independent moved.symm distinct).symm

/-- **A text in place of the height never keeps a table from being read.** -/
theorem read_text_height {name s : Text} {before after : List (Text × Toml.Value)}
    (spelled : name ∈ Field.maxHeight.spellings)
    (single : ∀ member ∈ before ++ after, member.1 ∉ Field.maxHeight.spellings) :
    (read (Toml.Value.table (before ++ (name, .text s) :: after))).toOption =
      (read (Toml.Value.table (before ++ after))).toOption.map fun o =>
        { o with maxHeight := some ((Height.parse s).getD .fill) } := by
  have fresh : .maxHeight ∉ (layout.named (before ++ after)).map Prod.fst := by
    intro again
    obtain ⟨⟨field, _⟩, setting, rfl⟩ := List.mem_map.mp again
    obtain ⟨member, mem, found⟩ := List.mem_filterMap.mp setting
    obtain ⟨_, named, same⟩ := Option.map_eq_some_iff.mp found
    cases same
    exact single member mem (fieldOf_eq_some_iff.mp named)
  ext o
  rw [Read.toOption_eq_some_iff, Option.map_eq_some_iff, read_table_moved_iff spelled,
    assignAll_text_iff rfl rfl fresh]
  simp only [Read.toOption_eq_some_iff, read_table_iff]
  rfl

end Options

namespace Height

open Json (IsObject)
open Options (Field Names accepted)

/-- **Texts are read as heights by one grammar.** A text without the white space around it fills the
container if it is one of three words, is a number of pixels if it counts them, and is no height
otherwise. So every count is read back from its decimal text, and a text in place of a height sets
the height and never fails to, whatever else an object or a table sets. -/
theorem texts_read_by_grammar :
    (∀ s, parse s = some .fill ↔ Fills s.trim) ∧
    (∀ s n, parse s = some (.pixels n) ↔ Counts s.trim n) ∧
    (∀ s, parse s = none ↔ ¬ Fills s.trim ∧ ∀ n, ¬ Counts s.trim n) ∧
    (∀ n < 2 ^ 32, ∀ a b m : Text, a.blank = true → b.blank = true → m.blank = true →
      parse (a ++ Text.decimal n ++ b) = some (.pixels n) ∧
      parse (a ++ (Text.decimal n ++ m ++ "px".toList) ++ b) = some (.pixels n)) ∧
    (∀ {ν : Type} [Tree ν] (w : ν) (s : Text) (held : Options),
      (Tree.shape w : Shape ν) = .text s → Tree.scan w = .ok () →
      Options.assign .maxHeight w held =
        .ok { held with maxHeight := some ((parse s).getD .fill) }) ∧
    (∀ {t t' key value s : Text} {before after : List (Text × Text)},
      IsObject t (before ++ (key, value) :: after) → IsObject t' (before ++ after) →
      Names key .maxHeight → Json.Spells value s →
      (∀ member ∈ before ++ after, ¬ Names member.1 .maxHeight) →
      accepted t =
        (accepted t').map fun o => { o with maxHeight := some ((parse s).getD .fill) }) ∧
    (∀ {name s : Text} {before after : List (Text × Toml.Value)}, name ∈ Field.maxHeight.spellings →
      (∀ member ∈ before ++ after, member.1 ∉ Field.maxHeight.spellings) →
      (Options.read (Toml.Value.table (before ++ (name, .text s) :: after))).toOption =
        (Options.read (Toml.Value.table (before ++ after))).toOption.map fun o =>
          { o with maxHeight := some ((parse s).getD .fill) }) := by
  refine ⟨fun s => parse_eq_fill_iff, fun s n => parse_eq_pixels_iff, fun s => ?_, ?_,
    fun w s held shape scanned => Options.assign_text shape scanned held,
    Options.accepted_text_height, Options.read_text_height⟩
  · rw [← parse_eq_fill_iff]
    simp only [← parse_eq_pixels_iff]
    cases parse s with
    | none => simp
    | some height => cases height <;> simp
  · intro n small a b m before after between
    exact parse_decimal small before after between

/-- A word in capitals, a count with leading zeros, the greatest count with its unit, and a text
that is no height in an object and in a table. -/
theorem tall_fills_container :
    let tall : Text × Text := ("\"maxHeight\"".toList, "\"tall\"".toList)
    parse " AuTo ".toList = some .fill ∧ parse "+007 px".toList = some (.pixels 7) ∧
      parse "tall".toList = none ∧
      parse (['\t'] ++ (Text.decimal 4294967295 ++ [' '] ++ "px".toList) ++ ['\n']) =
        some (.pixels 4294967295) ∧
      Options.assign .maxHeight (Toml.Value.text "tall".toList) .unset =
        .ok { maxHeight := some .fill } ∧
      accepted (Json.compactObject [tall]) = some { maxHeight := some .fill } ∧
      (Options.read (Toml.Value.table [("max_height".toList, .text "tall".toList)])).toOption =
        some { maxHeight := some .fill } := by
  intro tall
  have named : Json.Spells tall.1 "maxHeight".toList :=
    @Json.spells_plain "maxHeight".toList rfl
  have spells : Json.Spells tall.2 "tall".toList := @Json.spells_plain "tall".toList rfl
  have object := Json.isObject_compact [tall] (by simpa using named.isString)
    (by simpa using .string spells.isString)
  have empty := Json.isObject_compact [] (by simp) (by simp)
  have spelled : "max_height".toList ∈ Field.maxHeight.spellings := by decide
  obtain ⟨fills, counts, neither, decimal, assigned, in_object, in_table⟩ := texts_read_by_grammar
  refine ⟨(fills _).mpr (.inr (.inr rfl)),
    (counts _ _).mpr ⟨"+007 ".toList, .inr rfl, ?_, by decide⟩, rfl,
    (decimal _ (by decide) _ _ _ rfl rfl rfl).2,
    assigned (Toml.Value.text "tall".toList) "tall".toList .unset rfl rfl,
    @in_object _ _ _ _ _ [] [] object empty ⟨_, named, by decide⟩ spells (by simp),
    @in_table _ _ [] [] spelled (by simp)⟩
  exact ⟨"007".toList, .inr rfl, by simp, List.all_eq_true.mp rfl, rfl⟩

end Height
end RemoteTerminal
