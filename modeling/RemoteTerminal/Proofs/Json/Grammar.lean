import RemoteTerminal.Proofs.Json.Leaves
import Mathlib.Data.List.TakeWhile

/-!
# Values in JSON text

What a value, an array and an object look like, and that each is read to its end.

* `Items`, `Members`: what stands between brackets, and between braces; `IsValue`: values.
* `IsArray`, `IsObject`: a whole text, with white space around what it holds.
* `reads_value`: a value that what follows it ends is read as one tree (`nodeOf`), which can be
  passed over.
* `parse_array`, `parse_object`: what a whole text is read as.
* `isArray_compact`, `isObject_compact`: all items and members can be written.
-/

namespace RemoteTerminal.Json

/-! ## What values look like -/

/-- White space. -/
def Spaces (t : Text) : Prop := ∀ c ∈ t, isSpace c = true

/-- Items with a comma between any two. -/
inductive Items : Text → List Text → Prop
  | last {before item after : Text} (left : Spaces before) (right : Spaces after) :
      Items (before ++ (item ++ after)) [item]
  | more {before item after t : Text} {items : List Text} (left : Spaces before)
      (right : Spaces after) (others : Items t items) :
      Items (before ++ (item ++ (after ++ ',' :: t))) (item :: items)

/-- Members with a comma between any two, each a key, a colon and an item. -/
inductive Members : Text → List (Text × Text) → Prop
  | last {before key middle lead item after : Text} (left : Spaces before) (mid : Spaces middle)
      (leading : Spaces lead) (right : Spaces after) :
      Members (before ++ (key ++ (middle ++ ':' :: (lead ++ (item ++ after))))) [(key, item)]
  | more {before key middle lead item after t : Text} {members : List (Text × Text)}
      (left : Spaces before) (mid : Spaces middle) (leading : Spaces lead) (right : Spaces after)
      (others : Members t members) :
      Members (before ++ (key ++ (middle ++ ':' :: (lead ++ (item ++ (after ++ ',' :: t))))))
        ((key, item) :: members)

/-- A list of items in brackets. -/
def Listed (t : Text) (items : List Text) : Prop :=
  ∃ inside, t = '[' :: (inside ++ [']']) ∧ (items = [] ∧ Spaces inside ∨ Items inside items)

/-- A record of members in braces. -/
def Recorded (t : Text) (members : List (Text × Text)) : Prop :=
  ∃ inside, t = '\x7b' :: (inside ++ ['\x7d']) ∧
    (members = [] ∧ Spaces inside ∨ Members inside members)

/-- A value as it is written. -/
inductive IsValue : Text → Prop
  | null : IsValue "null".toList
  | yes : IsValue "true".toList
  | no : IsValue "false".toList
  | number {t : Text} (number : IsNumber t) : IsValue t
  | string {t : Text} (written : IsString t) : IsValue t
  | list {t : Text} {items : List Text} (listed : Listed t items)
      (values : ∀ item ∈ items, IsValue item) : IsValue t
  | record {t : Text} {members : List (Text × Text)} (recorded : Recorded t members)
      (keys : ∀ member ∈ members, IsString member.1)
      (values : ∀ member ∈ members, IsValue member.2) : IsValue t

/-- A whole text that is an array. -/
structure IsArray (t : Text) (items : List Text) : Prop where
  written : ∃ before list after, Spaces before ∧ Listed list items ∧ Spaces after ∧
    t = before ++ (list ++ after)
  values : ∀ item ∈ items, IsValue item

/-- A whole text that is an object. -/
structure IsObject (t : Text) (members : List (Text × Text)) : Prop where
  written : ∃ before record after, Spaces before ∧ Recorded record members ∧ Spaces after ∧
    t = before ++ (record ++ after)
  keys : ∀ member ∈ members, IsString member.1
  values : ∀ member ∈ members, IsValue member.2

/-! ## White space -/

theorem skipSpace_spaces {before : Text} (left : Spaces before) (t : Text) :
    skipSpace (before ++ t) = skipSpace t := List.dropWhile_append_of_pos left

theorem skipSpace_all {t : Text} (space : Spaces t) : skipSpace t = [] :=
  List.dropWhile_eq_nil_iff.mpr space

theorem skipSpace_cons {c : Char} (shown : isSpace c = false) (t : Text) :
    skipSpace (c :: t) = c :: t := List.dropWhile_cons_of_neg (by simp [shown])

theorem parseValue_spaces {before : Text} (left : Spaces before) (fuel : Nat) (t : Text) :
    parseValue fuel (before ++ t) = parseValue fuel t := by
  cases fuel with
  | zero => rfl
  | succ fuel => rw [parseValue, parseValue, skipSpace_spaces left]

theorem parseItems_spaces {before : Text} (left : Spaces before) (fuel : Nat) (t : Text) :
    parseItems fuel (before ++ t) = parseItems fuel t := by
  cases fuel with
  | zero => rfl
  | succ fuel => rw [parseItems, parseItems, parseValue_spaces left]

theorem parseMembers_spaces {before : Text} (left : Spaces before) (fuel : Nat) (t : Text) :
    parseMembers fuel (before ++ t) = parseMembers fuel t := by
  cases fuel with
  | zero => rfl
  | succ fuel => rw [parseMembers, parseMembers, skipSpace_spaces left]

theorem Ends.of_mark {c : Char} {rest : Text} (mark : c = ',' ∨ c = ']' ∨ c = '\x7d') :
    Ends (c :: rest) := by
  rintro _ ⟨⟩
  exact .inr mark

theorem ends_spaces {after rest : Text} (right : Spaces after) (ends : Ends rest) :
    Ends (after ++ rest) := by
  cases after with
  | nil => exact ends
  | cons c after =>
    rintro _ ⟨⟩
    exact .inl (right c (.head _))

theorem afterPart_done {after : Text} (right : Spaces after) (closing : Char)
    (shown : isSpace closing = false) (rest : Text) :
    afterPart closing (after ++ closing :: rest) = .done rest := by
  rw [afterPart, skipSpace_spaces right, skipSpace_cons shown]
  exact if_pos rfl

theorem afterPart_next {after : Text} (right : Spaces after) (closing : Char)
    (other : ',' ≠ closing) (rest : Text) :
    afterPart closing (after ++ ',' :: rest) = .next rest := by
  rw [afterPart, skipSpace_spaces right, skipSpace_cons rfl]
  exact (if_neg other).trans (if_pos rfl)

/-! ## Reading values -/

/-- The tree of a value. -/
def nodeOf (t : Text) : Node := (parse t).root

/-- A text is read as a tree that can be passed over, whatever ends it. -/
structure Reads (t : Text) : Prop where
  first : ∃ c inner, t = c :: inner ∧ isSpace c = false ∧ c ≠ ']'
  passed : (nodeOf t).skip = .ok ()
  whole : ∀ fuel rest, 2 * t.length ≤ fuel → Ends rest →
    parseValue fuel (t ++ rest) = (nodeOf t, rest)

theorem ends_nil : Ends [] := by
  rintro c ⟨⟩

/-- Whatever tree a text is read as, that is its tree. -/
theorem Reads.of_node {t : Text} (node : Node)
    (first : ∃ c inner, t = c :: inner ∧ isSpace c = false ∧ c ≠ ']') (passed : node.skip = .ok ())
    (whole : ∀ fuel rest, 2 * t.length ≤ fuel → Ends rest →
      parseValue fuel (t ++ rest) = (node, rest)) : Reads t := by
  have same : nodeOf t = node := by
    have read := whole (2 * t.length + 2) [] (by omega) ends_nil
    rw [List.append_nil] at read
    rw [nodeOf, parse, read]
  exact ⟨first, same ▸ passed, same ▸ whole⟩

theorem passable_of_skip {node : Node} (passed : node.skip = .ok ()) : passable node = true := by
  rw [passable, passed]

/-- A list goes on after one item as the end of that item says. -/
theorem parseItems_item {before item rest : Text} (left : Spaces before) (reads : Reads item)
    {fuel : Nat} (room : 2 * item.length ≤ fuel) (ends : Ends rest) :
    parseItems (fuel + 1) (before ++ (item ++ rest)) =
      match afterPart ']' rest with
      | .done rest => ([nodeOf item], .ok (), rest)
      | .fault fault => ([nodeOf item], .error fault, [])
      | .next rest =>
        let (items, close, after) := parseItems fuel rest
        (nodeOf item :: items, close, after) := by
  rw [parseItems_spaces left, parseItems, reads.whole fuel rest room ends]
  exact if_neg (by simp [passable_of_skip reads.passed])

theorem parseItems_items {t : Text} {items : List Text} (written : Items t items)
    (reads : ∀ item ∈ items, Reads item) (fuel : Nat) (room : 2 * t.length + 1 ≤ fuel)
    (rest : Text) :
    parseItems fuel (t ++ ']' :: rest) = (items.map nodeOf, .ok (), rest) := by
  induction written generalizing fuel with
  | @last before item after left right =>
    simp only [List.length_append] at room
    obtain ⟨fuel, rfl⟩ : ∃ less, fuel = less + 1 := ⟨fuel - 1, by omega⟩
    have ends : Ends (after ++ ']' :: rest) := ends_spaces right (.of_mark (by decide))
    have done := afterPart_done right ']' rfl rest
    rw [List.append_assoc, List.append_assoc,
      parseItems_item left (reads item (.head _)) (by omega) ends, done]
    rfl
  | @more before item after t items left right _ ih =>
    simp only [List.length_append, List.length_cons] at room
    obtain ⟨fuel, rfl⟩ : ∃ less, fuel = less + 1 := ⟨fuel - 1, by omega⟩
    have ends : Ends (after ++ ',' :: (t ++ ']' :: rest)) :=
      ends_spaces right (.of_mark (by decide))
    have next := afterPart_next right ']' (by decide) (t ++ ']' :: rest)
    have others := ih (fun item mem => reads item (.tail _ mem)) fuel (by omega)
    simp only [List.append_assoc, List.cons_append]
    rw [parseItems_item left (reads item (.head _)) (by omega) ends, next]
    simp only [others]
    rfl

/-- A record goes on after one member as the end of that member says. -/
theorem parseMembers_member {before key middle lead item rest : Text} (left : Spaces before)
    (mid : Spaces middle) (leading : Spaces lead) (string : IsString key) (reads : Reads item)
    {fuel : Nat} (room : 2 * item.length ≤ fuel) (ends : Ends rest) :
    parseMembers (fuel + 1) (before ++ (key ++ (middle ++ ':' :: (lead ++ (item ++ rest))))) =
      match afterPart '\x7d' rest with
      | .done rest => ([(leafOf key, nodeOf item)], .ok (), rest)
      | .fault fault => ([(leafOf key, nodeOf item)], .error fault, [])
      | .next rest =>
        let (members, close, after) := parseMembers fuel rest
        ((leafOf key, nodeOf item) :: members, close, after) := by
  obtain ⟨passed, -, inner, rfl, scan⟩ := scan_string string
  have colon : skipSpace (middle ++ ':' :: (lead ++ (item ++ rest))) =
      ':' :: (lead ++ (item ++ rest)) := by
    rw [skipSpace_spaces mid, skipSpace_cons rfl]
  rw [parseMembers_spaces left, parseMembers, List.cons_append, skipSpace_cons rfl]
  simp only [scan, passed, colon, parseValue_spaces leading, reads.whole fuel rest room ends]
  exact if_neg (by simp [passable_of_skip reads.passed])

theorem parseMembers_members {t : Text} {members : List (Text × Text)} (written : Members t members)
    (keys : ∀ member ∈ members, IsString member.1) (reads : ∀ member ∈ members, Reads member.2)
    (fuel : Nat) (room : 2 * t.length + 1 ≤ fuel) (rest : Text) :
    parseMembers fuel (t ++ '\x7d' :: rest) =
      (members.map fun member => (leafOf member.1, nodeOf member.2), .ok (), rest) := by
  induction written generalizing fuel with
  | @last before key middle lead item after left mid leading right =>
    simp only [List.length_append, List.length_cons] at room
    obtain ⟨fuel, rfl⟩ : ∃ less, fuel = less + 1 := ⟨fuel - 1, by omega⟩
    have ends : Ends (after ++ '\x7d' :: rest) := ends_spaces right (.of_mark (by decide))
    have done := afterPart_done right '\x7d' rfl rest
    have item_reads : Reads item := reads (key, item) (.head _)
    simp only [List.append_assoc, List.cons_append]
    rw [parseMembers_member left mid leading (keys (key, item) (.head _)) item_reads (by omega)
      ends, done]
    rfl
  | @more before key middle lead item after t members left mid leading right _ ih =>
    simp only [List.length_append, List.length_cons] at room
    obtain ⟨fuel, rfl⟩ : ∃ less, fuel = less + 1 := ⟨fuel - 1, by omega⟩
    have ends : Ends (after ++ ',' :: (t ++ '\x7d' :: rest)) :=
      ends_spaces right (.of_mark (by decide))
    have next := afterPart_next right '\x7d' (by decide) (t ++ '\x7d' :: rest)
    have others := ih (fun member mem => keys member (.tail _ mem))
      (fun member mem => reads member (.tail _ mem)) fuel (by omega)
    have item_reads : Reads item := reads (key, item) (.head _)
    simp only [List.append_assoc, List.cons_append]
    rw [parseMembers_member left mid leading (keys (key, item) (.head _)) item_reads (by omega)
      ends, next]
    simp only [others]
    rfl

theorem Items.first {t : Text} {items : List Text} (written : Items t items)
    (reads : ∀ item ∈ items, Reads item) :
    ∃ before c inner, Spaces before ∧ t = before ++ c :: inner ∧ isSpace c = false ∧ c ≠ ']' := by
  cases written with
  | @last before item after left =>
    obtain ⟨c, inner, rfl, shown, other⟩ := (reads item (.head _)).first
    exact ⟨before, c, _, left, rfl, shown, other⟩
  | @more before item after t items left =>
    obtain ⟨c, inner, rfl, shown, other⟩ := (reads item (.head _)).first
    exact ⟨before, c, _, left, rfl, shown, other⟩

theorem Members.first {t : Text} {members : List (Text × Text)} (written : Members t members)
    (keys : ∀ member ∈ members, IsString member.1) :
    ∃ before inner, Spaces before ∧ t = before ++ '"' :: inner := by
  cases written with
  | @last before key middle lead item after left =>
    obtain ⟨-, -, inner, rfl : key = _, -⟩ := scan_string (keys _ (.head _))
    exact ⟨before, _, left, rfl⟩
  | @more before key middle lead item after t members left =>
    obtain ⟨-, -, inner, rfl : key = _, -⟩ := scan_string (keys _ (.head _))
    exact ⟨before, _, left, rfl⟩

/-- What a list in brackets is read as. -/
theorem parseValue_list {t : Text} {items : List Text} (listed : Listed t items)
    (reads : ∀ item ∈ items, Reads item) {fuel : Nat} (room : 2 * t.length ≤ fuel) (rest : Text) :
    parseValue fuel (t ++ rest) = (.list (items.map nodeOf) (.ok ()), rest) := by
  obtain ⟨inside, rfl, ⟨rfl, space⟩ | written⟩ := listed
  all_goals
    simp only [List.length_append, List.length_cons, List.length_nil] at room
    obtain ⟨fuel, rfl⟩ : ∃ less, fuel = less + 1 := ⟨fuel - 1, by omega⟩
    rw [List.cons_append, List.append_assoc, List.singleton_append, parseValue, skipSpace_cons rfl]
  · have closed : skipSpace (inside ++ ']' :: rest) = ']' :: rest := by
      rw [skipSpace_spaces space, skipSpace_cons rfl]
    simp only [closed]
    rfl
  · have read := parseItems_items written reads fuel (by omega) rest
    obtain ⟨before, c, inner, left, rfl, shown, other⟩ := written.first reads
    rw [List.append_assoc, List.cons_append, parseItems_spaces left] at read
    have start : skipSpace (before ++ c :: inner ++ ']' :: rest) = c :: (inner ++ ']' :: rest) := by
      rw [List.append_assoc, skipSpace_spaces left, List.cons_append, skipSpace_cons shown]
    simp only [start]
    split
    next none_left => cases none_left
    next same => exact absurd (List.cons.inj same).1 other
    next => rw [read]

/-- What a record in braces is read as. -/
theorem parseValue_record {t : Text} {members : List (Text × Text)} (recorded : Recorded t members)
    (keys : ∀ member ∈ members, IsString member.1) (reads : ∀ member ∈ members, Reads member.2)
    {fuel : Nat} (room : 2 * t.length ≤ fuel) (rest : Text) :
    parseValue fuel (t ++ rest) =
      (.record (members.map fun member => (leafOf member.1, nodeOf member.2)) (.ok ()), rest) := by
  obtain ⟨inside, rfl, ⟨rfl, space⟩ | written⟩ := recorded
  all_goals
    simp only [List.length_append, List.length_cons, List.length_nil] at room
    obtain ⟨fuel, rfl⟩ : ∃ less, fuel = less + 1 := ⟨fuel - 1, by omega⟩
    rw [List.cons_append, List.append_assoc, List.singleton_append, parseValue, skipSpace_cons rfl]
  · have closed : skipSpace (inside ++ '\x7d' :: rest) = '\x7d' :: rest := by
      rw [skipSpace_spaces space, skipSpace_cons rfl]
    simp only [closed]
    rfl
  · have read := parseMembers_members written keys reads fuel (by omega) rest
    obtain ⟨before, inner, left, rfl⟩ := written.first keys
    rw [List.append_assoc, List.cons_append, parseMembers_spaces left] at read
    have start : skipSpace (before ++ '"' :: inner ++ '\x7d' :: rest) =
        '"' :: (inner ++ '\x7d' :: rest) := by
      rw [List.append_assoc, skipSpace_spaces left, List.cons_append, skipSpace_cons rfl]
    simp only [start]
    split
    next none_left => cases none_left
    next same => cases same
    next => rw [read]

/-- What a word is read as. -/
theorem reads_word {word : Text} (node : Node)
    (first : ∃ c inner, word = c :: inner ∧ isSpace c = false ∧ c ≠ ']')
    (passed : node.skip = .ok ())
    (read : ∀ fuel rest, parseValue (fuel + 1) (word ++ rest) = (node, rest)) : Reads word := by
  refine .of_node node first passed fun fuel rest room _ => ?_
  obtain ⟨c, inner, rfl, -⟩ := first
  rw [List.length_cons] at room
  obtain ⟨fuel, rfl⟩ : ∃ less, fuel = less + 1 := ⟨fuel - 1, by omega⟩
  exact read fuel rest

theorem reads_null : Reads "null".toList :=
  reads_word .null ⟨_, _, rfl, rfl, by decide⟩ rfl fun _ _ => rfl

theorem parseValue_string {t : Text} (written : IsString t) (fuel : Nat) (rest : Text) :
    parseValue (fuel + 1) (t ++ rest) = (.text (leafOf t), rest) := by
  obtain ⟨-, -, inner, rfl, scan⟩ := scan_string written
  rw [List.cons_append, parseValue, skipSpace_cons rfl]
  simp only [scan]

theorem reads_string {t : Text} (written : IsString t) : Reads t := by
  refine reads_word (.text (leafOf t)) ?_ (scan_string written).1 (parseValue_string written)
  obtain ⟨-, -, inner, rfl, -⟩ := scan_string written
  exact ⟨_, _, rfl, rfl, by decide⟩

/-- The tree of a string that stands for a text. -/
theorem nodeOf_spells {t s : Text} (spells : Spells t s) : nodeOf t = .text (.sound s) := by
  have whole := parseValue_string spells.isString (2 * t.length + 1) []
  have leaf : leafOf t = .sound s := by
    have value := (value_leafOf_iff spells.isString).mpr spells
    have passed := (scan_string spells.isString).1
    cases read : leafOf t
    simp_all [Leaf.sound]
  rw [List.append_nil] at whole
  rw [nodeOf, parse, whole, leaf]

theorem reads_number {t : Text} (number : IsNumber t) : Reads t := by
  obtain ⟨leaf, passed, scan⟩ := Numeral.scan_number number
  obtain ⟨c, inner, rfl, leads⟩ := number.first
  have other (d : Char) (neither : ¬ (d = '-' ∨ d.isDigit = true)) : c ≠ d := by
    rintro rfl
    exact neither leads
  have shown : isSpace c = false := by
    simp [isSpace, other ' ' (by decide), other '\t' (by decide), other '\n' (by decide),
      other '\r' (by decide)]
  have number : (decide (c = '-') || c.isDigit) = true := by simpa using leads
  refine .of_node (.number leaf) ⟨c, inner, rfl, shown, other ']' (by decide)⟩ passed
    fun fuel rest room ends => ?_
  rw [List.length_cons] at room
  obtain ⟨fuel, rfl⟩ : ∃ less, fuel = less + 1 := ⟨fuel - 1, by omega⟩
  have read := scan rest ends
  rw [List.cons_append] at read ⊢
  rw [parseValue, skipSpace_cons shown]
  split
  case h_1 none_left => cases none_left
  case h_8 _ _ _ _ _ _ same =>
    cases same
    rw [if_pos number, read]
  all_goals
    next same => exact absurd (List.cons.inj same).1 (other _ (by decide))

theorem skipItems_ok {items : List Text} (reads : ∀ item ∈ items, Reads item) :
    Node.skipItems (items.map nodeOf) = .ok () := by
  induction items with
  | nil => rfl
  | cons item items ih =>
    rw [List.map_cons, Node.skipItems, (reads item (.head _)).passed]
    exact ih fun item mem => reads item (.tail _ mem)

theorem skipMembers_ok {members : List (Text × Text)}
    (keys : ∀ member ∈ members, IsString member.1) (reads : ∀ member ∈ members, Reads member.2) :
    Node.skipMembers (members.map fun member => (leafOf member.1, nodeOf member.2)) = .ok () := by
  induction members with
  | nil => rfl
  | cons member members ih =>
    rw [List.map_cons, Node.skipMembers, (scan_string (keys member (.head _))).1,
      (reads member (.head _)).passed]
    exact ih (fun member mem => keys member (.tail _ mem))
      fun member mem => reads member (.tail _ mem)

/-- **A value is read to its end**, as a tree that can be passed over. -/
theorem reads_value {t : Text} (value : IsValue t) : Reads t := by
  induction value with
  | null => exact reads_null
  | yes => exact reads_word (.boolean true) ⟨_, _, rfl, rfl, by decide⟩ rfl fun _ _ => rfl
  | no => exact reads_word (.boolean false) ⟨_, _, rfl, rfl, by decide⟩ rfl fun _ _ => rfl
  | number number => exact reads_number number
  | string written => exact reads_string written
  | list listed _ ih =>
    refine .of_node _ ?_ ?_ fun fuel rest room _ => parseValue_list listed ih room rest
    · obtain ⟨inside, rfl, -⟩ := listed
      exact ⟨_, _, rfl, rfl, by decide⟩
    · rw [Node.skip, skipItems_ok ih]
      rfl
  | record recorded keys _ ih =>
    refine .of_node _ ?_ ?_ fun fuel rest room _ => parseValue_record recorded keys ih room rest
    · obtain ⟨inside, rfl, -⟩ := recorded
      exact ⟨_, _, rfl, rfl, by decide⟩
    · rw [Node.skip, skipMembers_ok keys ih]
      rfl

/-! ## Whole texts -/

/-- **What an array is read as**: the trees of its items. -/
theorem parse_array {t : Text} {items : List Text} (array : IsArray t items) :
    parse t = ⟨.list (items.map nodeOf) (.ok ()), .ok ()⟩ := by
  obtain ⟨⟨before, list, after, left, listed, right, rfl⟩, values⟩ := array
  have room : 2 * list.length ≤ 2 * (before ++ (list ++ after)).length + 2 := by
    rw [List.length_append, List.length_append]
    omega
  rw [parse, parseValue_spaces left,
    parseValue_list listed (fun item mem => reads_value (values item mem)) room]
  simp only [skipSpace_all right]
  rfl

/-- **What an object is read as**: its keys and the trees of their values. -/
theorem parse_object {t : Text} {members : List (Text × Text)} (object : IsObject t members) :
    parse t = ⟨.record (members.map fun member => (leafOf member.1, nodeOf member.2)) (.ok ()),
      .ok ()⟩ := by
  obtain ⟨⟨before, record, after, left, recorded, right, rfl⟩, keys, values⟩ := object
  have room : 2 * record.length ≤ 2 * (before ++ (record ++ after)).length + 2 := by
    rw [List.length_append, List.length_append]
    omega
  rw [parse, parseValue_spaces left, parseValue_record recorded keys
    (fun member mem => reads_value (values member mem)) room]
  simp only [skipSpace_all right]
  rfl

/-! ## Writing arrays and objects -/

/-- An array without white space. -/
def compactArray (items : List Text) : Text := '[' :: (List.intercalate [','] items ++ [']'])

/-- A member without white space. -/
def compactMember (member : Text × Text) : Text := member.1 ++ ':' :: member.2

/-- An object without white space. -/
def compactObject (members : List (Text × Text)) : Text :=
  '\x7b' :: (List.intercalate [','] (members.map compactMember) ++ ['\x7d'])

theorem spaces_nil : Spaces [] := by simp [Spaces]

theorem items_intercalate {items : List Text} (some_items : items ≠ []) :
    Items (List.intercalate [','] items) items := by
  induction items with
  | nil => exact absurd rfl some_items
  | cons item items ih =>
    cases items with
    | nil => simpa using @Items.last [] item [] spaces_nil spaces_nil
    | cons next items =>
      simpa [List.intercalate_cons_cons] using @Items.more [] item [] _ _ spaces_nil spaces_nil (ih (by simp))

theorem members_intercalate {members : List (Text × Text)} (some_members : members ≠ []) :
    Members (List.intercalate [','] (members.map compactMember)) members := by
  induction members with
  | nil => exact absurd rfl some_members
  | cons member members ih =>
    obtain ⟨key, item⟩ := member
    cases members with
    | nil =>
      simpa [compactMember] using
        @Members.last [] key [] [] item [] spaces_nil spaces_nil spaces_nil spaces_nil
    | cons next members =>
      simpa [List.intercalate_cons_cons, compactMember] using
        @Members.more [] key [] [] item [] _ _ spaces_nil spaces_nil spaces_nil spaces_nil
          (ih (by simp))

theorem isArray_compact (items : List Text) (values : ∀ item ∈ items, IsValue item) :
    IsArray (compactArray items) items := by
  refine ⟨⟨[], compactArray items, [], spaces_nil, ⟨_, rfl, ?_⟩, spaces_nil, by simp⟩, values⟩
  by_cases none_left : items = []
  · rw [none_left]
    exact .inl ⟨rfl, spaces_nil⟩
  · exact .inr (items_intercalate none_left)

theorem isObject_compact (members : List (Text × Text))
    (keys : ∀ member ∈ members, IsString member.1) (values : ∀ member ∈ members, IsValue member.2) :
    IsObject (compactObject members) members := by
  refine ⟨⟨[], compactObject members, [], spaces_nil, ⟨_, rfl, ?_⟩, spaces_nil, by simp⟩, keys,
    values⟩
  by_cases none_left : members = []
  · rw [none_left]
    exact .inl ⟨rfl, spaces_nil⟩
  · exact .inr (members_intercalate none_left)

end RemoteTerminal.Json
