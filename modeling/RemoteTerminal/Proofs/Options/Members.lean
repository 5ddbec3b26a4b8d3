import RemoteTerminal.Config.Search
import RemoteTerminal.Proofs.Json.Grammar
import RemoteTerminal.Proofs.Tree.Records

/-!
# Options in JSON text

Options are what the members of an object set, whichever way it is written. A key stands for a text,
and the text spells a field or none (`Names`, `Nameless`); a key that stands for no text, such as
half of a pair of escapes, is refused.

* `assign_independent`: one option is set whatever the others are.
* `ofJson_object_iff`, `ofJson_array_iff`: what an object and an array are read as, by their fields
  and the trees of their values (`settings`).
* `accepted_by_field`: so spelling, order and members that name no field do not matter, and an array
  is an object of the first fields.
-/

namespace RemoteTerminal.Options

open Json (IsObject IsArray IsString IsValue Node nodeOf leafOf)
open Read (bind_eq_ok_iff passing_eq_ok_iff)

/-! ## Fields -/

section
variable {ν : Type} [Tree ν]

/-- Options with one of them taken from a source. -/
def put (held : Options) (field : Field) (source : Options) : Options :=
  match field with
  | .maxHeight => { held with maxHeight := source.maxHeight }
  | .formMethod => { held with formMethod := source.formMethod }
  | .inputFieldName => { held with inputFieldName := source.inputFieldName }
  | .extraPostFields => { held with extraPostFields := source.extraPostFields }
  | .promptText => { held with promptText := source.promptText }
  | .focusOnLoad => { held with focusOnLoad := source.focusOnLoad }
  | .submitOnLoad => { held with submitOnLoad := source.submitOnLoad }
  | .grabFocusOnClick => { held with grabFocusOnClick := source.grabFocusOnClick }
  | .helloMessage => { held with helloMessage := source.helloMessage }
  | .themeEnabled => { held with themeEnabled := source.themeEnabled }
  | .allowEmptyInput => { held with allowEmptyInput := source.allowEmptyInput }
  | .tabWidth => { held with tabWidth := source.tabWidth }
  | .inputDisabled => { held with inputDisabled := source.inputDisabled }

/-- What a tree sets an option to does not depend on the options held so far. -/
theorem assign_eq (field : Field) (v : ν) (held : Options) :
    assign field v held = (assign field v unset).map (put held field) := by
  have bind_map {α : Type} (x : Except ReadError α) (set set' : α → Options) (f : Options → Options)
      (same : ∀ a, set a = f (set' a)) :
      (x >>= fun a => pure (set a)) = Except.map f (x >>= fun a => pure (set' a)) := by
    cases x with
    | error e => rfl
    | ok a => exact congrArg Except.ok (same a)
  cases field <;> exact bind_map _ _ _ _ fun _ => rfl

theorem put_comm {f g : Field} (other : f ≠ g) (held a b : Options) :
    (held.put f a).put g b = (held.put g b).put f a := by
  cases f <;> cases g <;> first | rfl | exact absurd rfl other

theorem assign_eq_ok_iff {field : Field} {v : ν} {held o : Options} :
    assign field v held = .ok o ↔
      ∃ set, assign field v unset = .ok set ∧ held.put field set = o := by
  rw [assign_eq]
  cases assign field v unset <;> simp [Except.map]

theorem assign_independent : (layout : Read.Layout ν Field Options).Independent := by
  intro f g other v w held o done
  obtain ⟨next, set, set'⟩ := bind_eq_ok_iff.mp done
  obtain ⟨a, first, rfl⟩ := assign_eq_ok_iff.mp set
  obtain ⟨b, second, rfl⟩ := assign_eq_ok_iff.mp set'
  refine bind_eq_ok_iff.mpr ⟨held.put g b, assign_eq_ok_iff.mpr ⟨b, second, rfl⟩, ?_⟩
  exact assign_eq_ok_iff.mpr ⟨a, first, (put_comm other held a b).symm⟩

/-- No two fields have a spelling in common. -/
theorem find?_order {field : Field} : ∀ name ∈ field.spellings,
    (Field.order.find? fun other => other.spellings.contains name) = some field := by
  cases field <;> decide

/-- A field is found under each of its spellings, and under nothing else. -/
theorem fieldOf_eq_some_iff {name : Text} {field : Field} :
    (layout : Read.Layout ν Field Options).fieldOf name = some field ↔ name ∈ field.spellings := by
  constructor
  · intro found
    rw [Read.Layout.fieldOf] at found
    have spelled := List.find?_some found
    exact List.contains_iff_mem.mp spelled
  · exact find?_order name

end

/-- A key spells a field. -/
def Names (key : Text) (field : Field) : Prop :=
  ∃ name, Json.Spells key name ∧ name ∈ field.spellings

/-- A key stands for a text that spells no field. -/
def Nameless (key : Text) : Prop :=
  ∃ name, Json.Spells key name ∧ ∀ field : Field, name ∉ field.spellings

theorem Names.isString {key : Text} {field : Field} (names : Names key field) : IsString key := by
  obtain ⟨name, spells, -⟩ := names
  exact spells.isString

/-- The field that a key names. -/
def fieldNamed (key : Text) : Option Field :=
  (leafOf key).value.toOption.bind (layout : Read.Layout Node Field Options).fieldOf

theorem fieldNamed_of_spells {key name : Text} (spells : Json.Spells key name) :
    fieldNamed key = (layout : Read.Layout Node Field Options).fieldOf name := by
  rw [fieldNamed, (Json.value_leafOf_iff spells.isString).mpr spells]
  rfl

theorem fieldNamed_of_names {key : Text} {field : Field} (names : Names key field) :
    fieldNamed key = some field := by
  obtain ⟨name, spells, mem⟩ := names
  rw [fieldNamed_of_spells spells, fieldOf_eq_some_iff.mpr mem]

theorem names_of_fieldNamed {key : Text} (written : IsString key) {field : Field}
    (named : fieldNamed key = some field) : Names key field := by
  obtain ⟨name, value, found⟩ := Option.bind_eq_some_iff.mp named
  have value : (leafOf key).value = .ok name := by
    cases read : (leafOf key).value <;> simp_all [Except.toOption]
  exact ⟨name, (Json.value_leafOf_iff written).mp value, fieldOf_eq_some_iff.mp found⟩

theorem fieldNamed_of_nameless {key : Text} (nameless : Nameless key) : fieldNamed key = none := by
  obtain ⟨name, spells, none_spelled⟩ := nameless
  rw [fieldNamed_of_spells spells, Option.eq_none_iff_forall_ne_some]
  intro field found
  exact none_spelled field (fieldOf_eq_some_iff.mp found)

/-! ## Objects and arrays -/

/-- What members set: the fields that they name, each with the tree of its value. -/
def settings (members : List (Text × Text)) : List (Field × Node) :=
  members.filterMap fun member => (fieldNamed member.1).map (·, nodeOf member.2)

/-- Members whose keys all stand for texts are met one after the other. -/
theorem readable_of_sound {members : List (Json.Leaf Text × Node)}
    (sound : ∀ member ∈ members, ∃ name, member.1.value = .ok name) (close : Except Fault Unit) :
    Node.readable members close =
      (members.filterMap fun member => member.1.value.toOption.map (·, member.2), close) := by
  induction members with
  | nil => rfl
  | cons member members ih =>
    obtain ⟨name, value⟩ := sound member (.head _)
    rw [Node.readable, value, ih fun member mem => sound member (.tail _ mem)]
    simp [value, Except.toOption]

/-- A key that stands for no text ends an object with a fault. -/
theorem readable_of_fault {members : List (Json.Leaf Text × Node)} {member : Json.Leaf Text × Node}
    (mem : member ∈ members) {fault : Fault} (value : member.1.value = .error fault)
    (close : Except Fault Unit) : ∃ fault, (Node.readable members close).2 = .error fault := by
  induction members with
  | nil => cases mem
  | cons first members ih =>
    rw [Node.readable]
    cases key : first.1.value with
    | error fault => exact ⟨fault, rfl⟩
    | ok name =>
      obtain rfl | mem := List.mem_cons.mp mem
      · rw [key] at value
        cases value
      · exact ih mem

theorem spells_of_isString {key : Text} (written : IsString key) :
    (∃ name, Json.Spells key name) ∨ ∃ fault, (leafOf key).value = .error fault := by
  cases value : (leafOf key).value with
  | error fault => exact .inr ⟨fault, rfl⟩
  | ok name => exact .inl ⟨name, (Json.value_leafOf_iff written).mp value⟩

theorem ofJson_eq_ok_iff {t : Text} {root : Node} (parsed : Json.parse t = ⟨root, .ok ()⟩)
    {o : Options} : ofJson t = .ok o ↔ layout.read unset root = .ok o := by
  rw [ofJson, parsed, bind_eq_ok_iff]
  constructor
  · rintro ⟨_, read, same⟩
    cases same
    exact read
  · intro read
    exact ⟨o, read, rfl⟩

/-- What an object sets, met as trees or as it is written. -/
theorem named_eq_settings (members : List (Text × Text)) :
    layout.named ((members.map fun member => (leafOf member.1, nodeOf member.2)).filterMap
      fun member => member.1.value.toOption.map (·, member.2)) = settings members := by
  rw [Read.Layout.named, settings, List.filterMap_map, List.filterMap_filterMap]
  congr 1
  funext member
  simp only [Function.comp_apply, fieldNamed]
  cases (leafOf member.1).value.toOption <;> rfl

/-- **What an object is read as**: every key stands for a text, no field is named twice, and what
the fields are given sets them. -/
theorem ofJson_object_iff {t : Text} {members : List (Text × Text)} (object : IsObject t members)
    {o : Options} :
    ofJson t = .ok o ↔
      (∀ member ∈ members, ∃ name, Json.Spells member.1 name) ∧
      ((settings members).map Prod.fst).Nodup ∧
      layout.assignAll (settings members) unset = .ok o := by
  rw [ofJson_eq_ok_iff (Json.parse_object object)]
  set trees := members.map fun member => (leafOf member.1, nodeOf member.2) with trees_eq
  have shape : (Tree.shape (Node.record trees (.ok ())) : Shape Node) =
      .record (Node.readable trees (.ok ())).1 (Node.readable trees (.ok ())).2 := rfl
  rw [Read.Layout.read_record_eq_ok_iff shape]
  by_cases sound : ∀ member ∈ members, ∃ name, Json.Spells member.1 name
  · have values : ∀ member ∈ trees, ∃ name, member.1.value = .ok name := by
      intro tree listed
      obtain ⟨member, mem, rfl⟩ := List.mem_map.mp listed
      obtain ⟨name, spells⟩ := sound member mem
      exact ⟨name, (Json.value_leafOf_iff spells.isString).mpr spells⟩
    have passed : ∀ member ∈ trees, Tree.skip member.2 = .ok () := by
      intro tree listed
      obtain ⟨member, mem, rfl⟩ := List.mem_map.mp listed
      exact (Json.reads_value (object.values member mem)).passed
    rw [readable_of_sound values, trees_eq, named_eq_settings, ← trees_eq]
    refine ⟨fun ⟨_, _, distinct, done⟩ => ⟨sound, distinct, done⟩, fun ⟨_, distinct, done⟩ =>
      ⟨rfl, fun tree listed _ => ?_, distinct, done⟩⟩
    obtain ⟨member, mem, same⟩ := List.mem_filterMap.mp listed
    obtain ⟨name, -, rfl⟩ := Option.map_eq_some_iff.mp same
    exact passed member mem
  · refine ⟨fun ⟨closed, _⟩ => absurd closed ?_, fun ⟨sound', _⟩ => absurd sound' sound⟩
    push Not at sound
    obtain ⟨member, mem, textless⟩ := sound
    obtain ⟨name, spells⟩ | ⟨fault, value⟩ := spells_of_isString (object.keys member mem)
    · exact absurd spells (textless name)
    · have listed : (leafOf member.1, nodeOf member.2) ∈ trees :=
        List.mem_map.mpr ⟨member, mem, rfl⟩
      obtain ⟨fault, closed⟩ := readable_of_fault listed value (.ok ())
      rw [closed]
      simp

/-- **What an array is read as**: its items, given to the first fields. -/
theorem ofJson_array_iff {t : Text} {items : List Text} (array : IsArray t items)
    (room : items.length ≤ Field.order.length) {o : Options} :
    ofJson t = .ok o ↔ layout.assignAll (Field.order.zip (items.map nodeOf)) unset = .ok o := by
  have shape : (Tree.shape (Node.list (items.map nodeOf) (.ok ())) : Shape Node) =
      .list (items.map nodeOf) (.ok ()) := rfl
  rw [ofJson_eq_ok_iff (Json.parse_array array),
    Read.Layout.read_list_eq_ok_iff shape ((List.length_map _).trans_le room)]
  exact ⟨fun ⟨_, done⟩ => done, fun done => ⟨rfl, done⟩⟩

/-! ## What does not matter -/

/-- The options that a JSON text sets, if it is accepted. -/
def accepted (t : Text) : Option Options := (ofJson t).toOption

theorem accepted_eq_some_iff {t : Text} {o : Options} : accepted t = some o ↔ ofJson t = .ok o :=
  Read.toOption_eq_some_iff

theorem accepted_congr {t t' : Text} (same : ∀ o, ofJson t = .ok o ↔ ofJson t' = .ok o) :
    accepted t = accepted t' := by
  ext o
  exact accepted_eq_some_iff.trans ((same o).trans accepted_eq_some_iff.symm)

variable {t t' : Text} {members members' before between after : List (Text × Text)}
  {key key' value value' : Text} {field : Field}

/-- The order of members does not matter. -/
theorem accepted_perm (object : IsObject t members) (object' : IsObject t' members')
    (perm : members.Perm members') : accepted t = accepted t' := by
  refine accepted_congr fun o => ?_
  rw [ofJson_object_iff object, ofJson_object_iff object']
  have settings_perm : (settings members).Perm (settings members') := perm.filterMap _
  have sound_iff : (∀ member ∈ members, ∃ name, Json.Spells member.1 name) ↔
      ∀ member ∈ members', ∃ name, Json.Spells member.1 name :=
    forall_congr' fun member => imp_congr_left perm.mem_iff
  rw [sound_iff, ← (settings_perm.map Prod.fst).nodup_iff]
  refine and_congr_right fun _ => and_congr_right fun distinct => ?_
  exact Read.Layout.assignAll_perm_iff assign_independent settings_perm distinct

theorem settings_append (members members' : List (Text × Text)) :
    settings (members ++ members') = settings members ++ settings members' :=
  List.filterMap_append

theorem settings_cons_of_names (names : Names key field) (value : Text)
    (members : List (Text × Text)) :
    settings ((key, value) :: members) = (field, nodeOf value) :: settings members := by
  simp [settings, fieldNamed_of_names names]

theorem settings_cons_of_nameless (nameless : Nameless key) (value : Text)
    (members : List (Text × Text)) : settings ((key, value) :: members) = settings members := by
  simp [settings, fieldNamed_of_nameless nameless]

/-- The spelling of a field does not matter. -/
theorem accepted_respelled (object : IsObject t (before ++ (key, value) :: after))
    (object' : IsObject t' (before ++ (key', value) :: after)) (names : Names key field)
    (names' : Names key' field) : accepted t = accepted t' := by
  refine accepted_congr fun o => ?_
  rw [ofJson_object_iff object, ofJson_object_iff object', settings_append, settings_append,
    settings_cons_of_names names, settings_cons_of_names names']
  obtain ⟨name, spells, -⟩ := names
  obtain ⟨name', spells', -⟩ := names'
  have first : ∃ name, Json.Spells key name := ⟨name, spells⟩
  have second : ∃ name, Json.Spells key' name := ⟨name', spells'⟩
  simp only [List.forall_mem_append, List.forall_mem_cons, first, second]

/-- A member whose key stands for a text that names no field does not matter. -/
theorem accepted_without (object : IsObject t (before ++ (key, value) :: after))
    (object' : IsObject t' (before ++ after)) (nameless : Nameless key) :
    accepted t = accepted t' := by
  refine accepted_congr fun o => ?_
  rw [ofJson_object_iff object, ofJson_object_iff object', settings_append, settings_append,
    settings_cons_of_nameless nameless]
  obtain ⟨name, spells, -⟩ := nameless
  have first : ∃ name, Json.Spells key name := ⟨name, spells⟩
  simp only [List.forall_mem_append, List.forall_mem_cons, first, true_and]

/-- A field that is named twice is refused. -/
theorem refused_twice
    (object : IsObject t (before ++ (key, value) :: (between ++ (key', value') :: after)))
    (names : Names key field) (names' : Names key' field) : accepted t = none := by
  rw [Option.eq_none_iff_forall_ne_some]
  intro o done
  obtain ⟨-, distinct, -⟩ := (ofJson_object_iff object).mp (accepted_eq_some_iff.mp done)
  rw [settings_append, settings_cons_of_names names, settings_append, settings_cons_of_names names',
    List.map_append, List.map_cons, List.map_append, List.map_cons] at distinct
  have fresh := (List.nodup_cons.mp (List.nodup_append.mp distinct).2.1).1
  exact fresh (List.mem_append_right _ List.mem_cons_self)

theorem fresh_of_single (object : IsObject t members)
    (single : ∀ member ∈ members, ¬ Names member.1 field) :
    field ∉ (settings members).map Prod.fst := by
  intro again
  obtain ⟨_, setting, rfl⟩ := List.mem_map.mp again
  obtain ⟨member, mem, found⟩ := List.mem_filterMap.mp setting
  obtain ⟨field, named, rfl⟩ := Option.map_eq_some_iff.mp found
  exact single member mem (names_of_fieldNamed (object.keys member mem) named)

/-- A member that names a field is as good as the first member. -/
theorem ofJson_moved_iff (object : IsObject t (before ++ (key, value) :: after))
    (names : Names key field) {o : Options} :
    ofJson t = .ok o ↔
      (∀ member ∈ before ++ after, ∃ name, Json.Spells member.1 name) ∧
      (((field, nodeOf value) :: settings (before ++ after)).map Prod.fst).Nodup ∧
      layout.assignAll ((field, nodeOf value) :: settings (before ++ after)) unset = .ok o := by
  have settings_perm : (settings (before ++ (key, value) :: after)).Perm
      ((field, nodeOf value) :: settings (before ++ after)) := by
    rw [← settings_cons_of_names names]
    exact List.perm_middle.filterMap _
  have sound_iff : (∀ member ∈ before ++ (key, value) :: after, ∃ name, Json.Spells member.1 name) ↔
      ∀ member ∈ before ++ after, ∃ name, Json.Spells member.1 name := by
    obtain ⟨name, spells, -⟩ := names
    have first : ∃ name, Json.Spells key name := ⟨name, spells⟩
    simp only [List.forall_mem_append, List.forall_mem_cons, first, true_and]
  have distinct_iff := (settings_perm.map Prod.fst).nodup_iff
  rw [ofJson_object_iff object, sound_iff, ← distinct_iff]
  refine and_congr_right fun _ => and_congr_right fun distinct => ?_
  exact Read.Layout.assignAll_perm_iff assign_independent settings_perm distinct

theorem assign_null (field : Field) : assign field (nodeOf "null".toList) unset = .ok unset := by
  cases field <;> rfl

/-- A null for a field that nothing else names does not matter. -/
theorem accepted_without_null (object : IsObject t (before ++ (key, "null".toList) :: after))
    (object' : IsObject t' (before ++ after)) (names : Names key field)
    (single : ∀ member ∈ before ++ after, ¬ Names member.1 field) : accepted t = accepted t' := by
  refine accepted_congr fun o => ?_
  have without_null (rest : List (Field × Node)) :
      layout.assignAll ((field, nodeOf "null".toList) :: rest) unset =
        layout.assignAll rest unset := by
    rw [Read.Layout.assignAll_cons]
    show assign field (nodeOf "null".toList) unset >>= layout.assignAll rest = _
    rw [assign_null]
    rfl
  rw [ofJson_moved_iff object names, ofJson_object_iff object', without_null, List.map_cons,
    List.nodup_cons, and_iff_right (fresh_of_single object' single)]

/-- Members that name fields one by one set these fields. -/
theorem settings_of_names {fields : List Field}
    (named : List.Forall₂ (fun member field => Names member.1 field) members fields) :
    settings members = fields.zip (members.map fun member => nodeOf member.2) ∧
      (settings members).map Prod.fst = fields ∧
      ∀ member ∈ members, ∃ name, Json.Spells member.1 name := by
  induction named with
  | nil => exact ⟨rfl, rfl, by simp⟩
  | @cons member field members fields names _ ih =>
    obtain ⟨zipped, fields_eq, sound⟩ := ih
    rw [settings_cons_of_names names, List.map_cons, List.map_cons, List.zip_cons_cons, zipped]
    obtain ⟨name, spells, -⟩ := names
    refine ⟨rfl, ?_, List.forall_mem_cons.mpr ⟨⟨name, spells⟩, sound⟩⟩
    rw [← zipped, fields_eq]

/-- An array is an object of the first fields. -/
theorem accepted_array {items : List Text} (array : IsArray t items)
    (room : items.length ≤ Field.order.length) (object : IsObject t' members)
    (values : members.map Prod.snd = items)
    (named : List.Forall₂ (fun member field => Names member.1 field) members
      (Field.order.take items.length)) : accepted t = accepted t' := by
  refine accepted_congr fun o => ?_
  obtain ⟨zipped, fields_eq, sound⟩ := settings_of_names named
  have distinct : ((settings members).map Prod.fst).Nodup := by
    rw [fields_eq]
    exact (by decide : Field.order.Nodup).sublist (List.take_sublist _ _)
  have same : settings members = Field.order.zip (items.map nodeOf) := by
    have all : (items.map nodeOf).take items.length = items.map nodeOf := by
      rw [← List.map_take, List.take_length]
    have cut : Field.order.zip (items.map nodeOf) =
        (Field.order.take items.length).zip ((items.map nodeOf).take items.length) := by
      rw [List.zip_eq_zip_take_min, List.length_map, min_eq_right room]
    rw [zipped, cut, all, ← values, List.map_map]
    rfl
  rw [ofJson_array_iff array room, ofJson_object_iff object, ← same]
  exact ⟨fun done => ⟨sound, distinct, done⟩, fun ⟨_, _, done⟩ => done⟩

/-- A key that stands for no text is refused. -/
theorem refused_textless (object : IsObject t members) {member : Text × Text}
    (mem : member ∈ members) (textless : ∀ name, ¬ Json.Spells member.1 name) :
    accepted t = none := by
  rw [Option.eq_none_iff_forall_ne_some]
  intro o done
  obtain ⟨sound, -⟩ := (ofJson_object_iff object).mp (accepted_eq_some_iff.mp done)
  obtain ⟨name, spells⟩ := sound member mem
  exact textless name spells

/-- **Options do not depend on spelling, order or noise.** The order of the members of an object
does not matter, nor does the spelling of a field, nor a member whose key stands for a text that
names no field, whatever its value. An object that names a field twice is refused, and a null for a
field that nothing else names may be left out. An array sets the fields in order. A key that stands
for no text is refused: that is the one key that names no field and is not passed over. -/
theorem accepted_by_field :
    (∀ {t t' : Text} {members members' : List (Text × Text)}, IsObject t members →
      IsObject t' members' → members.Perm members' → accepted t = accepted t') ∧
    (∀ {t t' : Text} {before after : List (Text × Text)} {key key' value : Text} {field : Field},
      IsObject t (before ++ (key, value) :: after) →
      IsObject t' (before ++ (key', value) :: after) →
      Names key field → Names key' field → accepted t = accepted t') ∧
    (∀ {t t' : Text} {before after : List (Text × Text)} {key value : Text},
      IsObject t (before ++ (key, value) :: after) → IsObject t' (before ++ after) → Nameless key →
      accepted t = accepted t') ∧
    (∀ {t : Text} {before between after : List (Text × Text)} {key key' value value' : Text}
      {field : Field}, IsObject t (before ++ (key, value) :: (between ++ (key', value') :: after)) →
      Names key field → Names key' field → accepted t = none) ∧
    (∀ {t t' : Text} {before after : List (Text × Text)} {key : Text} {field : Field},
      IsObject t (before ++ (key, "null".toList) :: after) → IsObject t' (before ++ after) →
      Names key field → (∀ member ∈ before ++ after, ¬ Names member.1 field) →
      accepted t = accepted t') ∧
    (∀ {t t' : Text} {items : List Text} {members : List (Text × Text)}, IsArray t items →
      items.length ≤ Field.order.length → IsObject t' members → members.map Prod.snd = items →
      List.Forall₂ (fun member field => Names member.1 field) members
        (Field.order.take items.length) → accepted t = accepted t') ∧
    (∀ {t : Text} {members : List (Text × Text)} {member : Text × Text}, IsObject t members →
      member ∈ members → (∀ name, ¬ Json.Spells member.1 name) → accepted t = none) :=
  ⟨accepted_perm, accepted_respelled, accepted_without, refused_twice, accepted_without_null,
    accepted_array, fun object mem textless => refused_textless object mem textless⟩

/-- A prompt and a width of tabs, spelled, ordered and accompanied in several ways. -/
theorem respelled_options_accepted :
    let prompt : Text × Text := ("\"prompt_text\"".toList, "\"$\"".toList)
    let custom : Text × Text := ("\"custom_prompt\"".toList, "\"$\"".toList)
    let width : Text × Text := ("\"tab_width\"".toList, "8".toList)
    let note : Text × Text := ("\"note\"".toList, "8".toList)
    let height : Text × Text := ("\"max_height\"".toList, "null".toList)
    let method : Text × Text := ("\"formMethod\"".toList, "\"$\"".toList)
    accepted (Json.compactObject [prompt, width]) = accepted (Json.compactObject [width, prompt]) ∧
      accepted (Json.compactObject [prompt, width]) =
        accepted (Json.compactObject [custom, width]) ∧
      accepted (Json.compactObject [prompt, note, width]) =
        accepted (Json.compactObject [prompt, width]) ∧
      accepted (Json.compactObject [prompt, custom]) = none ∧
      accepted (Json.compactObject [height, width]) = accepted (Json.compactObject [width]) ∧
      accepted (Json.compactArray ["null".toList, "\"$\"".toList]) =
        accepted (Json.compactObject [height, method]) := by
  intro prompt custom width note height method
  have eight : IsValue "8".toList :=
    .number (Json.isNumber_of_digits ⟨by simp, List.all_eq_true.mp rfl⟩ (by simp))
  have dollar : IsValue "\"$\"".toList := .string (@Json.spells_plain "$".toList rfl).isString
  have named_prompt : Names prompt.1 .promptText :=
    ⟨_, @Json.spells_plain "prompt_text".toList rfl, by decide⟩
  have named_custom : Names custom.1 .promptText :=
    ⟨_, @Json.spells_plain "custom_prompt".toList rfl, by decide⟩
  have named_width : Names width.1 .tabWidth :=
    ⟨_, @Json.spells_plain "tab_width".toList rfl, by decide⟩
  have named_height : Names height.1 .maxHeight :=
    ⟨_, @Json.spells_plain "max_height".toList rfl, by decide⟩
  have named_method : Names method.1 .formMethod :=
    ⟨_, @Json.spells_plain "formMethod".toList rfl, by decide⟩
  have nameless : Nameless note.1 := by
    refine ⟨_, @Json.spells_plain "note".toList rfl, fun field => ?_⟩
    cases field <;> decide
  have object (members : List (Text × Text))
      (sound : ∀ member ∈ members, member ∈ [prompt, custom, width, note, height, method]) :
      IsObject (Json.compactObject members) members := by
    have keys : ∀ member ∈ [prompt, custom, width, note, height, method], IsString member.1 := by
      simp only [List.forall_mem_cons]
      exact ⟨named_prompt.isString, named_custom.isString, named_width.isString,
        (@Json.spells_plain "note".toList rfl).isString, named_height.isString,
        named_method.isString, by simp⟩
    have values : ∀ member ∈ [prompt, custom, width, note, height, method], IsValue member.2 := by
      simp only [List.forall_mem_cons]
      exact ⟨dollar, dollar, eight, eight, .null, dollar, by simp⟩
    exact Json.isObject_compact members (fun member mem => keys member (sound member mem))
      fun member mem => values member (sound member mem)
  obtain ⟨perm, respelled, without, twice, null, array, -⟩ := accepted_by_field
  refine ⟨?_, ?_, ?_, ?_, ?_, ?_⟩
  · exact perm (object _ (by simp)) (object _ (by simp)) (.swap width prompt [])
  · exact @respelled _ _ [] [width] _ _ _ _ (object _ (by simp)) (object _ (by simp)) named_prompt
      named_custom
  · exact @without _ _ [prompt] [width] _ _ (object _ (by simp)) (object _ (by simp)) nameless
  · exact @twice _ [] [] [] _ _ _ _ _ (object _ (by simp)) named_prompt named_custom
  · refine @null _ _ [] [width] _ _ (object _ (by simp)) (object _ (by simp)) named_height ?_
    intro member mem names
    obtain rfl := List.mem_singleton.mp mem
    have both := (fieldNamed_of_names names).symm.trans (fieldNamed_of_names named_width)
    cases both
  · exact array (Json.isArray_compact _ (by simpa using ⟨.null, dollar⟩)) (by decide)
      (object _ (by simp)) rfl (.cons named_height (.cons named_method .nil))

/-- Half of a pair of escapes names no field, and is not passed over like other keys that name none.
-/
theorem half_pair_key_refused :
    IsObject "\x7b\"\\ud800\":1\x7d".toList [("\"\\ud800\"".toList, "1".toList)] ∧
      IsObject "\x7b\x7d".toList [] ∧
      (∀ field, ¬ Names "\"\\ud800\"".toList field) ∧
      accepted "\x7b\"\\ud800\":1\x7d".toList = none ∧
      accepted "\x7b\x7d".toList = some unset := by
  have written : IsString "\"\\ud800\"".toList :=
    ⟨"\\ud800".toList, @Json.Quoted.code "d800".toList [] 0xD800 rfl rfl .nil, rfl⟩
  have digit : IsValue "1".toList :=
    .number (Json.isNumber_of_digits ⟨by simp, List.all_eq_true.mp rfl⟩ (by simp))
  have object := Json.isObject_compact [("\"\\ud800\"".toList, "1".toList)] (by simpa using written)
    (by simpa using digit)
  have textless : ∀ name, ¬ Json.Spells "\"\\ud800\"".toList name := by
    intro name spells
    have value := (Json.value_leafOf_iff written).mpr spells
    cases value
  refine ⟨object, Json.isObject_compact [] (by simp) (by simp), ?_, ?_, rfl⟩
  · rintro field ⟨name, spells, -⟩
    exact textless name spells
  · exact refused_textless object (.head _) textless

end RemoteTerminal.Options
