import RemoteTerminal.Proofs.CommandLine.Items

/-!
# What is read is spelled

Nothing is read but arguments that spell items. Where a reading `Accepts` what follows, this
`Begins` with the arguments of an item, or is the last of them.

* `plain_of_awaited`: a setting that awaits its value gets it from the next argument.
* `begins_of_accepts`: one item, by what its first argument looks like.
* `read_eq_ok_iff`: the whole of what a command line means.
-/

namespace RemoteTerminal

namespace CommandLine

namespace Reading

variable {r : Reading} {setting : Setting}

/-- Whether a reading goes on to the end of the arguments. -/
def Accepts (r : Reading) (arguments : List Text) : Prop :=
  ((arguments.foldlM meet r).toOption.bind found?).isSome

theorem accepts_cons {argument : Text} {arguments : List Text} :
    r.Accepts (argument :: arguments) ↔
      ∃ next, r.meet argument = .ok next ∧ next.Accepts arguments := by
  unfold Accepts
  rw [List.foldlM_cons]
  cases r.meet argument with
  | error =>
    refine iff_of_false ?_ ?_
    · exact Bool.false_ne_true
    · rintro ⟨_, ⟨⟩, -⟩
  | ok next =>
    constructor
    · intro accepts
      exact ⟨next, rfl, accepts⟩
    · rintro ⟨_, ⟨⟩, accepts⟩
      exact accepts

section
variable {fault : UsageError} (stuck : r.resolve = .error fault)
include stuck

theorem meetFlag_stuck (flag : Flag) : r.meetFlag flag = .error fault := by
  rw [meetFlag, stuck]
  rfl

theorem meetSetting_stuck (setting : Setting) (value : Option Text) :
    r.meetSetting setting value = .error fault := by
  rw [meetSetting, stuck]
  rfl

theorem meetName_stuck (name : Text) (value : Option Text) :
    ∃ error, r.meetName name value = .error error := by
  unfold meetName
  generalize long? name = known
  match known, value with
  | none, _ => exact ⟨_, rfl⟩
  | some (.flag flag), none => exact ⟨_, meetFlag_stuck stuck flag⟩
  | some (.flag _), some _ => exact ⟨_, rfl⟩
  | some (.setting setting), value => exact ⟨_, meetSetting_stuck stuck setting value⟩

theorem meetLetters_stuck (letter : Char) (letters : Text) :
    ∃ error, meetLetters (letter :: letters) r = .error error := by
  unfold meetLetters
  cases short? letter with
  | none => exact ⟨_, rfl⟩
  | some argument =>
    cases argument with
    | flag flag =>
      refine ⟨fault, ?_⟩
      dsimp only
      rw [meetFlag_stuck stuck]
      rfl
    | setting setting => exact ⟨_, meetSetting_stuck stuck setting _⟩

end

/-- A setting that awaits its value is followed by a plain argument. -/
theorem plain_of_awaited (mixed : r.valuesOnly = false) (awaited : r.pending = some (setting, none))
    {arguments : List Text} (accepts : r.Accepts arguments) :
    ∃ value others, arguments = value :: others ∧ Plain value := by
  have stuck : r.resolve = .error .missingValue := by
    unfold resolve
    rw [awaited]
  have lost : r.found? = none := by
    unfold found?
    rw [stuck]
    rfl
  cases arguments with
  | nil =>
    have found : r.found?.isSome := accepts
    rw [lost] at found
    cases found
  | cons argument others =>
    refine ⟨argument, others, rfl, fun letter rest same => ?_⟩
    subst same
    obtain ⟨next, met, accepts⟩ := accepts_cons.mp accepts
    by_cases dash : letter = '-'
    · subst dash
      cases rest with
      | nil =>
        rw [meet_closing mixed] at met
        cases met
        cases others with
        | nil =>
          have found : ({ r with valuesOnly := true } : Reading).found?.isSome := accepts
          rw [found?_valuesOnly, lost] at found
          cases found
        | cons value others =>
          obtain ⟨next, met, -⟩ := accepts_cons.mp accepts
          have stuck : ({ r with valuesOnly := true } : Reading).resolve = .error .missingValue := by
            unfold resolve
            rw [awaited]
          rw [meet_closed rfl, meetValue_url (.inl rfl), stuck] at met
          split at met <;> cases met
      | cons c name =>
        rw [meet_long mixed (by simp)] at met
        split at met
        next name value _ =>
          obtain ⟨error, failed⟩ := meetName_stuck stuck name (some value)
          rw [failed] at met
          cases met
        next =>
          obtain ⟨error, failed⟩ := meetName_stuck stuck (c :: name) none
          rw [failed] at met
          cases met
    · obtain ⟨error, failed⟩ := meetLetters_stuck stuck letter rest
      rw [meet_short mixed dash, failed] at met
      cases met

/-! ## One item -/

/-- Help and the version end a reading. -/
theorem meetFlag_asked {flag : Flag} (asked : flag = .help ∨ flag = .version) (r : Reading) :
    ∃ error, r.meetFlag flag = .error error := by
  unfold meetFlag
  cases r.resolve with
  | error error => exact ⟨error, rfl⟩
  | ok r => obtain rfl | rfl := asked <;> exact ⟨_, rfl⟩

/-- Arguments that start with those of an item, or are the last ones. -/
inductive Begins : List Text → Prop where
  | item {item : Item} {arguments others : List Text} (spelling : Spelling item arguments) :
      Begins (arguments ++ others)
  | last {items : List Item} {arguments : List Text} (spelled : Spelled items arguments) :
      Begins arguments

section
variable (mixed : r.valuesOnly = false) (between : r.Between) {others : List Text}
include mixed between

theorem begins_named {argument : Text} (named : Named setting argument)
    (accepts : r.Accepts (argument :: others)) : Begins (argument :: others) := by
  obtain ⟨next, met, accepts⟩ := accepts_cons.mp accepts
  rw [(meet_named mixed named).1, meetSetting] at met
  obtain ⟨line, -, resolved⟩ | ⟨-, error, failed⟩ := resolve_cases between.complete
  · rw [resolved] at met
    cases met
    obtain ⟨value, rest, rfl, plain⟩ := plain_of_awaited (by exact mixed) (by rfl) accepts
    exact .item (.apart named plain)
  · rw [failed] at met
    cases met

theorem begins_closing (accepts : r.Accepts (['-', '-'] :: others)) :
    Begins (['-', '-'] :: others) := by
  obtain ⟨next, met, accepts⟩ := accepts_cons.mp accepts
  rw [meet_closing mixed] at met
  cases met
  match others with
  | [] => exact .last .closed
  | [value] => exact .last (.last value)
  | first :: second :: rest =>
    -- The first of them is the url, and then the second has no place.
    exfalso
    obtain ⟨next, met, accepts⟩ := accepts_cons.mp accepts
    have complete : ∀ setting, ({ r with valuesOnly := true } : Reading).pending ≠
      some (setting, none) := between.complete
    rw [meet_closed rfl, meetValue_url (.inl rfl)] at met
    obtain ⟨line, -, resolved⟩ | ⟨-, error, failed⟩ := resolve_cases complete
    · rw [resolved] at met
      split at met <;> cases met
      obtain ⟨last, met, -⟩ := accepts_cons.mp accepts
      rw [meet_closed rfl, meetValue_url (.inl rfl)] at met
      cases met
    · rw [failed] at met
      split at met <;> cases met

theorem begins_long {name : Text} (some_name : name ≠ [])
    (accepts : r.Accepts (('-' :: '-' :: name) :: others)) :
    Begins (('-' :: '-' :: name) :: others) := by
  obtain ⟨next, met, -⟩ := accepts_cons.mp accepts
  rw [meet_long mixed some_name] at met
  cases cut : Text.cut? '=' name with
  | none =>
    simp only [cut, meetName] at met
    cases known : long? name with
    | none => simp [known] at met
    | some argument =>
      cases argument with
      | flag flag => exact .item (.flag known)
      | setting setting => exact begins_named mixed between (.long known) accepts
  | some parts =>
    obtain ⟨start, value⟩ := parts
    simp only [cut, meetName] at met
    obtain ⟨-, rfl⟩ := Text.cut?_eq_some_iff.mp cut
    cases known : long? start with
    | none => simp [known] at met
    | some argument =>
      cases argument with
      | flag flag => simp [known] at met
      | setting setting => exact .item (.joined (.long known) value)

theorem begins_short {letter : Char} (other : letter ≠ '-') {letters : Text}
    (accepts : r.Accepts (('-' :: letter :: letters) :: others)) :
    Begins (('-' :: letter :: letters) :: others) := by
  obtain ⟨next, met, -⟩ := accepts_cons.mp accepts
  rw [meet_short mixed other] at met
  unfold meetLetters at met
  cases known : short? letter with
  | none => simp [known] at met
  | some argument =>
    cases argument with
    | flag flag =>
      obtain ⟨error, asked⟩ := meetFlag_asked ((short?_known known).2.2 flag rfl) r
      simp only [known, asked] at met
      cases met
    | setting setting =>
      cases letters with
      | nil => exact begins_named mixed between (.short known) accepts
      | cons first value =>
        by_cases equals : first = '='
        · subst equals
          exact .item (.joined (.short known) value)
        · exact .item (.attached known equals)

theorem begins_of_accepts {argument : Text} (accepts : r.Accepts (argument :: others)) :
    Begins (argument :: others) := by
  by_cases plain : Plain argument
  · exact .item (.url plain)
  · obtain ⟨letter, rest, rfl⟩ : ∃ letter rest, argument = '-' :: letter :: rest := by
      simpa [Plain] using plain
    by_cases dash : letter = '-'
    · subst dash
      cases rest with
      | nil => exact begins_closing mixed between accepts
      | cons c name => exact begins_long mixed between (by simp) accepts
    · exact begins_short mixed between dash accepts

end

/-! ## All of them -/

/-- A reading that goes on after the arguments of an item stands between two items there. -/
theorem accepts_append {item : Item} (mixed : r.valuesOnly = false) (between : r.Between)
    {arguments others : List Text} (spelling : Spelling item arguments)
    (accepts : r.Accepts (arguments ++ others)) :
    ∃ next : Reading, next.valuesOnly = false ∧ next.Between ∧ next.Accepts others := by
  unfold Accepts at accepts
  rw [List.foldlM_append] at accepts
  have after := after_item mixed between spelling
  generalize arguments.foldlM meet r = met at after accepts
  cases after with
  | stands next_between alike => exact ⟨_, alike.trans mixed, next_between, accepts⟩
  | fails => cases accepts

/-- Arguments with which a reading goes on to their end are those of items. -/
theorem spelled_of_accepts (mixed : r.valuesOnly = false) (between : r.Between)
    {arguments : List Text} (accepts : r.Accepts arguments) :
    ∃ items, Spelled items arguments := by
  induction size : arguments.length using Nat.strongRecOn generalizing r arguments with
  | ind n ih =>
    cases arguments with
    | nil => exact ⟨[], .nil⟩
    | cons argument others =>
      have begins := begins_of_accepts mixed between accepts
      generalize argument :: others = arguments at begins accepts size
      cases begins with
      | last spelled => exact ⟨_, spelled⟩
      | @item _ first rest spelling =>
        obtain ⟨next, still_mixed, next_between, goes_on⟩ :=
          accepts_append mixed between spelling accepts
        have shorter : rest.length < n := by
          rw [← size, List.length_append]
          exact Nat.lt_add_of_pos_left (List.length_pos_iff.mpr spelling.ne_nil)
        obtain ⟨items, spelled⟩ := ih _ shorter still_mixed next_between goes_on rfl
        exact ⟨_, .cons spelling spelled⟩

end Reading

/-- **What a command line means.** Arguments are read exactly where they spell items that can be
given one after the other, and then as what the items come to. -/
theorem read_eq_ok_iff {arguments : List Text} {line : CommandLine} :
    read arguments = .ok line ↔
      ∃ items, Spelled items arguments ∧ ofItems? items = some line := by
  constructor
  · intro accepted
    have accepts : ({} : Reading).Accepts arguments := by
      rw [Reading.Accepts, ← read_eq, accepted]
      rfl
    obtain ⟨items, spelled⟩ := Reading.spelled_of_accepts rfl between_start accepts
    exact ⟨items, spelled, (read_spelled_iff spelled).mp accepted⟩
  · rintro ⟨items, spelled, comes⟩
    exact (read_spelled_iff spelled).mpr comes

end CommandLine
end RemoteTerminal
