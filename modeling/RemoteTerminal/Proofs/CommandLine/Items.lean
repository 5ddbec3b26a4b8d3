import RemoteTerminal.CommandLine
import RemoteTerminal.Proofs.Text.Pieces

/-!
# What a command line says

A command line says items: flags, and settings with their values. `Spelled` is the grammar of the
arguments that say them, and `ofItems?` is what they come to, one after the other.

* `Reading.after_item`: a reading meets the arguments of an item and takes it up.
* `read_spelled_iff`: so a command line is read as what its items come to.
-/

namespace RemoteTerminal

namespace CommandLine

/-- One thing that a command line says. -/
inductive Item where
  | flag (flag : Flag)
  | setting (setting : Setting) (value : Text)
  deriving DecidableEq, Repr

/-- The command line with what an item says, if it can be said there. -/
def say? (line : CommandLine) : Item → Option CommandLine
  | .flag flag => (line.raise flag).toOption
  | .setting setting value => (line.give setting value).toOption

/-- What items come to, if they can be said one after the other. -/
def ofItems? (items : List Item) : Option CommandLine := items.foldlM say? {}

/-! ## The grammar -/

/-- An argument that stands for itself: no dash with something after it. -/
def Plain (argument : Text) : Prop := ∀ letter rest, argument ≠ '-' :: letter :: rest

/-- An argument that names a setting and does not give its value. -/
inductive Named (setting : Setting) : Text → Prop where
  | long {name : Text} (known : long? name = some (.setting setting)) :
      Named setting ('-' :: '-' :: name)
  | short {letter : Char} (known : short? letter = some (.setting setting)) :
      Named setting ['-', letter]

/-- The arguments that say an item. The value of a setting follows its name, in the next argument or
after `=`, or else its letter; a value alone is the url. -/
inductive Spelling : Item → List Text → Prop where
  | flag {name : Text} {flag : Flag} (known : long? name = some (.flag flag)) :
      Spelling (.flag flag) ['-' :: '-' :: name]
  | apart {setting : Setting} {argument value : Text} (named : Named setting argument)
      (plain : Plain value) : Spelling (.setting setting value) [argument, value]
  | joined {setting : Setting} {argument : Text} (named : Named setting argument) (value : Text) :
      Spelling (.setting setting value) [argument ++ '=' :: value]
  | attached {setting : Setting} {letter first : Char} {value : Text}
      (known : short? letter = some (.setting setting)) (other : first ≠ '=') :
      Spelling (.setting setting (first :: value)) ['-' :: letter :: first :: value]
  | url {value : Text} (plain : Plain value) : Spelling (.setting .url value) [value]

/-- The arguments that say items. After `--` comes nothing or the url. -/
inductive Spelled : List Item → List Text → Prop where
  | nil : Spelled [] []
  | cons {item : Item} {items : List Item} {arguments others : List Text}
      (spelling : Spelling item arguments) (spelled : Spelled items others) :
      Spelled (item :: items) (arguments ++ others)
  | closed : Spelled [] [['-', '-']]
  | last (value : Text) : Spelled [.setting .url value] [['-', '-'], value]

/-! ## Names -/

theorem long?_known {name : Text} {argument : Argument} (known : long? name = some argument) :
    name ≠ [] ∧ '=' ∉ name ∧ argument ≠ .setting .url := by
  have eq_of {word : String} (same : String.ofList name = word) : name = word.toList := by
    rw [← same, String.toList_ofList]
  unfold long? at known
  split at known <;> cases known
  all_goals
    next same =>
    rw [eq_of same]
    exact ⟨by decide, by decide, nofun⟩

theorem short?_known {letter : Char} {argument : Argument}
    (known : short? letter = some argument) :
    letter ≠ '-' ∧ argument ≠ .setting .url ∧
      ∀ flag, argument = .flag flag → flag = .help ∨ flag = .version := by
  unfold short? at known
  split at known <;> cases known
  all_goals exact ⟨by decide, nofun, by simp⟩

theorem Named.ne_url {setting : Setting} {argument : Text} (named : Named setting argument) :
    setting ≠ .url := by
  cases named with
  | long known => exact fun same => (long?_known known).2.2 (congrArg _ same)
  | short known => exact fun same => (short?_known known).2.1 (congrArg _ same)

theorem Spelling.ne_nil {item : Item} {arguments : List Text}
    (spelling : Spelling item arguments) : arguments ≠ [] := by
  cases spelling <;> simp

/-! ## What an item changes -/

section
variable {line next : CommandLine}

theorem url_raise {flag : Flag} (raised : line.raise flag = .ok next) : next.url = line.url := by
  unfold raise at raised
  split at raised
  case h_7 | h_8 => cases raised
  all_goals
    split at raised <;> cases raised
    rfl

theorem url_give {setting : Setting} {value : Text} (given : line.give setting value = .ok next)
    (other : setting ≠ .url) : next.url = line.url := by
  unfold give at given
  split at given
  next => cases given
  next =>
    cases setting with
    | url => exact absurd rfl other
    | post =>
      unfold assign at given
      cases field : postField value <;> simp only [field] at given <;> cases given
      rfl
    | tabWidth | timeout =>
      unfold assign at given
      cases number : count value <;> simp only [number] at given <;> cases given
      rfl
    | _ =>
      cases given
      rfl

theorem url_say? {item : Item} (said : line.say? item = some next)
    (other : ∀ value, item ≠ .setting .url value) : next.url = line.url := by
  cases item with
  | flag flag =>
    cases raised : line.raise flag <;> simp only [say?, raised] at said <;> cases said
    exact url_raise raised
  | setting setting value =>
    cases given : line.give setting value <;> simp only [say?, given] at said <;> cases said
    exact url_give given fun same => other value (same ▸ rfl)

end

/-! ## Reading -/

namespace Reading

/-- What a reading comes to if nothing follows. -/
def found? (r : Reading) : Option CommandLine := (r.resolve.map Reading.line).toOption

/-- A reading that stands between two items. -/
structure Between (r : Reading) : Prop where
  complete : ∀ setting, r.pending ≠ some (setting, none)
  url_iff : ∀ line, r.found? = some line → line.url.isSome = r.urlMet

/-- What has become of a reading that has met the arguments of an item. -/
inductive After (r : Reading) (item : Item) : Except UsageError Reading → Prop where
  | stands {next : Reading} (between : next.Between) (alike : next.valuesOnly = r.valuesOnly)
      (found : next.found? = r.found?.bind (·.say? item)) : After r item (.ok next)
  | fails {error : UsageError} (found : r.found?.bind (·.say? item) = none) :
      After r item (.error error)

variable {r : Reading} {line : CommandLine} {item : Item} {setting : Setting} {value : Text}

@[simp] theorem found?_valuesOnly (r : Reading) :
    ({ r with valuesOnly := true } : Reading).found? = r.found? := by
  obtain ⟨line, pending, urlMet, valuesOnly⟩ := r
  unfold found? resolve
  match pending with
  | none => rfl
  | some (setting, none) => rfl
  | some (setting, some value) =>
    dsimp only
    cases line.give setting value <;> rfl

theorem resolve_pending (r : Reading) (setting : Setting) (value : Text) :
    ({ r with pending := some (setting, some value) } : Reading).resolve =
      (r.line.give setting value).map fun line => { r with line, pending := none } := by
  unfold resolve
  dsimp only
  cases r.line.give setting value <;> rfl

theorem found?_pending (r : Reading) (setting : Setting) (value : Text) :
    ({ r with pending := some (setting, some value) } : Reading).found? =
      r.line.say? (.setting setting value) := by
  rw [found?, resolve_pending, say?]
  cases r.line.give setting value <;> rfl

/-- What a reading has found is its line with the pending value, if that can be given. -/
theorem resolve_cases (complete : ∀ setting, r.pending ≠ some (setting, none)) :
    (∃ line, r.found? = some line ∧ r.resolve = .ok { r with line, pending := none }) ∨
      r.found? = none ∧ ∃ error, r.resolve = .error error := by
  obtain ⟨line, pending, urlMet, valuesOnly⟩ := r
  match pending with
  | none => exact .inl ⟨line, rfl, rfl⟩
  | some (setting, none) => exact absurd rfl (complete setting)
  | some (setting, some value) =>
    have resolved := resolve_pending { line, urlMet, valuesOnly } setting value
    have found := found?_pending { line, urlMet, valuesOnly } setting value
    cases given : line.give setting value with
    | ok next =>
      rw [given] at resolved
      rw [say?, given] at found
      exact .inl ⟨next, found, resolved⟩
    | error error =>
      rw [given] at resolved
      rw [say?, given] at found
      exact .inr ⟨found, error, resolved⟩

/-- An item that is taken up at once. -/
theorem after_now (between : r.Between) (other : ∀ value, item ≠ .setting .url value)
    (found : r.found? = some line) {result : Except UsageError CommandLine}
    (said : line.say? item = result.toOption) :
    After r item (result.map fun next => { r with line := next, pending := none }) := by
  cases result with
  | error => exact .fails (by rw [found]; exact said)
  | ok next =>
    refine .stands ⟨nofun, fun _ same => ?_⟩ rfl (by rw [found]; exact said.symm)
    cases same
    rw [url_say? said other]
    exact between.url_iff line found

/-- A value in an argument of its own is given to its setting later on. -/
theorem after_later (between : r.Between) (found : r.found? = some line) {urlMet : Bool}
    (met : urlMet = (r.urlMet || setting = .url)) :
    After r (.setting setting value)
      (.ok { r with line, pending := some (setting, some value), urlMet }) := by
  have comes := found?_pending { r with line, urlMet } setting value
  refine .stands ⟨nofun, fun next said => ?_⟩ rfl (by rw [found]; exact comes)
  replace said : line.say? (.setting setting value) = some next := comes.symm.trans said
  dsimp only
  rw [met, ← between.url_iff line found]
  by_cases is_url : setting = .url
  · subst is_url
    cases held : line.url <;> simp [say?, give, holds, held, assign, Except.toOption] at said
    simp [← said]
  · rw [url_say? said fun _ same => is_url (Item.setting.inj same).1]
    simp [is_url]

theorem after_flag (between : r.Between) (flag : Flag) :
    After r (.flag flag) (r.meetFlag flag) := by
  obtain ⟨line, found, resolved⟩ | ⟨lost, error, failed⟩ := resolve_cases between.complete
  · have met : r.meetFlag flag =
        (line.raise flag).map fun next => { r with line := next, pending := none } := by
      rw [meetFlag, resolved]
      show (line.raise flag >>= fun next => .ok { r with line := next, pending := none }) = _
      cases line.raise flag <;> rfl
    rw [met]
    exact after_now between (by simp) found rfl
  · rw [meetFlag, failed]
    exact .fails (by rw [lost]; rfl)

theorem after_joined (between : r.Between) (other : setting ≠ .url) (value : Text) :
    After r (.setting setting value) (r.meetSetting setting (some value)) := by
  obtain ⟨line, found, resolved⟩ | ⟨lost, error, failed⟩ := resolve_cases between.complete
  · have met : r.meetSetting setting (some value) =
        (line.give setting value).map fun next => { r with line := next, pending := none } := by
      rw [meetSetting, resolved]
      show (line.give setting value >>= fun next => .ok { r with line := next, pending := none }) = _
      cases line.give setting value <;> rfl
    rw [met]
    exact after_now between (fun _ same => other (Item.setting.inj same).1) found rfl
  · rw [meetSetting, failed]
    exact .fails (by rw [lost]; rfl)

/-! ### Meeting arguments -/

theorem meet_closed (closed : r.valuesOnly = true) (argument : Text) :
    r.meet argument = r.meetValue argument := by
  unfold meet
  rw [if_pos closed]

section
variable (mixed : r.valuesOnly = false) {argument name : Text}
include mixed

theorem meet_closing : r.meet ['-', '-'] = .ok { r with valuesOnly := true } := by
  unfold meet
  rw [if_neg (by simp [mixed])]
  rfl

theorem meet_plain (plain : Plain argument) : r.meet argument = r.meetValue argument := by
  unfold meet
  rw [if_neg (by simp [mixed])]
  split
  next => exact absurd rfl (plain _ _)
  next => exact absurd rfl (plain _ _)
  next => exact absurd rfl (plain _ _)
  next => rfl

theorem meet_long (some_name : name ≠ []) :
    r.meet ('-' :: '-' :: name) = match Text.cut? '=' name with
      | some (name, value) => r.meetName name (some value)
      | none => r.meetName name none := by
  obtain ⟨c, name, rfl⟩ := List.exists_cons_of_ne_nil some_name
  unfold meet
  rw [if_neg (by simp [mixed])]
  rfl

theorem meet_short {letter : Char} (other : letter ≠ '-') (letters : Text) :
    r.meet ('-' :: letter :: letters) = meetLetters (letter :: letters) r := by
  unfold meet
  rw [if_neg (by simp [mixed])]
  split
  next same =>
    cases same
    exact absurd rfl other
  next same =>
    cases same
    exact absurd rfl other
  next same =>
    cases same
    rfl
  next others => exact (others _ _ rfl).elim

theorem meet_named (named : Named setting argument) :
    r.meet argument = r.meetSetting setting none ∧
      ∀ value, r.meet (argument ++ '=' :: value) = r.meetSetting setting (some value) := by
  cases named with
  | @long name known =>
    obtain ⟨some_name, whole, -⟩ := long?_known known
    refine ⟨?_, fun value => ?_⟩
    · rw [meet_long mixed some_name, Text.cut?_of_not_mem whole]
      simp only [meetName, known]
    · show r.meet ('-' :: '-' :: (name ++ '=' :: value)) = _
      rw [meet_long mixed (by simp), Text.cut?_append_cons whole]
      simp only [meetName, known]
  | short known =>
    obtain ⟨other, -⟩ := short?_known known
    refine ⟨?_, fun value => ?_⟩
    · rw [meet_short mixed other]
      simp only [meetLetters, known]
    · show r.meet ('-' :: _ :: '=' :: value) = _
      rw [meet_short mixed other]
      simp only [meetLetters, known]

end

theorem meetValue_awaited (mixed : r.valuesOnly = false) (awaited : r.pending = some (setting, none))
    (value : Text) :
    r.meetValue value = .ok { r with pending := some (setting, some value) } := by
  unfold meetValue
  rw [awaited, mixed]

/-- A value that no setting awaits is the url. -/
theorem meetValue_url
    (free : r.valuesOnly = true ∨ ∀ setting, r.pending ≠ some (setting, none)) (value : Text) :
    r.meetValue value = if r.urlMet then .error .unknownArgument else
      r.resolve.map fun r => { r with pending := some (.url, some value), urlMet := true } := by
  unfold meetValue
  split
  next awaited mixed => exact absurd awaited (free.resolve_left (by simp [mixed]) _)
  next =>
    cases r.urlMet
    · cases r.resolve <;> rfl
    · rfl

/-- A url beside another, or beside a value that its setting cannot have, is no url. -/
theorem after_url (between : r.Between) (value : Text) :
    After r (.setting .url value) (r.meetValue value) := by
  rw [meetValue_url (.inr between.complete)]
  obtain ⟨line, found, resolved⟩ | ⟨lost, error, failed⟩ := resolve_cases between.complete
  · cases met : r.urlMet with
    | false =>
      rw [resolved]
      exact after_later between found (by simp)
    | true =>
      refine .fails ?_
      have held : line.holds .url = true := (between.url_iff line found).trans met
      rw [found]
      show (line.give .url value).toOption = none
      rw [give, if_pos held]
      rfl
  · have stops : (r.found?.bind (·.say? (.setting .url value))) = none := by rw [lost]; rfl
    rw [failed]
    cases r.urlMet <;> exact .fails stops

/-- A reading meets the arguments of an item and takes it up, or cannot. -/
theorem after_item (mixed : r.valuesOnly = false) (between : r.Between) {arguments : List Text}
    (spelling : Spelling item arguments) : After r item (arguments.foldlM meet r) := by
  cases spelling with
  | @flag name flag known =>
    obtain ⟨some_name, whole, -⟩ := long?_known known
    rw [List.foldlM_cons, meet_long mixed some_name, Text.cut?_of_not_mem whole]
    simp only [meetName, known, List.foldlM_nil, bind_pure]
    exact after_flag between flag
  | joined named value =>
    rw [List.foldlM_cons, (meet_named mixed named).2]
    simp only [List.foldlM_nil, bind_pure]
    exact after_joined between named.ne_url value
  | @attached setting letter first value known other =>
    obtain ⟨no_dash, not_url, -⟩ := short?_known known
    rw [List.foldlM_cons, meet_short mixed no_dash]
    simp only [meetLetters, known, List.foldlM_nil, bind_pure]
    split
    next same => cases same
    next same => exact absurd (List.cons.inj same).1 other
    next => exact after_joined between (fun same => not_url (congrArg _ same)) _
  | @apart setting argument value named plain =>
    rw [List.foldlM_cons, (meet_named mixed named).1, meetSetting]
    obtain ⟨line, found, resolved⟩ | ⟨lost, error, failed⟩ := resolve_cases between.complete
    · rw [resolved]
      show After r _ (List.foldlM meet { r with line, pending := some (setting, none) } [value])
      rw [List.foldlM_cons, meet_plain (by exact mixed) plain,
        meetValue_awaited (by exact mixed) rfl]
      exact after_later between found (by simp [named.ne_url])
    · rw [failed]
      exact .fails (by rw [lost]; rfl)
  | url plain =>
    rw [List.foldlM_cons, meet_plain mixed plain]
    simp only [List.foldlM_nil, bind_pure]
    exact after_url between _

end Reading

/-! ## A whole command line -/

theorem read_eq (arguments : List Text) :
    (read arguments).toOption =
      (arguments.foldlM Reading.meet {}).toOption.bind Reading.found? := by
  unfold read
  cases arguments.foldlM Reading.meet {} with
  | error => rfl
  | ok r =>
    show ((r.resolve >>= fun r => pure r.line) : Except UsageError CommandLine).toOption = r.found?
    unfold Reading.found?
    cases r.resolve <;> rfl

theorem found?_of_spelled {items : List Item} {arguments : List Text}
    (spelled : Spelled items arguments) {r : Reading} (mixed : r.valuesOnly = false)
    (between : r.Between) :
    (arguments.foldlM Reading.meet r).toOption.bind Reading.found? =
      r.found?.bind (items.foldlM say? ·) := by
  induction spelled generalizing r with
  | nil => exact (Option.bind_fun_some _).symm
  | @cons item items arguments others spelling _ ih =>
    rw [List.foldlM_append]
    have after := Reading.after_item mixed between spelling
    generalize arguments.foldlM Reading.meet r = met at after
    cases after with
    | stands next_between alike found =>
      refine (ih (alike.trans mixed) next_between).trans ?_
      rw [found, Option.bind_assoc]
      rfl
    | fails lost =>
      have none_left : (r.found?.bind (·.say? item)).bind (items.foldlM say? ·) = none := by
        rw [lost]
        rfl
      rw [Option.bind_assoc] at none_left
      exact none_left.symm
  | closed =>
    rw [List.foldlM_cons, Reading.meet_closing mixed]
    show ({ r with valuesOnly := true } : Reading).found? = _
    rw [Reading.found?_valuesOnly]
    exact (Option.bind_fun_some _).symm
  | last value =>
    have still_between : ({ r with valuesOnly := true } : Reading).Between :=
      ⟨between.complete, fun line found => between.url_iff line (r.found?_valuesOnly ▸ found)⟩
    have after := Reading.after_url still_between value
    rw [List.foldlM_cons, Reading.meet_closing mixed]
    show (List.foldlM Reading.meet { r with valuesOnly := true } [value]).toOption.bind _ = _
    rw [List.foldlM_cons, Reading.meet_closed rfl]
    simp only [List.foldlM_nil, List.foldlM_cons, bind_pure]
    generalize Reading.meetValue _ value = met at after
    cases after with
    | stands _ _ found =>
      rw [Reading.found?_valuesOnly] at found
      exact found
    | fails lost =>
      rw [Reading.found?_valuesOnly] at lost
      exact lost.symm

theorem between_start : ({} : Reading).Between := ⟨nofun, fun _ found => by cases found; rfl⟩

/-- A command line is read as what its items come to. -/
theorem read_spelled_iff {items : List Item} {arguments : List Text}
    (spelled : Spelled items arguments) {line : CommandLine} :
    read arguments = .ok line ↔ ofItems? items = some line := by
  have comes : (read arguments).toOption = ofItems? items := by
    rw [read_eq, found?_of_spelled spelled rfl between_start]
    rfl
  rw [← comes]
  cases read arguments <;> simp [Except.toOption]

end CommandLine
end RemoteTerminal
