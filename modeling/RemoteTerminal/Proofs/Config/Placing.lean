import RemoteTerminal.Config.Template
import RemoteTerminal.Proofs.Config.Search
import RemoteTerminal.Proofs.Files.Writing
import RemoteTerminal.Proofs.Options.Layers
import RemoteTerminal.Proofs.Text.Utf8

/-!
# The document that a new user starts from

* `place_created_iff`, `place_of_there`: when an attempt to place the document creates it, and that
  it does nothing once the document is there.
* `place_grows`: no attempt loses anything, also where it fails.
* `placings_keep`, `placings_of_same`: the same for any number of attempts.
* `templateOptions_resolve`: the document sets options to what they usually are, also under further
  layers.
* `placing_harmless`: a document that was placed is found, and changes nothing.
-/

namespace RemoteTerminal.Config

variable {files after : Files} {working : Place} {env : Environment} {root : Text}

/-! ## Attempts at a file -/

theorem makeUserDirectory_grows (files : Files) (working : Place) (root : Text) :
    files.Grows (makeUserDirectory files working root).2 :=
  (Files.makeDirectories_grows files working _ _).1

/-- The directory of a user's file is not made again. -/
theorem makeUserDirectory_again {made : Files}
    (h : makeUserDirectory files working root = (none, made)) (grows : made.Grows after) :
    makeUserDirectory after working root = (none, after) := by
  have standing := (Files.makeDirectories_grows files working
    ((userDirectory root).head? = some '/') (partsOf (userDirectory root))).2
  unfold makeUserDirectory at h
  rw [h] at standing
  exact Files.makeDirectories_of_standing fun some_part =>
    grows.isDirectory (standing rfl some_part)

/-- The document is created where its directory can be made and nothing is there. -/
theorem writeTemplate_created_iff {path : Text} :
    writeTemplate files working root = (.ok (.created path), after) ↔
      path = userFile root ∧ ∃ made, makeUserDirectory files working root = (none, made) ∧
        made.create working (userFile root) (Bytes.encode template) = .ok after := by
  unfold writeTemplate
  obtain ⟨_ | fault, made⟩ := makeUserDirectory files working root
  · cases created : made.create working (userFile root) (Bytes.encode template) with
    | ok done =>
      simp only [created, Except.ok.injEq, Prod.mk.injEq, Placed.created.injEq, true_and]
      constructor
      · rintro ⟨rfl, rfl⟩
        exact ⟨rfl, made, rfl, created⟩
      · rintro ⟨rfl, _, rfl, again⟩
        exact ⟨rfl, Except.ok.inj (created.symm.trans again)⟩
    | error fault => cases fault <;> simp [created]
  · simp

theorem writeTemplate_of_there {content : Bytes}
    (standing : makeUserDirectory files working root = (none, files))
    (there : files.readBytes working (userFile root) = .ok content) :
    writeTemplate files working root = (.ok (.present (userFile root)), files) := by
  simp [writeTemplate, standing, Files.create_of_readBytes there]

theorem writeTemplate_grows (files : Files) (working : Place) (root : Text) :
    files.Grows (writeTemplate files working root).2 := by
  have grows := makeUserDirectory_grows files working root
  unfold writeTemplate
  generalize makeUserDirectory files working root = made at grows
  obtain ⟨_ | fault, made⟩ := made
  · cases created : made.create working (userFile root) (Bytes.encode template) with
    | ok done => simpa [created] using grows.trans (Files.create_grows created).1
    | error fault => cases fault <;> simpa [created] using grows
  · exact grows

/-! ## Attempts at the user's file -/

theorem place_of_rootless (rootless : userConfigPath env = none) :
    place files working env = (.error (.unfit .noDirectory), files) := by
  rw [userConfigPath, Option.map_eq_none_iff] at rootless
  rw [place, rootless]

theorem place_of_root (rooted : env.configRoot = some root) :
    place files working env =
      ((writeTemplate files working root).1.mapError .file,
        (writeTemplate files working root).2) := by
  rw [place, rooted]

theorem userConfigPath_of_root (rooted : env.configRoot = some root) :
    userConfigPath env = some (userFile root) := by
  rw [userConfigPath, rooted, Option.map_some]

/-- The user's file is created where there is a directory for it and nothing in its place. -/
theorem place_created_iff {path : Text} :
    place files working env = (.ok (.created path), after) ↔
      ∃ root, env.configRoot = some root ∧ path = userFile root ∧
        ∃ made, makeUserDirectory files working root = (none, made) ∧
          made.create working (userFile root) (Bytes.encode template) = .ok after := by
  cases rooted : env.configRoot with
  | none => simp [place, rooted]
  | some root =>
    rw [place_of_root rooted]
    simp only [Option.some.injEq, exists_eq_left', ← writeTemplate_created_iff]
    obtain ⟨placed, left⟩ := writeTemplate files working root
    cases placed <;> simp [Except.mapError]

theorem place_of_there {content : Bytes} (rooted : env.configRoot = some root)
    (standing : makeUserDirectory files working root = (none, files))
    (there : files.readBytes working (userFile root) = .ok content) :
    place files working env = (.ok (.present (userFile root)), files) := by
  rw [place_of_root rooted, writeTemplate_of_there standing there]
  rfl

/-- No attempt loses anything that was there, whatever it comes to. -/
theorem place_grows (files : Files) (working : Place) (env : Environment) :
    files.Grows (place files working env).2 := by
  cases rooted : env.configRoot with
  | none =>
    rw [place, rooted]
    exact .refl files
  | some root =>
    rw [place_of_root rooted]
    exact writeTemplate_grows files working root

theorem place_of_answer {placed : Except ConfigError Placed}
    (answered : (place files working env).1 = placed) :
    place files working env = (placed, (place files working env).2) := by
  rw [← answered]

/-- Where there is a file, none is created. -/
theorem place_ne_created {content : Bytes} {path other : Text}
    (named : userConfigPath env = some path)
    (there : files.readBytes working path = .ok content) :
    (place files working env).1 ≠ .ok (.created other) := by
  intro created
  obtain ⟨root, rooted, -, made, directory, done⟩ :=
    place_created_iff.mp (place_of_answer created)
  rw [userConfigPath_of_root rooted, Option.some.injEq] at named
  have grows := makeUserDirectory_grows files working root
  rw [directory] at grows
  rw [Files.create_of_readBytes (grows.readBytes (named ▸ there))] at done
  cases done

/-- The answers of some attempts one after the other, and the files that they leave. -/
def placings (working : Place) (env : Environment) :
    Nat → Files → List (Except ConfigError Placed) × Files
  | 0, files => ([], files)
  | n + 1, files =>
    let (answers, left) := placings working env n (place files working env).2
    ((place files working env).1 :: answers, left)

/-- Attempts keep a file that is there, and never answer that they created it. -/
theorem placings_keep {content : Bytes} {path : Text} (named : userConfigPath env = some path)
    (there : files.readBytes working path = .ok content) (n : Nat) :
    (placings working env n files).2.readBytes working path = .ok content ∧
      ∀ other, .ok (.created other) ∉ (placings working env n files).1 := by
  induction n generalizing files with
  | zero => exact ⟨there, nofun⟩
  | succ n ih =>
    obtain ⟨kept, uncreated⟩ := ih ((place_grows files working env).readBytes there)
    refine ⟨kept, fun other answered => ?_⟩
    obtain here | later := List.mem_cons.mp answered
    · exact place_ne_created named there here.symm
    · exact uncreated other later

/-- Attempts that leave the files as they are all have the same answer. -/
theorem placings_of_same {placed : Except ConfigError Placed}
    (same : place files working env = (placed, files)) (n : Nat) :
    placings working env n files = (List.replicate n placed, files) := by
  induction n with
  | zero => rfl
  | succ n ih =>
    rw [placings, same, ih]
    rfl

/-! ## What the document sets -/

/-- The options that the document sets. -/
def templateOptions : Options where
  maxHeight := some .fill
  formMethod := some Options.usualMethod
  inputFieldName := some Options.usualFieldName
  extraPostFields := some .empty
  focusOnLoad := some true
  submitOnLoad := some false
  grabFocusOnClick := some true
  themeEnabled := some true
  allowEmptyInput := some false
  tabWidth := some Options.usualTabWidth
  inputDisabled := some false

/-- The document from the characters of its lines. -/
theorem template_spelled {lines : List Text}
    (spelled : List.Forall₂ (fun line chars => line = String.ofList chars) templateLines lines) :
    template = lines.flatMap (· ++ ['\n']) := by
  unfold template
  generalize templateLines = strings at spelled
  induction spelled with
  | nil => rfl
  | cons same _ ih => rw [List.flatMap_cons, List.flatMap_cons, ih, same, String.toList_ofList]

theorem ofToml_template : ofToml template = .ok { terminal := templateOptions } := by
  -- Taking the strings apart first spares the evaluation the way over their bytes.
  rw [template_spelled (by repeat' constructor)]
  decide +kernel

/-- Below any layers, the document sets what is usual anyway. -/
theorem templateOptions_resolve (upper : Options) (height : Nat) :
    (templateOptions.overlay upper).resolve height = upper.resolve height := by
  have usually {α : Type} (set : Option α) (usual : α) :
      (set.or (some usual)).getD usual = set.getD usual := by
    cases set <;> rfl
  have method : ((Options.nonBlank (upper.formMethod.or (some Options.usualMethod))).map
      Text.asciiUpper).getD Options.usualMethod =
        ((Options.nonBlank upper.formMethod).map Text.asciiUpper).getD Options.usualMethod := by
    cases upper.formMethod <;> rfl
  have field : (Options.nonBlank (upper.inputFieldName.or (some Options.usualFieldName))).getD
      Options.usualFieldName = (Options.nonBlank upper.inputFieldName).getD
        Options.usualFieldName := by
    cases upper.inputFieldName <;> rfl
  simp only [Options.resolve, Options.overlay, templateOptions, usually, method, field,
    Option.or_none]

/-- The environment leaves the options alone. -/
theorem apply_terminal (env : Environment) (config : Config) (terminal : Options) :
    env.apply { config with terminal } =
      (env.apply config).map fun after => { after with terminal } := by
  rw [Environment.apply_eq, Environment.apply_eq]
  cases env.trimmed? Environment.timeoutVariable with
  | none => rfl
  | some given =>
    dsimp only
    cases Text.count? Environment.secondsBound given <;> rfl

/-! ## The document that was placed -/

theorem load_of_created {path : Text} {fault : FileFault}
    (created : place files working env = (.ok (.created path), after))
    (own : after.readText working configFileName = .error fault) :
    load after working env none = (env.apply {}).map fun config =>
      ({ config with terminal := templateOptions }, .user path) := by
  obtain ⟨root, rooted, rfl, made, -, done⟩ := place_created_iff.mp created
  have named := userConfigPath_of_root rooted
  have read := Files.readText_of_readBytes (Files.create_grows done).2
  rw [Files.textOf, Bytes.decode_encode] at read
  rw [load, loadBy_eq (.user own named read), ofToml_template]
  dsimp only
  rw [apply_terminal env {} templateOptions]
  cases env.apply {} <;> rfl

theorem load_of_none {fault : FileFault}
    (own : files.readText working configFileName = .error fault)
    (users : ∀ path, userConfigPath env = some path →
      ∃ fault, files.readText working path = .error fault) :
    load files working env none = (env.apply {}).map fun config => (config, .defaults) :=
  loadBy_eq (.defaults own users)

/-- **A document that is placed changes nothing, and is placed once.** Without a directory for it,
all attempts to place it fail for that, and leave the files as they are. Otherwise they keep a file
that is there. One that creates it creates it where a configuration is looked for, and all later
ones find it and do nothing. Where no other file comes before it, it is then loaded, with the same
endpoint and display as where there is no file at all, and with options that come to the same
settings, below any layers; unless the environment holds a timeout that is none, and then loading
fails for that, with the document as without. -/
theorem placing_harmless (files : Files) (working : Place) (env : Environment) :
    let Timely (given : Text) := ∃ n < Nat.pow 2 64, given.Spells n
    (userConfigPath env = none → ∀ n, placings working env n files =
      (List.replicate n (.error (.unfit .noDirectory)), files)) ∧
    (∀ path content, userConfigPath env = some path → files.readBytes working path = .ok content →
      ∀ n, (placings working env n files).2.readBytes working path = .ok content ∧
        ∀ other, .ok (.created other) ∉ (placings working env n files).1) ∧
    ∀ path after, place files working env = (.ok (.created path), after) →
      userConfigPath env = some path ∧
      after.readBytes working path = .ok (Bytes.encode template) ∧
      (∀ n, placings working env n after = (List.replicate n (.ok (.present path)), after)) ∧
      ∀ fault, after.readText working configFileName = .error fault →
        ∀ (bare : Files) (there : Place),
          (∃ fault, bare.readText there configFileName = .error fault) →
          (∃ fault, bare.readText there path = .error fault) →
            ((∀ given, env.Sets Environment.timeoutVariable given → Timely given) →
              ∃ config usual, load after working env none = .ok (config, .user path) ∧
                load bare there env none = .ok (usual, .defaults) ∧
                config.endpoint = usual.endpoint ∧ config.display = usual.display ∧
                (∀ height, config.terminal.resolve height = usual.terminal.resolve height) ∧
                ∀ upper height, (config.terminal.overlay upper).resolve height =
                  (usual.terminal.overlay upper).resolve height) ∧
            ∀ given, env.Sets Environment.timeoutVariable given → ¬ Timely given →
              load after working env none = .error (.unfit (.timeout given)) ∧
                load bare there env none = .error (.unfit (.timeout given)) := by
  intro Timely
  refine ⟨fun rootless => placings_of_same (place_of_rootless rootless),
    fun path content named there n => placings_keep named there n, fun path after placed => ?_⟩
  obtain ⟨root, rooted, rfl, made, directory, done⟩ := place_created_iff.mp placed
  obtain ⟨grows, held⟩ := Files.create_grows done
  have again := makeUserDirectory_again directory grows
  have named := userConfigPath_of_root rooted
  refine ⟨named, held, placings_of_same (place_of_there rooted again held), ?_⟩
  intro fault own bare there ⟨_, bare_own⟩ bare_users
  have sought : ∀ path, userConfigPath env = some path →
      ∃ fault, bare.readText there path = .error fault := by
    intro path same
    rw [named, Option.some.injEq] at same
    exact same ▸ bare_users
  rw [load_of_created placed own, load_of_none bare_own sought]
  obtain ⟨usual, applied, overrides⟩ | ⟨given, applied, set, beyond⟩ := env.apply_cases {}
  · rw [applied]
    constructor
    · intro _
      have unset : usual.terminal = .unset := overrides.terminal
      have same (upper : Options) (height : Nat) :
          (templateOptions.overlay upper).resolve height =
            (usual.terminal.overlay upper).resolve height := by
        rw [templateOptions_resolve, unset, Options.unset_overlay]
      exact ⟨_, usual, rfl, rfl, rfl, rfl, same .unset, same⟩
    · intro given set untimely
      obtain ⟨n, small, spelled, -⟩ := overrides.timeout_set given set
      exact absurd ⟨n, small, spelled⟩ untimely
  · rw [applied]
    constructor
    · intro timely
      exact absurd (timely given set) beyond
    · intro other set' _
      rw [set'.unique set]
      exact ⟨rfl, rfl⟩

/-- In a tree without any file: the document is created in directories that are made for it, found
twice, and loaded to the usual settings and the timeout of the environment. -/
theorem first_document_harmless :
    let env : Environment := .ofVariables [
      (Environment.configHomeVariable, "/c".toList), (Environment.timeoutVariable, " 7".toList)]
    let path := "/c/webterm/webterm.toml".toList
    let working := ["w".toList]
    let files := Files.ofList [(working, .directory)]
    ∃ after config usual, place files working env = (.ok (.created path), after) ∧
      placings working env 2 after = ([.ok (.present path), .ok (.present path)], after) ∧
      load after working env none = .ok (config, .user path) ∧
      load files working env none = .ok (usual, .defaults) ∧
      config.endpoint = usual.endpoint ∧
      config.terminal.resolve 480 = usual.terminal.resolve 480 := by
  intro env path working files
  have placed := place_of_answer (show (place files working env).1 = .ok (.created path) by
    decide +kernel)
  obtain ⟨-, -, again, harmless⟩ := (placing_harmless files working env).2.2 path _ placed
  obtain ⟨loads, -⟩ := harmless .missing (by decide +kernel) files working
    ⟨.missing, by decide +kernel⟩ ⟨.missing, by decide +kernel⟩
  have set : env.Sets Environment.timeoutVariable ['7'] :=
    Environment.trimmed?_eq_some_iff.mp (by decide +kernel)
  have counted : Text.count? (Nat.pow 2 64) ['7'] = some 7 := by decide +kernel
  obtain ⟨spelled, small⟩ := Text.count?_eq_some_iff.mp counted
  obtain ⟨config, usual, loaded, bare, endpoint, -, settings, -⟩ := loads fun given other =>
    ⟨7, small, other.unique set ▸ spelled⟩
  exact ⟨_, config, usual, placed, again 2, loaded, bare, endpoint, settings 480⟩

/-- A document that was just created is not loaded where the environment holds no fit timeout. -/
theorem untimely_document_unloaded :
    let env : Environment := .ofVariables [
      (Environment.timeoutVariable, "soon".toList), (Environment.homeVariable, "/home".toList)]
    let path := "/home/.config/webterm/webterm.toml".toList
    let working := ["work".toList]
    let files := Files.ofList [(working, .directory), (["home".toList], .directory)]
    ∃ after, place files working env = (.ok (.created path), after) ∧
      after.readText working configFileName = .error .missing ∧
      load after working env none = .error (.unfit (.timeout "soon".toList)) ∧
      ∀ config, load after working env none ≠ .ok (config, .user path) := by
  intro env path working files
  have placed := place_of_answer (show (place files working env).1 = .ok (.created path) by
    decide +kernel)
  have own : (place files working env).2.readText working configFileName =
      .error .missing := by
    decide +kernel
  have failed := (load_of_created placed own).trans
    (show _ = .error (.unfit (.timeout "soon".toList)) from rfl)
  refine ⟨_, placed, own, failed, fun config loaded => ?_⟩
  rw [failed] at loaded
  cases loaded

end RemoteTerminal.Config
