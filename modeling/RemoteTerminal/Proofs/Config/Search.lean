import RemoteTerminal.Config.Search
import RemoteTerminal.Proofs.Config.Environment
import RemoteTerminal.Proofs.Files

/-!
# A configuration is that of one file

A search is `Chosen` to end at a source: the file that was asked for, else the first of the two
usual ones that can be read, else none. Where the user has no directory for a file, there is only
one usual one. What the document found there comes to is `Settled`: it does not fit, or its
environment holds a timeout that is none, or it is the configuration with what the environment
overrides in it.

* `loadBy_settled`: what is loaded is settled by the chosen document alone.
* `loadBy_of_agree`: it is the same wherever the files that were sought are.
* `one_file_settles`: the search as a whole.
-/

namespace RemoteTerminal.Config

/-! ## What a document comes to -/

/-- What the document of a source comes to: it does not fit; or the environment sets a timeout that
is no number of seconds below 2^64; or it is a configuration, with what the environment sets. -/
inductive Settled (env : Environment) (document : Text) (source : ConfigSource) :
    Except ConfigError (Config × ConfigSource) → Prop where
  | misfit {error : ReadError} (unread : ofToml document = .error error) :
      Settled env document source (.error (.document error))
  | untimely {held : Config} {given : Text} (read : ofToml document = .ok held)
      (set : env.Sets Environment.timeoutVariable given)
      (beyond : ¬ ∃ n < Nat.pow 2 64, given.Spells n) :
      Settled env document source (.error (.unfit (.timeout given)))
  | configured {held config : Config} (read : ofToml document = .ok held)
      (overridden : env.Overrides held config) : Settled env document source (.ok (config, source))

/-- A document comes to one thing only. -/
theorem Settled.unique {env : Environment} {document : Text} {source : ConfigSource}
    {a b : Except ConfigError (Config × ConfigSource)} (ha : Settled env document source a)
    (hb : Settled env document source b) : a = b := by
  have spelled {held config : Config} {given : Text} (overrides : env.Overrides held config)
      (set : env.Sets Environment.timeoutVariable given) : ∃ n < Nat.pow 2 64, given.Spells n := by
    obtain ⟨n, small, spelled, -⟩ := overrides.timeout_set given set
    exact ⟨n, small, spelled⟩
  cases ha with
  | misfit unread =>
    cases hb with
    | misfit unread' => rw [unread] at unread'; cases unread'; rfl
    | untimely read => rw [unread] at read; cases read
    | configured read => rw [unread] at read; cases read
  | untimely read set beyond =>
    cases hb with
    | misfit unread => rw [read] at unread; cases unread
    | untimely read' set' => rw [set.unique set']
    | configured read' overrides => exact absurd (spelled overrides set) beyond
  | configured read overrides =>
    cases hb with
    | misfit unread => rw [read] at unread; cases unread
    | untimely read' set beyond => exact absurd (spelled overrides set) beyond
    | configured read' overrides' =>
      rw [read] at read'
      cases read'
      rw [overrides.unique overrides']

/-! ## The search -/

/-- The source that a search ends at, and the document found there. The user's file is sought where
there is a directory for it. Without a file that can be read, the document is the empty one. -/
inductive Chosen (read : Reader) (env : Environment) :
    Option Text → ConfigSource → Text → Prop where
  | explicit {path document : Text} (found : read path = .ok document) :
      Chosen read env (some path) (.explicit path) document
  | «local» {document : Text} (found : read configFileName = .ok document) :
      Chosen read env none .local document
  | user {fault : FileFault} {path document : Text} (skipped : read configFileName = .error fault)
      (rooted : userConfigPath env = some path) (found : read path = .ok document) :
      Chosen read env none (.user path) document
  | defaults {fault : FileFault} (skipped : read configFileName = .error fault)
      (skipped' : ∀ path, userConfigPath env = some path → ∃ fault, read path = .error fault) :
      Chosen read env none .defaults []

theorem Chosen.text_eq {read : Reader} {env : Environment} {asked : Option Text}
    {source : ConfigSource} {document : Text} (chosen : Chosen read env asked source document) :
    text read env asked = .ok (document, source) := by
  cases chosen with
  | explicit found => simp [text, found]
  | «local» found => simp [text, searchOrder, firstReadable, ConfigSource.path?, found]
  | user skipped rooted found =>
    simp [text, searchOrder, rooted, firstReadable, ConfigSource.path?, skipped, found]
  | defaults skipped skipped' =>
    cases rooted : userConfigPath env with
    | none => simp [text, searchOrder, rooted, firstReadable, ConfigSource.path?, skipped]
    | some path =>
      obtain ⟨fault', unread⟩ := skipped' path rooted
      simp [text, searchOrder, rooted, firstReadable, ConfigSource.path?, skipped, unread]

/-- A search ends somewhere, unless the one file that was asked for cannot be read. -/
theorem chosen_or_fault (read : Reader) (env : Environment) (asked : Option Text) :
    (∃ source document, Chosen read env asked source document) ∨
      ∃ path fault, asked = some path ∧ read path = .error fault := by
  cases asked with
  | some path =>
    cases attempt : read path with
    | ok document => exact .inl ⟨_, _, .explicit attempt⟩
    | error fault => exact .inr ⟨path, fault, rfl, attempt⟩
  | none =>
    left
    cases own : read configFileName with
    | ok document => exact ⟨_, _, .local own⟩
    | error fault =>
      by_cases users : ∃ path document, userConfigPath env = some path ∧ read path = .ok document
      · obtain ⟨path, document, rooted, found⟩ := users
        exact ⟨_, _, .user own rooted found⟩
      · refine ⟨_, _, .defaults own fun path rooted => ?_⟩
        cases attempt : read path with
        | ok document => exact absurd ⟨path, document, rooted, attempt⟩ users
        | error fault' => exact ⟨fault', rfl⟩

theorem loadBy_fault {read : Reader} {path : Text} {fault : FileFault} (env : Environment)
    (unread : read path = .error fault) : loadBy read env (some path) = .error (.file fault) := by
  simp only [loadBy, text, unread]
  rfl

theorem loadBy_eq {read : Reader} {env : Environment} {asked : Option Text}
    {source : ConfigSource} {document : Text} (chosen : Chosen read env asked source document) :
    loadBy read env asked =
      match ofToml document with
      | .error error => .error (.document error)
      | .ok held => (env.apply held).map fun config => (config, source) := by
  unfold loadBy
  rw [chosen.text_eq]
  cases fit : ofToml document with
  | error error => simp [bind, Except.bind, fit, Except.mapError]
  | ok held =>
    cases applied : env.apply held <;>
      simp [bind, Except.bind, pure, Except.pure, fit, applied, Except.mapError, Except.map]

/-- What is loaded is what the chosen document comes to, and nothing else. -/
theorem loadBy_settled {read : Reader} {env : Environment} {asked : Option Text}
    {source : ConfigSource} {document : Text} (chosen : Chosen read env asked source document) :
    Settled env document source (loadBy read env asked) := by
  rw [loadBy_eq chosen]
  cases fit : ofToml document with
  | error error => exact .misfit fit
  | ok held =>
    dsimp only
    obtain ⟨after, applied, overrides⟩ | ⟨given, applied, set, beyond⟩ := env.apply_cases held
    · rw [applied]
      exact .configured fit overrides
    · rw [applied]
      exact .untimely fit set beyond

/-! ## Files that do not count -/

/-- The paths that a search reads until it ends at a source. -/
def sought (env : Environment) : ConfigSource → List Text
  | .explicit path => [path]
  | .local => [configFileName]
  | .user _ | .defaults => configFileName :: (userConfigPath env).toList

/-- Readers that find the same text at a path, or both none. -/
def Agree (read other : Reader) (path : Text) : Prop :=
  ∀ document, read path = .ok document ↔ other path = .ok document

theorem Agree.fault {read other : Reader} {path : Text} {fault : FileFault}
    (agree : Agree read other path) (unread : read path = .error fault) :
    ∃ fault', other path = .error fault' := by
  cases attempt : other path with
  | error fault' => exact ⟨fault', rfl⟩
  | ok document =>
    have found := (agree document).mpr attempt
    rw [unread] at found
    cases found

theorem Chosen.of_agree {read other : Reader} {env : Environment} {asked : Option Text}
    {source : ConfigSource} {document : Text} (chosen : Chosen read env asked source document)
    (agree : ∀ path ∈ sought env source, Agree read other path) :
    Chosen other env asked source document := by
  cases chosen with
  | explicit found => exact .explicit ((agree _ (by simp [sought]) _).mp found)
  | «local» found => exact .local ((agree _ (by simp [sought]) _).mp found)
  | user skipped rooted found =>
    obtain ⟨_, skipped'⟩ := (agree configFileName (by simp [sought])).fault skipped
    exact .user skipped' rooted ((agree _ (by simp [sought, rooted]) _).mp found)
  | defaults own users =>
    obtain ⟨_, own'⟩ := (agree configFileName (by simp [sought])).fault own
    refine .defaults own' fun path rooted => ?_
    obtain ⟨_, unread⟩ := users path rooted
    exact (agree path (by simp [sought, rooted])).fault unread

/-- Whatever else two readers hold, they load the same where they agree on the paths sought. -/
theorem loadBy_of_agree {read other : Reader} {env : Environment} {asked : Option Text}
    {source : ConfigSource} {document : Text} (chosen : Chosen read env asked source document)
    (agree : ∀ path ∈ sought env source, Agree read other path) :
    loadBy other env asked = loadBy read env asked :=
  (loadBy_settled (chosen.of_agree agree)).unique (loadBy_settled chosen)

/-! ## The search as a whole -/

/-- A configuration is that of one file, taken whole.

Whatever the files hold, however they are read, and whether or not the user has a directory for
configurations: a search ends at a file that can be read, or at none, and what is loaded is what the
document found there comes to, be it that it does not fit; only where the one file that was asked
for cannot be read, loading fails for that. Without a file, everything is as usual. And trees that
differ only in files which come after the one that the search ends at, load the same. -/
theorem one_file_settles (env : Environment) :
    (∀ (read : Reader) (asked : Option Text),
      (∀ source document, Chosen read env asked source document →
        ∀ result, loadBy read env asked = result ↔ Settled env document source result) ∧
      ((∃ source document, Chosen read env asked source document) ∨
        ∃ path fault, asked = some path ∧ read path = .error fault ∧
          loadBy read env asked = .error (.file fault))) ∧
    ofToml [] = .ok {} ∧
    ∀ (files : Files) (working : Place) (asked : Option Text),
      (∀ path document,
        files.readText working path = .ok document ↔ files.Holds working path document) ∧
      ∀ source document, Chosen (files.readText working) env asked source document →
        ∀ (other : Files) (among : Place → Prop), files.Alike among other →
          (∀ path ∈ sought env source, ∀ place,
            files.locate working path = .ok place → ¬ among place) →
          load other working env asked = load files working env asked := by
  refine ⟨fun read asked => ⟨?_, ?_⟩, rfl, fun files working asked => ⟨?_, ?_⟩⟩
  · intro source document chosen result
    constructor
    · rintro rfl
      exact loadBy_settled chosen
    · exact (loadBy_settled chosen).unique
  · obtain chosen | ⟨path, fault, rfl, unread⟩ := chosen_or_fault read env asked
    · exact .inl chosen
    · exact .inr ⟨path, fault, rfl, unread, loadBy_fault env unread⟩
  · intro path document
    exact Files.readText_eq_ok_iff
  · intro source document chosen other among alike apart
    apply loadBy_of_agree chosen
    intro path member document
    rw [Files.readText_eq_ok_iff, Files.readText_eq_ok_iff]
    exact alike.holds_iff (apart path member) document

/-- The file in the working directory counts, and not what is written over the user's. -/
theorem user_file_ignored :
    let content := Bytes.encode "[endpoint]\nurl = \"http://other/\"".toList
    let own := "[endpoint]\nurl = \"http://own/\"".toList
    let place := ["c".toList, "webterm".toList, configFileName]
    let files := Files.ofList [
      (["w".toList, configFileName], .file (Bytes.encode own)), (place, .file [0xFF])]
    let env : Environment := .ofVariables [
      (Environment.configHomeVariable, "/c".toList), (Environment.timeoutVariable, " +0 ".toList)]
    load (files.put place (.file content)) ["w".toList] env none =
      .ok ({ endpoint := { url := some "http://own/".toList, timeoutSeconds := 1 } }, .local) := by
  intro content own place files env
  have chosen : Chosen (files.readText ["w".toList]) env none .local own :=
    .local (by decide +kernel)
  have same := ((one_file_settles env).2.2 files ["w".toList] none).2 .local own chosen
    (files.put place (.file content)) (· = place) (Files.alike_put content (by decide +kernel))
  rw [same]
  · decide +kernel
  · intro path member other located
    have found : files.locate ["w".toList] configFileName = .ok ["w".toList, configFileName] := by
      decide +kernel
    rw [List.mem_singleton.mp member, found] at located
    cases located
    decide +kernel

end RemoteTerminal.Config
