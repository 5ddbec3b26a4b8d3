import RemoteTerminal.Program
import RemoteTerminal.Proofs.Options.Layers
import RemoteTerminal.Proofs.Widget.Operations
import Mathlib.Data.List.Basic

/-!
# What a run starts from

A run is configured in three layers: its command line, the options that this gives as JSON, and the
configuration that was loaded.

* `urlOf_eq_error_iff`, `fault_run_iff`: a run does without a url only where the url that counts is
  absent or blank, and fails for it.
* `prepare_layered`: otherwise it starts from the first of the layers that sets a thing.
* `layers_configure_run`: both, with the laws of the layers.
-/

namespace RemoteTerminal.Program

/-- The options that a command line gives as JSON. Where it gives none, nothing is set. -/
inductive Given (line : CommandLine) : Options → Prop where
  | nothing (absent : line.options = none) : Given line .unset
  | json {json : Text} {given : Options} (present : line.options = some json)
      (read : Options.ofJson json = .ok given) : Given line given

/-- The url that counts: that of the command line, else that of the configuration. -/
def urlSet (line : CommandLine) (config : Config) : Option Text :=
  topmost [line.url, config.endpoint.url]

variable {s : Surroundings} {line : CommandLine} {config : Config} {source : ConfigSource}

theorem urlOf_cases (line : CommandLine) (config : Config) :
    (∃ url, urlSet line config = some url ∧ url.blank = false ∧ urlOf line config = .ok url) ∨
      (∀ url, urlSet line config = some url → url.blank = true) ∧
        urlOf line config = .error (.config (.unfit .noUrl)) := by
  have same : line.url.or config.endpoint.url = urlSet line config := by
    simp only [urlSet, topmost_cons, topmost, Option.or_none]
  unfold urlOf
  rw [same]
  cases urlSet line config with
  | none =>
    right
    refine ⟨?_, rfl⟩
    intro url none
    cases none
  | some url =>
    rw [Option.filter_some]
    cases blank : url.blank with
    | false => exact .inl ⟨url, rfl, blank, rfl⟩
    | true =>
      right
      refine ⟨?_, rfl⟩
      intro other same
      rw [← Option.some.inj same]
      exact blank

theorem optionsOf_given {given : Options} (h : Given line given) :
    optionsOf line config = .ok ((config.terminal.overlay given).overlay line.toOptions) := by
  cases h with
  | nothing absent => simp [optionsOf, absent, bind, Except.bind, pure, Except.pure]
  | json present read =>
    simp [optionsOf, present, read, Except.mapError, bind, Except.bind, pure, Except.pure]

/-- Once a run has started, its faults are those of files. -/
theorem fault_of_started {σ : Type} {network : Http.Network σ} {stamp : Text} {state : σ}
    {typed : Bytes} {start : Start} (begins : line.init = false)
    (prepared : prepare s line false = .ok start) (error : ConfigError) :
    (run network stamp state s typed line).fault ≠ some (.config error) := by
  unfold run
  rw [if_neg (Bool.eq_false_iff.mp begins), prepared]
  dsimp only
  generalize Host.run _ state (start.widget Console.usualHeight) (inputLines typed) = progress
  have file_fault : progress.fault.map HostError.file ≠ some (.config error) := by
    cases progress.fault <;> simp
  split
  next => exact file_fault
  next =>
    split
    next => exact file_fault
    next fault _ => simp

/-- Faults of the configuration come up before a run has started, or not at all. -/
theorem fault_run_iff {σ : Type} {network : Http.Network σ} {stamp : Text} {state : σ}
    {typed : Bytes} {error : ConfigError} (begins : line.init = false) :
    (run network stamp state s typed line).fault = some (.config error) ↔
      prepare s line false = .error (.config error) := by
  cases prepared : prepare s line false with
  | ok start => simp [fault_of_started begins prepared error]
  | error fault => simp [run, begins, prepared]

/-- What a run starts from, once the configuration has loaded. -/
theorem prepare_eq
    (loaded : Config.load s.files s.working s.environment line.config = .ok (config, source))
    (interactive : Bool) :
    prepare s line interactive =
      match urlOf line config with
      | .error fault => .error fault
      | .ok url => (optionsOf line config).map fun options => {
          url
          timeoutSeconds := max (line.timeout.getD config.endpoint.timeoutSeconds) 1
          options
          console := {
            color := config.display.color && !line.noColor
            interactive
            prompt := (options.promptText.bind normalizePrompt).getD [] } } := by
  unfold prepare
  rw [loaded]
  simp only [Except.mapError, bind, Except.bind]
  cases urlOf line config with
  | error fault => rfl
  | ok url => cases optionsOf line config <;> rfl

/-- Options that cannot be read are not taken for a missing url. -/
theorem optionsOf_ne_noUrl (line : CommandLine) (config : Config) :
    optionsOf line config ≠ .error (.config (.unfit .noUrl)) := by
  unfold optionsOf
  cases line.options with
  | none => exact fun same => by cases same
  | some json =>
    dsimp only
    cases Options.ofJson json <;> exact fun same => by cases same

/-- Where the configuration has loaded, a run lacks a url exactly where the one that counts is
absent or blank. -/
theorem prepare_noUrl_iff
    (loaded : Config.load s.files s.working s.environment line.config = .ok (config, source))
    (interactive : Bool) :
    prepare s line interactive = .error (.config (.unfit .noUrl)) ↔
      ∀ url, urlSet line config = some url → url.blank = true := by
  rw [prepare_eq loaded]
  obtain ⟨url, set, shown, found⟩ | ⟨absent, failed⟩ := urlOf_cases line config
  · rw [found]
    constructor
    · intro failed
      cases read : optionsOf line config with
      | ok options => simp [read, Except.map] at failed
      | error fault =>
        simp only [read, Except.map, Except.error.injEq] at failed
        rw [failed] at read
        exact absurd read (optionsOf_ne_noUrl line config)
    · intro absent
      rw [absent url set] at shown
      cases shown
  · rw [failed]
    exact iff_of_true rfl absent

/-- With a url and options that can be read, a run starts, from the first of its layers that sets a
thing. -/
theorem prepare_layered {given : Options} {url : Text}
    (loaded : Config.load s.files s.working s.environment line.config = .ok (config, source))
    (options : Given line given) (set : urlSet line config = some url)
    (shown : url.blank = false) (interactive : Bool) :
    ∃ start, prepare s line interactive = .ok start ∧ start.url = url ∧
      start.timeoutSeconds = max 1 (line.timeout.getD config.endpoint.timeoutSeconds) ∧
      ∀ height, (start.widget height).session.url = url ∧
        (start.widget height).settings = .layered line given config.terminal height ∧
        start.console.prompt = (start.widget height).settings.promptText.getD [] := by
  obtain ⟨url', set', -, found⟩ | ⟨absent, -⟩ := urlOf_cases line config
  · have same : url' = url := Option.some.inj (set'.symm.trans set)
    subst same
    rw [prepare_eq loaded, found, optionsOf_given options]
    refine ⟨_, rfl, rfl, Nat.max_comm _ _, fun height => ?_⟩
    have conf := (Widget.start_fresh url'
      ((config.terminal.overlay given).overlay line.toOptions) height true).configured
    have settled := conf.settings_eq
    refine ⟨conf.url_eq, ?_, ?_⟩
    · exact settled.trans (Options.resolve_layers line given config.terminal height)
    · exact (congrArg (fun settings => settings.promptText.getD []) settled).symm
  · rw [absent url set] at shown
    cases shown

/-- What a run is configured to, once the configuration has loaded.

It fails for want of a url exactly where the url of the command line, or else that of the
configuration, is absent or blank. Where it is not, and the options given as JSON can be read, each
setting of the widget comes from the first of the command line, these options and the configuration
that sets it, and the console has the widget's prompt. How the layers are paired makes no
difference. -/
theorem layers_configure_run
    (loaded : Config.load s.files s.working s.environment line.config = .ok (config, source)) :
    (∀ interactive, prepare s line interactive = .error (.config (.unfit .noUrl)) ↔
      ∀ url, urlSet line config = some url → url.blank = true) ∧
    (line.init = false →
      ∀ (σ : Type) (network : Http.Network σ) (stamp : Text) (state : σ) (typed : Bytes),
        (run network stamp state s typed line).fault = some (.config (.unfit .noUrl)) ↔
          ∀ url, urlSet line config = some url → url.blank = true) ∧
    (∀ given url, Given line given → urlSet line config = some url → url.blank = false →
      ∀ interactive, ∃ start, prepare s line interactive = .ok start ∧ start.url = url ∧
        start.timeoutSeconds = max 1 (line.timeout.getD config.endpoint.timeoutSeconds) ∧
        ∀ height, (start.widget height).session.url = url ∧
          (start.widget height).settings = .layered line given config.terminal height ∧
          start.console.prompt = (start.widget height).settings.promptText.getD []) ∧
    (∀ a b c : Options, (a.overlay b).overlay c = a.overlay (b.overlay c)) ∧
    (∀ o : Options, Options.unset.overlay o = o ∧ o.overlay .unset = o) ∧
    ∀ l m : Options.Layering, l.layers = m.layers → l.merged = m.merged := by
  refine ⟨prepare_noUrl_iff loaded, ?_, ?_, Options.overlay_assoc, ?_, ?_⟩
  · intro begins σ network stamp state typed
    rw [fault_run_iff begins, prepare_noUrl_iff loaded]
  · intro given url options set shown interactive
    exact prepare_layered loaded options set shown interactive
  · intro o
    exact ⟨o.unset_overlay, o.overlay_unset⟩
  · intro l m same
    rw [l.merged_eq, m.merged_eq, same]

/-- A method that is blank on the way is the usual one, and not that of a lower layer. -/
theorem blank_method_is_usual :
    let document := "[endpoint]\nurl = \"http://h/\"\n[terminal]\nform_method = \"put\"".toList
    let s : Surroundings := {
      files := .ofList [(["w".toList, configFileName], .file (Bytes.encode document))]
      working := ["w".toList]
      environment := .ofVariables [] }
    let line : CommandLine := {
      options := some "\x7b\"form_method\": \" \", \"tab_width\": 100\x7d".toList
      prompt := some " >".toList
      timeout := some 0 }
    ∃ start, prepare s line true = .ok start ∧ start.url = "http://h/".toList ∧
      start.timeoutSeconds = 1 ∧ start.console.prompt = "> ".toList ∧
      (start.widget 0).settings.formMethod = "POST".toList ∧
      (start.widget 0).settings.tabWidth = 64 := by
  intro document s line
  have loaded : Config.load s.files s.working s.environment line.config =
      .ok ({
        endpoint := { url := some "http://h/".toList }
        terminal := { formMethod := some "put".toList } }, .local) := by
    decide +kernel
  have options : Given line { formMethod := some " ".toList, tabWidth := some 100 } :=
    .json rfl (by decide +kernel)
  obtain ⟨start, prepared, url, timeout, configured⟩ :=
    (layers_configure_run loaded).2.2.1 _ _ options rfl (by decide +kernel) true
  obtain ⟨-, settings, prompt⟩ := configured 0
  refine ⟨start, prepared, url, timeout, ?_, ?_, ?_⟩
  · rw [prompt, settings]
    decide +kernel
  · rw [settings]
    decide +kernel
  · rw [settings]
    decide +kernel

end RemoteTerminal.Program
