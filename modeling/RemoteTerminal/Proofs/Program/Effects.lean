import RemoteTerminal.Proofs.Files.Writing
import RemoteTerminal.Proofs.Program.Start

/-!
# What a run leaves behind

* `Refused`, `prepare_eq_error_iff`: what a run does not start for, in the order in which it is
  found out.
* `run_fault`: a host stops at the first line that cannot be read, and for nothing else.
* `conclude`, `run_eq_conclude`: a run that has started, once its host has stopped.
* `Kept`, `conclude_kept`: then it changes the file of the document at most, and that only if it
  succeeds.
* `run_effects`: both, for every run.
-/

namespace RemoteTerminal

namespace Host

variable {σ : Type} {transport : Transport σ}

/-! ## How a host stops -/

namespace Progress

/-- A transport that always replies does not end a run, whatever the requests. -/
theorem answer_steady (replies : ∀ state request, (transport state request).1 ≠ none) (fuel : Nat)
    (p : Progress σ) :
    (answer transport fuel p).interrupted = p.interrupted ∧
      (answer transport fuel p).fault = p.fault := by
  induction fuel generalizing p with
  | zero => exact ⟨rfl, rfl⟩
  | succ fuel ih =>
    unfold answer
    cases p.host.widget.running with
    | nil => exact ⟨rfl, rfl⟩
    | cons task others =>
      dsimp only
      have replied := replies p.transport task.request
      split
      next silent => simp [silent] at replied
      next => exact ih _

theorem meetLines_fault (replies : ∀ state request, (transport state request).1 ≠ none)
    (lines : List (Except FileFault Text)) (p : Progress σ) (going : p.interrupted = false)
    (sound : p.fault = none) : (meetLines transport lines p).fault = unreadable? lines := by
  induction lines generalizing p with
  | nil => simpa [meetLines, going, unreadable?] using sound
  | cons line lines ih =>
    unfold meetLines
    rw [if_neg (by simp [going])]
    cases line with
    | error fault => rfl
    | ok text =>
      obtain ⟨still_going, still_sound⟩ := answer_steady replies
        ((p.host.meetLine text).widget.running.length + (p.host.meetLine text).queued.length)
        { p with host := p.host.meetLine text }
      exact ih _ (still_going.trans going) (still_sound.trans sound)

end Progress

theorem run_fault (replies : ∀ state request, (transport state request).1 ≠ none) (state : σ)
    (widget : Widget) (lines : List (Except FileFault Text)) :
    (run transport state widget lines).fault = Progress.unreadable? lines := by
  obtain ⟨going, sound⟩ := Progress.answer_steady replies
    (widget.running.length + 0) { host := { widget }, transport := state }
  exact Progress.meetLines_fault replies lines _ going sound

end Host

namespace Program

variable {σ : Type} {s : Surroundings} {line : CommandLine} {start : Start}

/-! ## What a run does not start for -/

/-- A run does not start where the configuration does not load; then, where the url that counts is
absent or blank; and then, where the options that are given as JSON cannot be read. -/
inductive Refused (s : Surroundings) (line : CommandLine) : HostError → Prop where
  | unloaded {error : ConfigError}
      (failed : Config.load s.files s.working s.environment line.config = .error error) :
      Refused s line (.config error)
  | aimless {config : Config} {source : ConfigSource}
      (loaded : Config.load s.files s.working s.environment line.config = .ok (config, source))
      (absent : ∀ url, urlSet line config = some url → url.blank = true) :
      Refused s line (.config (.unfit .noUrl))
  | misread {config : Config} {source : ConfigSource} {url json : Text} {error : ReadError}
      (loaded : Config.load s.files s.working s.environment line.config = .ok (config, source))
      (set : urlSet line config = some url) (shown : url.blank = false)
      (given : line.options = some json) (failed : Options.ofJson json = .error error) :
      Refused s line (.config (.options error))

theorem optionsOf_misread {config : Config} {json : Text} {error : ReadError}
    (given : line.options = some json) (failed : Options.ofJson json = .error error) :
    optionsOf line config = .error (.config (.options error)) := by
  simp [optionsOf, given, failed, Except.mapError, bind, Except.bind]

theorem prepare_of_refused {fault : HostError} (refused : Refused s line fault)
    (interactive : Bool) : prepare s line interactive = .error fault := by
  cases refused with
  | unloaded failed =>
    unfold prepare
    rw [failed]
    rfl
  | aimless loaded absent => exact (prepare_noUrl_iff loaded interactive).mpr absent
  | misread loaded set shown given failed =>
    rw [prepare_eq loaded]
    obtain ⟨_, -, -, found⟩ | ⟨absent, -⟩ := urlOf_cases line _
    · rw [found, optionsOf_misread given failed]
      rfl
    · rw [absent _ set] at shown
      cases shown

theorem refused_of_prepare {fault : HostError} {interactive : Bool}
    (failed : prepare s line interactive = .error fault) : Refused s line fault := by
  cases loaded : Config.load s.files s.working s.environment line.config with
  | error error =>
    have refused : Refused s line (.config error) := .unloaded loaded
    rw [prepare_of_refused refused] at failed
    exact Except.error.inj failed ▸ refused
  | ok result =>
    obtain ⟨config, source⟩ := result
    rw [prepare_eq loaded] at failed
    obtain ⟨url, set, shown, found⟩ | ⟨absent, missing⟩ := urlOf_cases line config
    · rw [found] at failed
      cases given : line.options with
      | none =>
        rw [optionsOf_given (.nothing given)] at failed
        cases failed
      | some json =>
        cases read : Options.ofJson json with
        | ok options =>
          rw [optionsOf_given (.json given read)] at failed
          cases failed
        | error error =>
          rw [optionsOf_misread given read] at failed
          cases failed
          exact .misread loaded set shown given read
    · rw [missing] at failed
      cases failed
      exact .aimless loaded absent

theorem prepare_eq_error_iff {fault : HostError} {interactive : Bool} :
    prepare s line interactive = .error fault ↔ Refused s line fault :=
  ⟨refused_of_prepare, fun refused => prepare_of_refused refused interactive⟩

theorem not_refused {fault : HostError} {interactive : Bool}
    (prepared : prepare s line interactive = .ok start) : ¬ Refused s line fault := by
  intro refused
  rw [prepare_of_refused refused] at prepared
  cases prepared

/-! ## A run that has started -/

/-- How the host of a run sends its requests. -/
def transport (network : Http.Network σ) (seconds : Nat) (stamp : Text) : Host.Transport σ :=
  fun state request =>
    let (result, state) := Http.send network seconds stamp state request
    (some (.answered result), state)

/-- What a run comes to once its host has stopped, with a fault if a line could not be read. -/
def conclude (s : Surroundings) (line : CommandLine) (start : Start) (host : Host) (network : σ)
    (unread : Option FileFault) : Report σ :=
  let report : Report σ := {
    out := (start.console.run host.widget.panel.signals).2
    err := host.notices start.console
    files := s.files
    network
    fault := unread.map .file }
  if report.fault.isSome then report
  else match keep s line host.widget with
    | .ok files => { report with files }
    | .error fault => { report with fault := some (.file fault) }

/-- The host of a run when it has stopped. -/
def stopped (network : Http.Network σ) (stamp : Text) (state : σ) (start : Start) (typed : Bytes) :
    Host.Progress σ :=
  Host.run (transport network start.timeoutSeconds stamp) state
    (start.widget Console.usualHeight) (inputLines typed)

theorem run_eq_conclude {network : Http.Network σ} {stamp : Text} {state : σ} {typed : Bytes}
    (begins : line.init = false) (prepared : prepare s line false = .ok start) :
    run network stamp state s typed line =
      let final := stopped network stamp state start typed
      conclude s line start final.host final.transport final.fault := by
  unfold run
  rw [if_neg (Bool.eq_false_iff.mp begins), prepared]
  rfl

theorem stopped_fault (network : Http.Network σ) (stamp : Text) (state : σ) (start : Start)
    (typed : Bytes) :
    (stopped network stamp state start typed).fault =
      Host.Progress.unreadable? (inputLines typed) :=
  Host.run_fault nofun state (start.widget Console.usualHeight) (inputLines typed)

/-- What a run that has started changes. If its host stopped at a line that cannot be read, it fails
with that fault, and every file is as it was; so it is where no document is asked for. In any case
no place has changed but the one that the document is asked for at, and if the run succeeds, that
holds the document of the widget, as it is in the end. -/
structure Kept (s : Surroundings) (line : CommandLine) (widget : Widget)
    (unread : Option FileFault) (report : Report σ) : Prop where
  faulted : ∀ fault, unread = some fault → report.fault = some (.file fault)
  succeeds : report.fault = none ↔ unread = none ∧ ∃ files, keep s line widget = .ok files
  untouched : unread ≠ none ∨ line.dumpHtml = none → report.files = s.files
  elsewhere : ∀ other, (∀ path, line.dumpHtml = some path →
    s.files.locate s.working path ≠ .ok other) → report.files.node? other = s.files.node? other
  dumped : ∀ path, line.dumpHtml = some path → report.fault = none →
    ∃ place, s.files.locate s.working path = .ok place ∧
      report.files.readBytes s.working path = .ok (Bytes.encode
        (renderDocument widget.session.url widget.session.settings widget.session.panel)) ∧
      ∀ other, other ≠ place → report.files.node? other = s.files.node? other

theorem keep_none {widget : Widget} (undumped : line.dumpHtml = none) :
    keep s line widget = .ok s.files := by
  simp [keep, undumped]

/-- A document that was kept is where its path leads, and the rest is as it was. -/
theorem keep_ok {widget : Widget} {path : Text} {files : Files} (dump : line.dumpHtml = some path)
    (kept : keep s line widget = .ok files) :
    ∃ place, s.files.locate s.working path = .ok place ∧
      files.readBytes s.working path = .ok (Bytes.encode widget.session.document) ∧
      ∀ other, other ≠ place → files.node? other = s.files.node? other := by
  simp only [keep, dump] at kept
  obtain ⟨place, located, free, rfl⟩ := Files.write_ok kept
  exact ⟨place, located, Files.readBytes_put_file free located, fun _ ne => Files.node?_put ne⟩

/-- However a host has stopped, the run changes the file of its document at most. -/
theorem conclude_kept (s : Surroundings) (line : CommandLine) (start : Start) (host : Host)
    (network : σ) (unread : Option FileFault) :
    Kept s line host.widget unread (conclude s line start host network unread) := by
  cases unread with
  | some fault =>
    refine ⟨fun other same => ?_, ?_, fun _ => rfl, fun _ _ => rfl, fun _ _ succeeded => ?_⟩
    · rw [← Option.some.inj same]
      rfl
    · simp [conclude]
    · simp [conclude] at succeeded
  | none =>
    cases kept : keep s line host.widget with
    | error fault =>
      have concluded : conclude s line start host network none = {
          out := (start.console.run host.widget.panel.signals).2
          err := host.notices start.console
          files := s.files
          network
          fault := some (.file fault) } := by
        simp [conclude, kept]
      rw [concluded]
      exact ⟨nofun, by simp [kept], fun _ => rfl, fun _ _ => rfl, nofun⟩
    | ok files =>
      have concluded : conclude s line start host network none = {
          out := (start.console.run host.widget.panel.signals).2
          err := host.notices start.console
          files
          network } := by
        simp [conclude, kept]
      rw [concluded]
      refine ⟨nofun, by simp [kept], fun unasked => ?_, fun other elsewhere => ?_,
        fun path dump _ => keep_ok dump kept⟩
      · rw [keep_none (unasked.resolve_left (by simp))] at kept
        exact (Except.ok.inj kept).symm
      · cases dump : line.dumpHtml with
        | none =>
          rw [keep_none dump] at kept
          rw [Except.ok.inj kept]
        | some path =>
          obtain ⟨place, located, -, others⟩ := keep_ok dump kept
          refine others other fun same => elsewhere path dump ?_
          rw [same, located]

/-! ## Every run -/

/-- **What a run changes.** A run that is refused, because its configuration does not load, it has
no url or its options cannot be read, fails for just that: it puts out nothing, sends nothing and
changes nothing. Every other run starts. It changes the file of the document at most, and not where
it stops at a line that cannot be read; where it succeeds, that file holds the document. The same
holds however else its host may have stopped, in whatever order it met lines and answers. -/
theorem run_effects (begins : line.init = false) (network : Http.Network σ) (stamp : Text)
    (state : σ) (s : Surroundings) (typed : Bytes) :
    let report := run network stamp state s typed line
    let unread := Host.Progress.unreadable? (inputLines typed)
    (∀ fault, Refused s line fault →
      report = { out := [], err := [], files := s.files, network := state, fault := some fault }) ∧
    ((∀ fault, ¬ Refused s line fault) → ∃ start, prepare s line false = .ok start ∧
      let final := stopped network stamp state start typed
      report = conclude s line start final.host final.transport unread ∧
      Kept s line final.host.widget unread report ∧
      ∀ (host : Host) (state' : σ) (unread' : Option FileFault),
        Kept s line host.widget unread' (conclude s line start host state' unread')) := by
  intro report unread
  constructor
  · intro fault refused
    simp [report, run, begins, prepare_eq_error_iff.mpr refused]
  · intro accepted
    cases prepared : prepare s line false with
    | error fault => exact absurd (prepare_eq_error_iff.mp prepared) (accepted fault)
    | ok start =>
      have concluded : report = _ := run_eq_conclude begins prepared
      dsimp only at concluded
      rw [stopped_fault] at concluded
      refine ⟨start, rfl, concluded, ?_, fun host state' unread' => conclude_kept ..⟩
      rw [concluded]
      exact conclude_kept ..

/-- A run with a request forced by its start: refused, it does not send it; at a line that cannot be
read it leaves the document as it was; and otherwise it writes the document of its widget. -/
theorem forced_run_effects :
    let server : Http.Server := { site := .address 0x7F000001, port := 80, answers := [] }
    let working := ["w".toList]
    let path := "out".toList
    let s : Surroundings := {
      files := .ofList [(["w".toList, path], .file [0x2D])]
      working
      environment := .ofVariables [] }
    let line : CommandLine := {
      url := some "http://127.0.0.1/".toList
      submitOnLoad := true
      dumpHtml := some path }
    let run (line : CommandLine) (typed : Bytes) : Report Http.Server :=
      Program.run Http.Server.network ['1'] server s typed line
    let refused := run { line with options := some ['['] } []
    let unread := run line [0xFF, 10]
    let finished := run line [0x6C, 0x73, 10]
    refused.fault = some (.config (.options (.broken .ended))) ∧ refused.network.calls = [] ∧
      refused.out = [] ∧ refused.files = s.files ∧
      unread.fault = some (.file .notText) ∧ unread.files = s.files ∧
      finished.fault = none ∧ finished.network.calls.length = 2 ∧
      ∃ start, prepare s line false = .ok start ∧
        let widget := (stopped Http.Server.network ['1'] server start [0x6C, 0x73, 10]).host.widget
        finished.files.readBytes working path = .ok (Bytes.encode
          (renderDocument widget.session.url widget.session.settings widget.session.panel)) := by
  intro server working path s line run refused unread finished
  have loaded : Config.load s.files s.working s.environment none = .ok ({}, .defaults) := by
    decide +kernel
  have shown : Text.blank "http://127.0.0.1/".toList = false := by decide +kernel
  have misread : Refused s { line with options := some ['['] }
      (.config (.options (.broken .ended))) :=
    .misread loaded rfl shown rfl (by decide +kernel)
  have accepted (fault : HostError) : ¬ Refused s line fault := by
    have set : urlSet line {} = some "http://127.0.0.1/".toList := rfl
    obtain ⟨start, prepared, -⟩ := prepare_layered loaded (.nothing rfl) set shown false
    exact not_refused prepared
  have nothing : refused = _ :=
    (@run_effects _ _ rfl Http.Server.network ['1'] server s []).1 _ misread
  obtain ⟨_, -, -, stops, -⟩ :=
    (@run_effects _ line rfl Http.Server.network ['1'] server s [0xFF, 10]).2 accepted
  have faulted : unread.fault = some (.file .notText) := stops.faulted .notText (by decide +kernel)
  have succeeded : finished.fault = none := by decide +kernel
  obtain ⟨start, prepared, -, ends, -⟩ :=
    (@run_effects _ line rfl Http.Server.network ['1'] server s [0x6C, 0x73, 10]).2 accepted
  obtain ⟨_, -, dumped, -⟩ := ends.dumped path rfl succeeded
  refine ⟨?_, ?_, ?_, ?_, faulted, stops.untouched (.inl (by decide +kernel)), succeeded,
    by decide +kernel, start, prepared, dumped⟩
  · rw [nothing]
  · rw [nothing]
  · rw [nothing]
  · rw [nothing]

end Program

end RemoteTerminal
