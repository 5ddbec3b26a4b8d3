import RemoteTerminal.Proofs.CommandLine.Posts
import RemoteTerminal.Proofs.Host.Requests
import RemoteTerminal.Proofs.Program.Effects

/-!
# What is posted comes to the endpoint

* `Carries`: what a request carries, by the values of `--post` and the extra fields below them.
* `ofCommand_carries`, `dispatched_carry`: the request of a command carries it so, and so do the
  requests of every loop.
* `stopped_looped`: a run is one of these loops.
* `posts_reach_requests`: all of it, from the command line on.
-/

namespace RemoteTerminal.Program

open CommandLine (Spelled Posted HoldLast posts unposted)

/-- What the fields of a request are. The command has its own name; under the other names stand the
fields that the values of `--post` hold last or, where there are no values, the extra ones. -/
def Carries (raws : List Text) (extra : Fields) (commandName command : Text) (request : Request) :
    Prop :=
  ∀ name value, request.fields.get? name = some value ↔
    if name = commandName then value = command
    else if raws = [] then extra.get? name = some value
    else HoldLast raws name value

/-- Where something is posted, a request carries that and its command. -/
theorem Carries.fields_eq {raws : List Text} {extra : Fields} {commandName command : Text}
    {request : Request} (carries : Carries raws extra commandName command request)
    {pairs : List (Text × Text)} (read : Posted raws pairs) (posts_some : raws ≠ []) :
    request.fields = (Fields.ofList pairs).insert commandName command := by
  refine Fields.ext fun name => Option.ext fun value => (carries name value).trans ?_
  rw [Fields.get?_insert, if_neg posts_some, ← CommandLine.get?_posted_iff read]
  split_ifs <;> simp [eq_comm]

theorem extraPostFields_layered (line : CommandLine) (given file : Options) (height : Nat) :
    (Settings.layered line given file height).extraPostFields =
      if line.post = [] then (topmost [given.extraPostFields, file.extraPostFields]).getD .empty
      else .ofList line.post := by
  unfold Settings.layered
  cases line.post <;> rfl

theorem ofCommand_carries {raws : List Text} {line : CommandLine} (read : Posted raws line.post)
    (url : Text) (given file : Options) (height : Nat) (command : Text) :
    let settings := Settings.layered line given file height
    Carries raws ((topmost [given.extraPostFields, file.extraPostFields]).getD .empty)
      settings.inputFieldName command (.ofCommand url settings command) := by
  intro settings name value
  have unposted_iff : line.post = [] ↔ raws = [] := by
    rw [← List.length_eq_zero_iff, ← List.length_eq_zero_iff, read.length_eq]
  show (settings.extraPostFields.insert settings.inputFieldName command).get? name = some value ↔ _
  rw [Fields.get?_insert, extraPostFields_layered, apply_ite Fields.get?, ite_apply,
    ← CommandLine.get?_posted_iff read]
  by_cases is_command : name = settings.inputFieldName
  · simp [is_command, eq_comm]
  · by_cases none_posted : raws = []
    · simp [is_command, none_posted, unposted_iff]
    · simp [is_command, none_posted, unposted_iff]

/-- The requests of a loop carry its commands, in their order. -/
theorem dispatched_carry {raws : List Text} {line : CommandLine} (read : Posted raws line.post)
    {given file : Options} {start : Start} {height : Nat}
    (layered : (start.widget height).settings = .layered line given file height)
    {replies : Nat → Reply} {lines : List (Except FileFault Text)} {loop : Host.Loop}
    (steps : Host.Steps replies (.start (start.widget height) lines) loop) :
    let settings := (start.widget height).settings
    List.Forall₂ (Carries raws ((topmost [given.extraPostFields, file.extraPostFields]).getD .empty)
        settings.inputFieldName)
      (settings.commands loop.taken) (loop.dispatched.map Task.request) ∧
    ∀ task ∈ loop.sent, task ∈ loop.dispatched := by
  intro settings
  have requested := Host.reachable_requested steps
  have same : start.options.resolve height = settings :=
    (Widget.start_fresh start.url start.options height true).configured.settings_eq.symm
  refine ⟨?_, requested.sent_mem⟩
  rw [requested.requests_eq, same, List.forall₂_map_right_iff, List.forall₂_same]
  intro command _
  rw [show settings = _ from layered]
  exact ofCommand_carries read start.url given file height command

/-- A run goes one of the ways that its loop can go. -/
theorem stopped_looped {σ : Type} (network : Http.Network σ) (stamp : Text) (state : σ)
    (start : Start) (typed : Bytes) :
    let final := stopped network stamp state start typed
    ∃ replies loop, Host.Steps replies
        (.start (start.widget Console.usualHeight) (inputLines typed)) loop ∧
      loop.host = final.host ∧ loop.sent.map Task.request = final.sent := by
  obtain ⟨replies, loop, steps, -, host, sent⟩ :=
    @Host.run_looped σ (transport network start.timeoutSeconds stamp) nofun state start.url
      start.options Console.usualHeight (inputLines typed)
  exact ⟨replies, loop, steps, host, sent⟩

/-- **What is posted comes to the endpoint.** Take a command line that is read without what it
posts. It is read with it exactly where each value of `--post` holds `=` and something that is not
white space before the first one, and then as it was, with what is posted. A run that it starts,
with whatever configuration and options given as JSON, sends nothing but requests of the commands
that it takes, in their order. In each of them the command has the name that counts for it. Each
other name has the text after the first `=` of the last value that gives it, and no name is there
that no value gives: the extra fields that are configured or given as JSON do not count. Where
nothing is posted, these are there as they are, those given as JSON where there are any. -/
theorem posts_reach_requests {items : List CommandLine.Item} {arguments others : List Text}
    {base : CommandLine} (spelled : Spelled items arguments) (apart : Spelled (unposted items) others)
    (accepted : CommandLine.read others = .ok base) :
    let raws := posts items
    ((∃ line, CommandLine.read arguments = .ok line) ↔
      ∀ raw ∈ raws, ∃ start value, raw = start ++ '=' :: value ∧ '=' ∉ start ∧
        ∃ c ∈ start, Text.isBlank c = false) ∧
    ∀ line, CommandLine.read arguments = .ok line → line = { base with post := line.post } ∧
      ∀ (s : Surroundings) (config : Config) (source : ConfigSource) (given : Options) (url : Text),
        Config.load s.files s.working s.environment line.config = .ok (config, source) →
        Given line given → urlSet line config = some url → url.blank = false →
        let extra := (topmost [given.extraPostFields, config.terminal.extraPostFields]).getD .empty
        ∀ interactive, ∃ start, prepare s line interactive = .ok start ∧
          (∀ height replies lines loop,
            Host.Steps replies (.start (start.widget height) lines) loop →
            let settings := (start.widget height).settings
            List.Forall₂ (Carries raws extra settings.inputFieldName)
              (settings.commands loop.taken) (loop.dispatched.map Task.request) ∧
            ∀ task ∈ loop.sent, task ∈ loop.dispatched) ∧
          ∀ (σ : Type) (network : Http.Network σ) (stamp : Text) (state : σ) (typed : Bytes),
            let final := stopped network stamp state start typed
            (line.init = false → interactive = false → run network stamp state s typed line =
              conclude s line start final.host final.transport final.fault) ∧
            ∃ replies loop, Host.Steps replies
                (.start (start.widget Console.usualHeight) (inputLines typed)) loop ∧
              loop.host = final.host ∧ loop.sent.map Task.request = final.sent := by
  intro raws
  refine ⟨CommandLine.exists_read_posted_iff spelled apart accepted, fun line is_read => ?_⟩
  obtain ⟨pairs, read, rfl⟩ := (CommandLine.read_posted_iff spelled apart accepted).mp is_read
  refine ⟨rfl, ?_⟩
  intro s config source given url loaded options set shown extra interactive
  obtain ⟨start, prepared, -, -, configured⟩ :=
    prepare_layered loaded options set shown interactive
  refine ⟨start, prepared, ?_, ?_⟩
  · intro height replies lines loop steps
    exact dispatched_carry read (configured height).2.1 steps
  · intro σ network stamp state typed
    refine ⟨fun begins quiet => ?_, stopped_looped network stamp state start typed⟩
    subst quiet
    exact run_eq_conclude begins prepared

/-- A field that is posted twice, one that has the name of the command, and one that is given as JSON
and does not count. -/
theorem repeated_posts_reach_requests :
    let json := "\x7b\"extra_post_fields\": \x7b\"key\": \"1\"\x7d\x7d".toList
    let arguments := ["--post".toList, " a =b=c".toList, "http://h/".toList, "--post=a= =d".toList,
      "--field".toList, "in".toList, "--options".toList, json, "--post=in=e".toList]
    let s : Surroundings := {
      files := .ofList []
      working := ["w".toList]
      environment := .ofVariables [] }
    ∃ line start, CommandLine.read arguments = .ok line ∧ prepare s line false = .ok start ∧
      ∀ height replies lines loop, Host.Steps replies (.start (start.widget height) lines) loop →
        List.Forall₂ (fun command request =>
            request.fields = .ofList [(['a'], " =d".toList), ("in".toList, command)])
          ((start.widget height).settings.commands loop.taken)
          (loop.dispatched.map Task.request) := by
  intro json arguments s
  have post : CommandLine.Named .post ('-' :: '-' :: "post".toList) := .long rfl
  have field : CommandLine.Named .field ('-' :: '-' :: "field".toList) := .long rfl
  have options : CommandLine.Named .options ('-' :: '-' :: "options".toList) := .long rfl
  have plain (first : Char) (rest : Text) (other : first ≠ '-') :
      CommandLine.Plain (first :: rest) :=
    fun _ _ same => other (List.cons.inj same).1
  let items : List CommandLine.Item := [.setting .post " a =b=c".toList,
    .setting .url "http://h/".toList, .setting .post "a= =d".toList, .setting .field "in".toList,
    .setting .options json, .setting .post "in=e".toList]
  have spelled : Spelled items arguments :=
    .cons (.apart post (plain _ _ (by decide))) (.cons (.url (plain _ _ (by decide)))
      (.cons (.joined post _) (.cons (.apart field (plain _ _ (by decide)))
        (.cons (.apart options (plain _ _ (by decide))) (.cons (.joined post _) .nil)))))
  let others := ["http://h/".toList, "--field".toList, "in".toList, "--options".toList, json]
  have apart : Spelled (unposted items) others :=
    .cons (.url (plain _ _ (by decide))) (.cons (.apart field (plain _ _ (by decide)))
      (.cons (.apart options (plain _ _ (by decide))) .nil))
  let base : CommandLine := {
    url := some "http://h/".toList
    field := some "in".toList
    options := some json }
  have accepted : CommandLine.read others = .ok base := by decide +kernel
  let pairs := [(['a'], "b=c".toList), (['a'], " =d".toList), ("in".toList, ['e'])]
  have posted : Posted (posts items) pairs :=
    .cons (by decide +kernel) (.cons (by decide +kernel) (.cons (by decide +kernel) .nil))
  let line : CommandLine := { base with post := pairs }
  have read : CommandLine.read arguments = .ok line := by decide +kernel
  have loaded : Config.load s.files s.working s.environment line.config = .ok ({}, .defaults) := by
    decide +kernel
  have given : Given line { extraPostFields := some (.ofList [("key".toList, ['1'])]) } :=
    .json rfl (by decide +kernel)
  have shown : Text.blank "http://h/".toList = false := by decide +kernel
  obtain ⟨start, prepared, reached, -⟩ :=
    ((posts_reach_requests spelled apart accepted).2 line read).2 s _ _ _ _ loaded given rfl shown
      false
  refine ⟨line, start, read, prepared, fun height replies lines loop steps => ?_⟩
  have named : (start.widget height).settings.inputFieldName = "in".toList := by
    obtain ⟨_, again, -, -, configured⟩ := prepare_layered loaded given rfl shown false
    cases prepared.symm.trans again
    rw [(configured height).2.1]
    rfl
  refine (reached height replies lines loop steps).1.imp fun command request carries => ?_
  rw [carries.fields_eq posted (List.cons_ne_nil _ _), named]
  rfl

end RemoteTerminal.Program
