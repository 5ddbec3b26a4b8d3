import RemoteTerminal.Proofs.Widget.Completion

/-!
# What a transcript consists of

The transcript is a function of the history: the welcome, and then what each happening puts in,
nothing else and in the same order (`Accounted.transcript_eq`). A request is numbered when it is
submitted and its completion is handled later (`answered`), so that its echo stands before its
output.
-/

namespace RemoteTerminal.Widget

namespace Happening

/-- What a happening puts into a transcript: a submission its echo, everything else an output. -/
def shown? (settings : Settings) : Happening → Option Entry
  | .submitted _ command =>
    if settings.admits command then some (.ofCommand settings command) else none
  | .handled event => some (.ofOutput settings event.text)
  | .fabricated event => some (.ofOutput settings event.text)
  | .appended output => some (.ofOutput settings output)

@[simp] theorem shown?_submitted (settings : Settings) (number : Nat) (command : Text) :
    (submitted number command).shown? settings =
      if settings.admits command then some (.ofCommand settings command) else none := rfl

@[simp] theorem shown?_handled (settings : Settings) (event : Event) :
    (handled event).shown? settings = some (.ofOutput settings event.text) := rfl

@[simp] theorem shown?_fabricated (settings : Settings) (event : Event) :
    (fabricated event).shown? settings = some (.ofOutput settings event.text) := rfl

@[simp] theorem shown?_appended (settings : Settings) (output : Text) :
    (appended output).shown? settings = some (.ofOutput settings output) := rfl

/-- The text that a happening puts out. -/
def output? : Happening → Option Text
  | .submitted .. => none
  | .handled event => some event.text
  | .fabricated event => some event.text
  | .appended output => some output

/-- The number that a submission is given. -/
def submission? : Happening → Option Nat
  | .submitted number _ => some number
  | .handled _ | .fabricated _ | .appended _ => none

end Happening

/-- Where in the transcript the happening after the first `i` of a history puts its entry. -/
def place (settings : Settings) (history : List Happening) (i : Nat) : Nat :=
  (settings.welcome ++ (history.take i).filterMap (·.shown? settings)).length

/-- A course whose transcript is what its history makes of it. -/
structure Accounted (settings : Settings) (c : Course) : Prop where
  settings_eq : c.widget.settings = settings
  transcript_eq : c.widget.transcript =
    settings.welcome ++ c.history.filterMap (·.shown? settings)
  submissions_eq : c.history.filterMap Happening.submission? = List.range c.widget.nextNumber

variable {url : Text} {options : Options} {containerHeight : Nat} {runtime : Bool} {c d : Course}
variable {settings : Settings}

theorem start_accounted : Accounted (options.resolve containerHeight)
    (.start url options containerHeight runtime) := by
  have fresh := start_fresh url options containerHeight runtime
  refine ⟨fresh.configured.settings_eq, ?_, ?_⟩
  · rw [Course.start, fresh.transcript_eq]
    cases (options.resolve containerHeight).submitOnLoad
    · rfl
    · simp only [if_true, Settings.echo, List.filterMap_cons, Happening.shown?_submitted,
        List.filterMap_nil]
      split <;> rfl
  · rw [Course.start, fresh.nextNumber_eq]
    cases (options.resolve containerHeight).submitOnLoad <;> rfl

/-- What is new in `d` since `c`, in the history and in what follows from it. -/
structure Adds (c d : Course) (new : List Happening) : Prop where
  history_eq : d.history = c.history ++ new
  settings_eq : d.widget.settings = c.widget.settings
  transcript_eq : d.widget.transcript =
    c.widget.transcript ++ new.filterMap (·.shown? c.widget.settings)
  numbers_eq : List.range d.widget.nextNumber =
    List.range c.widget.nextNumber ++ new.filterMap Happening.submission?

namespace Adds

theorem nothing (history : d.history = c.history)
    (same : d.widget.settings = c.widget.settings)
    (shown : d.widget.transcript = c.widget.transcript)
    (numbers : d.widget.nextNumber = c.widget.nextNumber) : Adds c d [] where
  history_eq := by rw [history, List.append_nil]
  settings_eq := same
  transcript_eq := by rw [shown, List.filterMap_nil, List.append_nil]
  numbers_eq := by rw [numbers, List.filterMap_nil, List.append_nil]

/-- An event adds its text, wherever it comes from. -/
theorem output {w : Widget} {event : Event} {happening : Happening}
    (session : w.session = c.widget.session) (numbers : w.nextNumber = c.widget.nextNumber)
    (history : d.history = c.history ++ [happening]) (handled : d.widget = w.handle event)
    (puts : ∀ settings, happening.shown? settings = some (.ofOutput settings event.text))
    (gives : happening.submission? = none) : Adds c d [happening] := by
  have same : w.settings = c.widget.settings := by rw [settings, settings, session]
  refine ⟨history, ?_, ?_, ?_⟩
  · rw [handled, settings_handle, same]
  · rw [handled, transcript_handle, same, transcript, transcript, session,
      List.filterMap_cons_some (puts _), List.filterMap_nil]
  · rw [handled, nextNumber_handle, numbers, List.filterMap_cons_none gives, List.filterMap_nil,
      List.append_nil]

end Adds

/-- A step adds to the transcript what its happening puts in, and numbers what it submits. -/
theorem step_adds (h : Step c d) : ∃ new, Adds c d new := by
  cases h with
  | type | reprompt | drain | settle | clear | leave | abandon | finish | post =>
    exact ⟨_, .nothing rfl rfl rfl rfl⟩
  | click selecting =>
    obtain same | same := click_eq c.widget selecting <;> rw [same] <;>
      exact ⟨_, .nothing rfl rfl rfl rfl⟩
  | refuse runtime _ refused =>
    rw [submit_eq_self refused]
    exact ⟨_, .nothing rfl rfl rfl rfl⟩
  | take event widget _ next =>
    obtain ⟨rest, hq, rfl⟩ := take?_eq_some.mp next
    exact ⟨_, .nothing rfl rfl rfl rfl⟩
  | submit runtime _ accepted =>
    rw [submit_eq_begun accepted]
    refine ⟨_, rfl, settings_begun _ _, ?_, ?_⟩
    · rw [transcript_begun]
      cases ha : c.widget.settings.admits c.widget.session.command <;>
        simp [Settings.echo, ha]
    · simp [List.range_succ, Happening.submission?]
  | append output => exact ⟨_, rfl, rfl, rfl, (List.append_nil _).symm⟩
  | handle before after event | fabricate event =>
    exact ⟨_, .output rfl rfl rfl rfl (fun _ => rfl) rfl⟩
  | serve event widget _ next =>
    obtain ⟨rest, hq, rfl⟩ := take?_eq_some.mp next
    have same : ({ c.widget with queue := rest } : Widget).session = c.widget.session := rfl
    exact ⟨_, .output same rfl rfl rfl (fun _ => rfl) rfl⟩

theorem step_accounted (h : Step c d) (ih : Accounted settings c) : Accounted settings d := by
  obtain ⟨new, history, same, shown, numbered⟩ := step_adds h
  rw [ih.settings_eq] at same shown
  refine ⟨same, ?_, ?_⟩
  · rw [shown, ih.transcript_eq, history, List.filterMap_append, List.append_assoc]
  · rw [history, List.filterMap_append, ih.submissions_eq, numbered]

theorem reachable_accounted (h : Reachable url options containerHeight runtime c) :
    Accounted (options.resolve containerHeight) c := by
  induction h with
  | start => exact start_accounted
  | next _ step ih => exact step_accounted step ih

/-! ## Submissions before completions -/

theorem known_submitted (h : Reachable url options containerHeight runtime c) {number : Nat}
    (known : number ∈ c.numbers) :
    ∃ i command, i < c.history.length ∧ c.history[i]? = some (.submitted number command) := by
  have given : number ∈ c.history.filterMap Happening.submission? := by
    rw [(reachable_accounted h).submissions_eq]
    exact (numbers_perm h).subset known
  obtain ⟨happening, member, is⟩ := List.mem_filterMap.mp given
  obtain ⟨i, at_i⟩ := List.mem_iff_getElem?.mp member
  obtain ⟨bound, -⟩ := List.getElem?_eq_some_iff.mp at_i
  cases happening with
  | submitted n command =>
    obtain rfl : n = number := by simpa [Happening.submission?] using is
    exact ⟨i, command, bound, at_i⟩
  | handled | fabricated | appended => cases is

theorem known_of_held {number : Nat} {outcome : Outcome}
    (held : Event.completed number outcome ∈ c.held) : number ∈ c.numbers :=
  List.mem_append_left _ (List.mem_append_right _
    (List.mem_filterMap.mpr ⟨_, held, rfl⟩))

theorem known_of_queued {number : Nat} {outcome : Outcome}
    (queued : Event.completed number outcome ∈ c.widget.queue) : number ∈ c.numbers :=
  List.mem_append_left _ (List.mem_append_left _ (List.mem_append_right _
    (List.mem_filterMap.mpr ⟨_, queued, rfl⟩)))

theorem known_of_handled {number : Nat} {outcome : Outcome}
    (handled : Happening.handled (.completed number outcome) ∈ c.history) :
    number ∈ c.numbers :=
  List.mem_append_right _ (List.mem_filterMap.mpr
    ⟨_, List.mem_filterMap.mpr ⟨_, handled, rfl⟩, rfl⟩)

/-- What a step handles was known before. -/
theorem known_of_step (h : Step c d) {number : Nat} {outcome : Outcome}
    (handled : Happening.handled (.completed number outcome) ∈ d.history) :
    number ∈ c.numbers := by
  cases h with
  | type | refuse | reprompt | click | take | drain | settle | clear | leave | abandon | finish
  | post => exact known_of_handled handled
  | submit | append | fabricate => exact known_of_handled (by simpa using handled)
  | handle before after event _ held =>
    rcases List.mem_append.mp handled with earlier | now
    · exact known_of_handled earlier
    · obtain rfl : Event.completed number outcome = event := by simpa using now
      have waits : Event.completed number outcome ∈ c.held := by simp [held]
      exact known_of_held waits
  | serve event widget _ next =>
    rcases List.mem_append.mp handled with earlier | now
    · exact known_of_handled earlier
    · obtain rfl : Event.completed number outcome = event := by simpa using now
      obtain ⟨rest, hq, -⟩ := take?_eq_some.mp next
      have waits : Event.completed number outcome ∈ c.widget.queue := by simp [hq]
      exact known_of_queued waits

/-- A completion is handled after its request was submitted. -/
theorem answered (h : Reachable url options containerHeight runtime c) :
    ∀ (j number : Nat) (outcome : Outcome),
      c.history[j]? = some (.handled (.completed number outcome)) →
      ∃ i command, i < j ∧ c.history[i]? = some (.submitted number command) := by
  induction h with
  | start =>
    intro j number outcome at_j
    have member := List.mem_of_getElem? at_j
    simp only [Course.start] at member
    split at member <;> simp at member
  | @next c d reach step ih =>
    intro j number outcome at_j
    obtain ⟨new, history⟩ := step_history step
    by_cases old : j < c.history.length
    · rw [← history, List.getElem?_append_left old] at at_j
      obtain ⟨i, command, before, at_i⟩ := ih j number outcome at_j
      refine ⟨i, command, before, ?_⟩
      rw [← history, List.getElem?_append_left (Nat.lt_trans before old)]
      exact at_i
    · have known := known_of_step step (List.mem_of_getElem? at_j)
      obtain ⟨i, command, bound, at_i⟩ := known_submitted reach known
      refine ⟨i, command, by omega, ?_⟩
      rw [← history, List.getElem?_append_left bound]
      exact at_i

/-! ## Places -/

theorem entry_at_place {history : List Happening} {i : Nat} {happening : Happening} {entry : Entry}
    (at_i : history[i]? = some happening) (puts : happening.shown? settings = some entry) :
    (settings.welcome ++ history.filterMap (·.shown? settings))[place settings history i]? =
      some entry := by
  obtain ⟨bound, rfl⟩ := List.getElem?_eq_some_iff.mp at_i
  have split : history = history.take i ++ history[i] :: history.drop (i + 1) := by simp
  have written : history.filterMap (·.shown? settings) =
      (history.take i).filterMap (·.shown? settings) ++
        entry :: (history.drop (i + 1)).filterMap (·.shown? settings) := by
    conv_lhs => rw [split, List.filterMap_append, List.filterMap_cons_some puts]
  rw [written, ← List.append_assoc, place, List.getElem?_append_right (Nat.le_refl _),
    Nat.sub_self]
  rfl

theorem place_lt {history : List Happening} {i j : Nat} {happening : Happening} {entry : Entry}
    (at_i : history[i]? = some happening) (puts : happening.shown? settings = some entry)
    (before : i < j) : place settings history i < place settings history j := by
  have one_more : (history.take (i + 1)).filterMap (·.shown? settings) =
      (history.take i).filterMap (·.shown? settings) ++ [entry] := by
    simp [List.take_add_one, at_i, puts]
  have grows : (history.take (i + 1)).Sublist (history.take j) :=
    (List.take_sublist_take_left (Nat.succ_le_of_lt before))
  have length := (grows.filterMap (·.shown? settings)).length_le
  rw [one_more] at length
  simp only [place, List.length_append, List.length_singleton] at length ⊢
  omega

/-! ## The account -/

theorem kind_shown? {happening : Happening} {entry : Entry}
    (puts : happening.shown? settings = some entry) : entry.kind ≠ .greeting := by
  cases happening with
  | submitted number command =>
    simp only [Happening.shown?_submitted, Option.ite_none_right_eq_some,
      Option.some.injEq] at puts
    obtain ⟨-, rfl⟩ := puts
    simp
  | handled | fabricated | appended =>
    cases puts
    simp

/-- The outputs among the entries are those of the texts put out. -/
theorem outputs_eq (history : List Happening) :
    (history.filterMap (·.shown? settings)).filter (·.kind = .output) =
      (history.filterMap Happening.output?).map (Entry.ofOutput settings) := by
  induction history with
  | nil => rfl
  | cons happening history ih =>
    cases happening with
    | submitted number command =>
      cases ha : settings.admits command <;>
        simp [List.filterMap_cons, Happening.output?, ha, ih]
    | handled | fabricated | appended => simp [Happening.output?, ih]

theorem welcome_outputs : settings.welcome.filter (·.kind = .output) = [] := by
  cases h : settings.helloMessage <;> simp [Settings.welcome, h]

theorem length_welcome : settings.welcome.length ≤ 1 := by
  cases h : settings.helloMessage <;> simp [Settings.welcome, h]

/-- A welcome stands only at the top. -/
theorem greeting_first (ih : Accounted settings c) {i : Nat} {entry : Entry}
    (at_i : c.widget.transcript[i]? = some entry) (greeting : entry.kind = .greeting) : i = 0 := by
  rw [ih.transcript_eq] at at_i
  by_cases top : i < settings.welcome.length
  · have : settings.welcome.length ≤ 1 := length_welcome
    omega
  · rw [List.getElem?_append_right (by omega)] at at_i
    obtain ⟨happening, -, puts⟩ := List.mem_filterMap.mp (List.mem_of_getElem? at_i)
    exact absurd greeting (kind_shown? puts)

/-- A submission adds its echo and nothing else, and where it is refused, nothing. -/
theorem transcript_submit (w : Widget) (runtime : Bool) : (w.submit runtime).1.transcript =
    w.transcript ++ if (w.submit runtime).2 && w.settings.admits w.input.value.trim
      then [.ofCommand w.settings w.input.value.trim] else [] := by
  cases h : (w.submit runtime).2 with
  | true =>
    rw [submit_eq_begun h, transcript_begun, Bool.true_and]
    rfl
  | false => simp [submit_eq_self h]

/-- **The transcript is accounted for.** It holds the welcome and what the history puts in; a step
only adds to it; a welcome stands only at its top; its outputs are those of the handled events and
of the appended texts, in order; a submission adds an echo if it is accepted and admitted, and
nothing else. Each number is submitted once, before its completion is handled, and then the echo, if
there is one, stands above the output. -/
theorem transcript_accounted (h : Reachable url options containerHeight runtime c) :
    let settings := options.resolve containerHeight
    c.widget.transcript = settings.welcome ++ c.history.filterMap (·.shown? settings) ∧
    (∀ d, Step c d → c.widget.transcript <+: d.widget.transcript) ∧
    (∀ (i : Nat) entry, c.widget.transcript[i]? = some entry → entry.kind = .greeting → i = 0) ∧
    c.widget.transcript.filter (·.kind = .output) =
      (c.history.filterMap Happening.output?).map (Entry.ofOutput settings) ∧
    (∀ runtime, (c.widget.submit runtime).1.transcript = c.widget.transcript ++
      if (c.widget.submit runtime).2 && settings.admits c.widget.input.value.trim
      then [.ofCommand settings c.widget.input.value.trim] else []) ∧
    c.history.filterMap Happening.submission? = List.range c.widget.nextNumber ∧
    (∀ (j number : Nat) (outcome : Outcome),
      c.history[j]? = some (.handled (.completed number outcome)) →
      ∃ i command, i < j ∧ c.history[i]? = some (.submitted number command) ∧
        (settings.admits command = true →
          c.widget.transcript[place settings c.history i]? =
            some (.ofCommand settings command) ∧
          c.widget.transcript[place settings c.history j]? =
            some (.ofOutput settings outcome.toText) ∧
          place settings c.history i < place settings c.history j)) := by
  intro settings
  have account : Accounted settings c := reachable_accounted h
  have shown := account.transcript_eq
  refine ⟨shown, ?_, fun _ _ => greeting_first account, ?_, ?_, account.submissions_eq, ?_⟩
  · intro d step
    obtain ⟨new, -, -, added, -⟩ := step_adds step
    rw [added]
    exact List.prefix_append _ _
  · rw [shown, List.filter_append, welcome_outputs, List.nil_append, outputs_eq]
  · intro runtime
    rw [transcript_submit, account.settings_eq]
  · intro j number outcome at_j
    obtain ⟨i, command, before, at_i⟩ := answered h j number outcome at_j
    refine ⟨i, command, before, at_i, fun admitted => ?_⟩
    have echoed : (Happening.submitted number command).shown? settings =
        some (.ofCommand settings command) := if_pos admitted
    rw [shown]
    exact ⟨entry_at_place at_i echoed, entry_at_place at_j rfl, place_lt at_i echoed before⟩

/-- Two typed commands overlap, and the second is answered first: each echo stands above its own
output. -/
theorem overlapping_commands_accounted :
    ∃ c : Course, Reachable [] {} 0 true c ∧
      c.history = [.submitted 0 ['l', 's'], .submitted 1 ['p', 'w', 'd'],
        .handled (.completed 1 (.failure .timeout)), .handled (.completed 0 (.success ['u']))] ∧
      c.widget.transcript = (Options.resolve {} 0).welcome ++
        c.history.filterMap (·.shown? (Options.resolve {} 0)) ∧
      ∃ i command, i < 3 ∧ c.history[i]? = some (.submitted 0 command) := by
  have first : Reachable [] {} 0 true _ := .start
  have typed := first.next (.type _ ['l', 's', ' '] rfl)
  have submitted := typed.next (.submit _ true rfl (by decide))
  have typed_more := submitted.next (.type _ ['p', 'w', 'd'] rfl)
  have both := typed_more.next (.submit _ true rfl (by decide))
  have second_ended := both.next
    (.finish _ ⟨1, _⟩ (.answered (.error (.exchange .timeout))) (.tail _ (.head _)))
  have first_ended := second_ended.next (.finish _ ⟨0, _⟩ (.answered (.ok ['u'])) (.head _))
  have taken := first_ended.next (.take _ _ _ rfl rfl)
  have handled := taken.next (.handle _ [] [] _ rfl rfl)
  have taken_too := handled.next (.take _ _ _ rfl rfl)
  have handled_too := taken_too.next (.handle _ [] [] _ rfl rfl)
  obtain ⟨shown, -, -, -, -, -, order⟩ := transcript_accounted handled_too
  obtain ⟨i, command, before, at_i, -⟩ := order 3 0 (.success ['u']) rfl
  exact ⟨_, handled_too, rfl, shown, i, command, before, at_i⟩

end RemoteTerminal.Widget
