import RemoteTerminal.Proofs.Widget.Changes

/-!
# A submission, whatever came before it

`Operation` is what can be done to a session, and `performAll` does one after the other.

* `performAll_configured`: no history changes where a session sends its requests, how, and with
  which other fields.
* `submit_cases`: so a submission depends on the typed value alone.
* `submission_forgets`: when it is refused, and what it sends, hides and shows when it is not.
-/

namespace RemoteTerminal.Session

/-- What can be done to a session: a value is typed, the typed value is submitted, a request comes
to its outcome, or a text is put out. -/
inductive Operation where
  | type (value : Text)
  | submit (trigger : Trigger)
  | resolve (outcome : Outcome)
  | append (output : Text)
  deriving DecidableEq

def perform (s : Session) : Operation → Session
  | .type value => s.type value
  | .submit trigger => (s.submit trigger).2
  | .resolve outcome => s.resolve outcome
  | .append output => s.append output

def performAll (s : Session) (operations : List Operation) : Session := operations.foldl perform s

variable {url : Text} {settings : Settings} {s : Session}

theorem perform_configured (h : s.Configured url settings) (operation : Operation) :
    (s.perform operation).Configured url settings := by
  cases operation with
  | type | resolve | append => exact h.with_panel _
  | submit trigger =>
    show (s.submit trigger).2.Configured url settings
    rw [submit_eq]
    split
    · exact h.begun
    · exact h

theorem performAll_configured (h : s.Configured url settings) (operations : List Operation) :
    (s.performAll operations).Configured url settings := by
  induction operations generalizing s with
  | nil => exact h
  | cons operation operations ih => exact ih (perform_configured h operation)

/-- A submission is refused where nobody forces it and there is nothing in it that counts. -/
def Refused (settings : Settings) (command : Text) (trigger : Trigger) : Prop :=
  command = [] ∧ trigger = .user ∧ settings.allowEmptyInput = false

theorem accepts_iff (h : s.Configured url settings) (trigger : Trigger) :
    s.accepts trigger = true ↔ ¬ Refused settings s.command trigger := by
  have unforced : trigger ≠ .forcedFirst ↔ trigger = .user := by cases trigger <;> decide
  simp only [accepts, Settings.admits, h.settings_eq, Refused, ← unforced, Bool.or_eq_true,
    Bool.not_eq_true', List.isEmpty_eq_false_iff, decide_eq_true_eq]
  cases settings.allowEmptyInput <;> simp [Decidable.imp_iff_not_or]

/-- What a submission comes to depends on the typed value, and on nothing else that was done. -/
theorem submit_cases (h : s.Configured url settings) (trigger : Trigger) :
    (Refused settings s.command trigger ∧ s.submit trigger = (none, s)) ∨
      ¬ Refused settings s.command trigger ∧
        s.submit trigger = (some (.ofCommand url settings s.command), s.begun) := by
  rw [submit_eq]
  by_cases accepted : s.accepts trigger = true
  · right
    rw [if_pos accepted, h.request_eq]
    exact ⟨(accepts_iff h trigger).mp accepted, rfl⟩
  · left
    rw [if_neg accepted]
    exact ⟨Classical.not_not.mp (mt (accepts_iff h trigger).mpr accepted), rfl⟩

/-- The same value is sent alike after any two histories. -/
theorem submit_of_same {t : Session} (hs : s.Configured url settings)
    (ht : t.Configured url settings) (same : t.command = s.command) (trigger : Trigger) :
    (t.submit trigger).1 = (s.submit trigger).1 := by
  have accepts : t.accepts trigger = s.accepts trigger := by
    rw [Session.accepts, Session.accepts, ht.settings_eq, hs.settings_eq, same]
  rw [submit_eq, submit_eq, accepts, ht.request_eq, hs.request_eq, same]
  split <;> rfl

/-- The entries that a command adds. -/
theorem echo_eq (settings : Settings) (command : Text) :
    settings.echo command =
      if command = [] ∧ settings.allowEmptyInput = false then []
      else [⟨.echo, [.literal (settings.promptText.getD [] ++ command)]⟩] := by
  unfold Settings.echo Settings.admits
  cases command <;> cases settings.allowEmptyInput <;> rfl

/-- **A submission has no memory.** Whatever was done to a session before, a submission is refused
exactly where the typed value is blank, nobody forces it and blank commands do not count, and then
it leaves the session as it is. Otherwise it sends the given url the given method and fields, with
the trimmed value in the field of the command; it hides and empties the input line; and where it
shows the command, it shows the prompt and the value that it sends. The same value is sent alike
after any other operations. -/
theorem submission_forgets (url : Text) (settings : Settings) (panel : Panel)
    (operations : List Operation) (trigger : Trigger) :
    let s := (start url settings panel).performAll operations
    let value := s.panel.input.value.trim
    let refused := value = [] ∧ trigger = .user ∧ settings.allowEmptyInput = false
    let shown : List Entry :=
      if value = [] ∧ settings.allowEmptyInput = false then []
      else [⟨.echo, [.literal (settings.promptText.getD [] ++ value)]⟩]
    ((s.submit trigger).1 = none ↔ refused) ∧
    (refused → (s.submit trigger).2 = s) ∧
    (¬ refused → ∃ request next, s.submit trigger = (some request, next) ∧
      request.url = url ∧ request.method = settings.formMethod ∧
      (∀ name, request.fields.get? name =
        if name = settings.inputFieldName then some value
        else settings.extraPostFields.get? name) ∧
      next.panel.input =
        { s.panel.input with value := [], visible := false, focused := false } ∧
      next.panel.transcript = s.panel.transcript ++ shown ∧
      next.panel.signals =
        s.panel.signals ++ .input next.panel.input :: shown.map .entry) ∧
    ∀ panel' others,
      let other := (start url settings panel').performAll others
      other.panel.input.value.trim = value →
        (other.submit trigger).1 = (s.submit trigger).1 := by
  intro s value refused shown
  have configured : s.Configured url settings := performAll_configured (.start ..) operations
  have echoed : s.settings.echo s.command = shown := by
    rw [configured.settings_eq]
    exact echo_eq settings value
  have forgets (panel' : Panel) (others : List Operation) :
      let other := (start url settings panel').performAll others
      other.panel.input.value.trim = value →
        (other.submit trigger).1 = (s.submit trigger).1 := by
    intro other same
    exact submit_of_same configured (performAll_configured (.start ..) others) same trigger
  obtain ⟨refuses, stays⟩ | ⟨accepts, sends⟩ := submit_cases configured trigger
  · refine ⟨iff_of_true ?_ refuses, fun _ => ?_, fun accepts => absurd refuses accepts, forgets⟩
    · rw [stays]
    · rw [stays]
  · refine ⟨iff_of_false ?_ accepts, fun refuses => absurd refuses accepts, fun _ => ?_, forgets⟩
    · rw [sends]
      exact nofun
    · refine ⟨_, _, sends, rfl, rfl, fun name => Fields.get?_insert .., input_begun s, ?_, ?_⟩
      · rw [transcript_begun, echoed]
      · rw [signals_begun, echoed, input_begun]

/-- The field of the command held something else at first, and a command was sent and answered
before; a blank value is refused, and the next command is sent in its own right. -/
theorem second_submission_forgets :
    let settings : Settings := Options.resolve {
      inputFieldName := some "cmd".toList
      extraPostFields := some (.ofList [("cmd".toList, "stale".toList), ("id".toList, ['7'])])
      promptText := some ['$'] } 0
    let before : List Operation :=
      [.type "up".toList, .submit .user, .resolve (.success "ok".toList), .type [' ']]
    let blank := (start [] settings {}).performAll before
    let s := (start [] settings {}).performAll (before ++ [.submit .user, .type " date".toList])
    (blank.submit .user).2 = blank ∧
    ∃ request next, s.submit .user = (some request, next) ∧
      request.fields.get? "cmd".toList = some "date".toList ∧
      request.fields.get? "id".toList = some ['7'] ∧
      next.panel.transcript = s.panel.transcript ++ [⟨.echo, [.literal "$ date".toList]⟩] := by
  intro settings before blank s
  obtain ⟨-, refused, -⟩ := submission_forgets [] settings {} before .user
  obtain ⟨-, -, accepted, -⟩ := submission_forgets [] settings {}
    (before ++ [.submit .user, .type " date".toList]) .user
  refine ⟨refused (by decide +kernel), ?_⟩
  obtain ⟨request, next, sends, -, -, fields, -, shown, -⟩ := accepted (by decide +kernel)
  refine ⟨request, next, sends, (fields _).trans ?_, (fields _).trans ?_, shown.trans ?_⟩
  · decide +kernel
  · decide +kernel
  · decide +kernel

end RemoteTerminal.Session
