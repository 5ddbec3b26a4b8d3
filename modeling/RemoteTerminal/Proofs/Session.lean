import RemoteTerminal.Session
import RemoteTerminal.Proofs.Text.Trim

/-!
# What a session shows and sends

* `Fields.insert_insert`: of two values given to one name the later counts;
* the entries that a welcome, a command and an output become, and what typing and output do to the
  input line;
* `Session.submit_eq`: when a submission is accepted, and the request and session it gives;
* `Session.Configured`: the url, the settings and the fields of other names never change, so every
  request is the one of its command (`Configured.request_eq`).
-/

namespace RemoteTerminal

namespace Fields

@[simp] theorem insert_insert (fields : Fields) (name first second : Text) :
    (fields.insert name first).insert name second = fields.insert name second := by
  apply ext
  intro other
  by_cases h : other = name <;> simp [get?_insert, h]

end Fields

/-! ## Entries -/

namespace Entry

/-- The entry of a welcome. -/
def ofWelcome (message : Text) : Entry := ⟨.greeting, [.literal message]⟩

/-- The entry of a trimmed command. -/
def ofCommand (settings : Settings) (command : Text) : Entry :=
  ⟨.echo, [.literal (settings.promptText.getD [] ++ command)]⟩

/-- The entry of an output. -/
def ofOutput (settings : Settings) (output : Text) : Entry :=
  ⟨.output, Row.ofOutput settings.tabWidth settings.promptText.isSome output⟩

@[simp] theorem kind_ofWelcome (message : Text) : (ofWelcome message).kind = .greeting := rfl

@[simp] theorem kind_ofCommand (settings : Settings) (command : Text) :
    (ofCommand settings command).kind = .echo := rfl

@[simp] theorem kind_ofOutput (settings : Settings) (output : Text) :
    (ofOutput settings output).kind = .output := rfl

end Entry

namespace Settings

/-- Whether a command counts that nobody forces. -/
def admits (settings : Settings) (command : Text) : Bool :=
  !command.isEmpty || settings.allowEmptyInput

/-- What a transcript starts with. -/
def welcome (settings : Settings) : List Entry := settings.helloMessage.toList.map Entry.ofWelcome

/-- What an accepted command adds to a transcript. -/
def echo (settings : Settings) (command : Text) : List Entry :=
  if settings.admits command then [Entry.ofCommand settings command] else []

end Settings

/-- The request of a trimmed command. -/
def Request.ofCommand (url : Text) (settings : Settings) (command : Text) : Request :=
  ⟨url, settings.formMethod, settings.extraPostFields.insert settings.inputFieldName command⟩

/-! ## The input line and the panel -/

namespace InputLine

theorem pulse_of_enabled {line : InputLine} (h : line.disabled = false) : line.pulse = line := by
  simp [pulse, h]

/-- A moment of focus counts where the line can be seen, and leaves the line as disabled as it
was. -/
theorem pulse_of_disabled {line : InputLine} (h : line.disabled = true) :
    line.pulse = { line with
      focused := false
      scrollSyncs := line.scrollSyncs + if line.visible then 1 else 0 } := by
  cases hv : line.visible <;> simp [pulse, focus, disable, h, hv]

@[simp] theorem visible_pulse (line : InputLine) : line.pulse.visible = line.visible := by
  cases h : line.disabled
  · rw [pulse_of_enabled h]
  · rw [pulse_of_disabled h]

@[simp] theorem disabled_pulse (line : InputLine) : line.pulse.disabled = line.disabled := by
  cases h : line.disabled
  · rw [pulse_of_enabled h, h]
  · rw [pulse_of_disabled h]
    exact h

@[simp] theorem visible_setValue (line : InputLine) (value : Text) :
    (line.setValue value).visible = line.visible := by
  unfold setValue
  split <;> rfl

@[simp] theorem disabled_setValue (line : InputLine) (value : Text) :
    (line.setValue value).disabled = line.disabled := by
  unfold setValue
  split <;> rfl

theorem value_setValue {line : InputLine} (h : line.disabled = false) (value : Text) :
    (line.setValue value).value = value := by
  simp [setValue, h]

end InputLine

namespace Panel

variable (p : Panel) (settings : Settings)

@[simp] theorem transcript_echo (command : Text) :
    (p.echo settings command).transcript =
      p.transcript ++ [Entry.ofCommand settings command.trim] := rfl

@[simp] theorem transcript_hideInput : p.hideInput.transcript = p.transcript := rfl

@[simp] theorem input_append (output : Text) :
    (p.append settings output).input =
      if settings.inputDisabled then p.input.reveal.clear.focus.pulse
      else p.input.reveal.clear.focus := rfl

/-- Output reveals the input line, whatever hid it. -/
theorem visible_append (output : Text) : (p.append settings output).input.visible = true := by
  rw [input_append]
  split
  · rw [InputLine.visible_pulse]
    rfl
  · rfl

theorem disabled_append (output : Text) :
    (p.append settings output).input.disabled = p.input.disabled := by
  rw [input_append]
  split
  · rw [InputLine.disabled_pulse]
    rfl
  · rfl

end Panel

/-! ## The session -/

namespace Session

/-- The typed command, trimmed. -/
def command (s : Session) : Text := s.panel.input.value.trim

/-- The request of the typed command. -/
def request (s : Session) : Request :=
  ⟨s.url, s.settings.formMethod, s.fields.insert s.settings.inputFieldName s.command⟩

/-- The session once the typed command is accepted. -/
def begun (s : Session) : Session :=
  { s with
    panel :=
      if s.settings.admits s.command then s.panel.hideInput.echo s.settings s.command
      else s.panel.hideInput
    fields := s.fields.insert s.settings.inputFieldName s.command }

/-- Whether a submission is accepted. -/
def accepts (s : Session) (trigger : Trigger) : Bool :=
  s.settings.admits s.command || trigger = .forcedFirst

theorem submit_eq (s : Session) (trigger : Trigger) :
    s.submit trigger = if s.accepts trigger then (some s.request, s.begun) else (none, s) := by
  have refuses : (s.command.isEmpty && decide (trigger ≠ .forcedFirst) &&
      !s.settings.allowEmptyInput) = !s.accepts trigger := by
    simp only [accepts, Settings.admits, ne_eq, decide_not]
    cases s.command.isEmpty <;> cases s.settings.allowEmptyInput <;>
      cases decide (trigger = .forcedFirst) <;> rfl
  change (if s.command.isEmpty && decide (trigger ≠ .forcedFirst) &&
    !s.settings.allowEmptyInput then (none, s) else (some s.request, s.begun)) = _
  rw [refuses]
  cases s.accepts trigger <;> rfl

@[simp] theorem transcript_begun (s : Session) :
    s.begun.panel.transcript = s.panel.transcript ++ s.settings.echo s.command := by
  simp only [begun, Settings.echo]
  split
  · simp [command]
  · simp

@[simp] theorem input_begun (s : Session) : s.begun.panel.input = s.panel.input.hide.clear := by
  simp only [begun]
  split <;> rfl

/-- The url and the settings of a session are the given ones, and its fields differ from the extra
ones in the name of the command only. -/
structure Configured (url : Text) (settings : Settings) (s : Session) : Prop where
  url_eq : s.url = url
  settings_eq : s.settings = settings
  fields_eq : ∀ command, s.fields.insert settings.inputFieldName command =
    settings.extraPostFields.insert settings.inputFieldName command

namespace Configured

variable {url : Text} {settings : Settings} {s : Session}

theorem start (url : Text) (settings : Settings) (panel : Panel) :
    Configured url settings (.start url settings panel) := ⟨rfl, rfl, fun _ => rfl⟩

/-- No earlier command is left in a request. -/
theorem request_eq (h : Configured url settings s) :
    s.request = .ofCommand url settings s.command := by
  simp [request, Request.ofCommand, h.url_eq, h.settings_eq, h.fields_eq]

theorem begun (h : Configured url settings s) : Configured url settings s.begun where
  url_eq := h.url_eq
  settings_eq := h.settings_eq
  fields_eq command := by
    simp only [Session.begun, h.settings_eq, Fields.insert_insert]
    exact h.fields_eq command

theorem with_panel (h : Configured url settings s) (panel : Panel) :
    Configured url settings { s with panel } := ⟨h.url_eq, h.settings_eq, h.fields_eq⟩

end Configured

end Session
end RemoteTerminal
