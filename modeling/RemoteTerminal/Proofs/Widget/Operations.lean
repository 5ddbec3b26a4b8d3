import RemoteTerminal.Widget
import RemoteTerminal.Proofs.Session

/-!
# What each operation of a widget changes

* `submitFor_eq`: an accepted submission begins and dispatches a request, a refused one changes
  nothing;
* `begun`, `handle` and `drain`, by what they do to the transcript, the input line, the queue, the
  requests that run and the two counters;
* `start_fresh`: the widget at its start.
-/

namespace RemoteTerminal

namespace Event

/-- The number of the request that a completion is of. -/
def number? : Event → Option Nat
  | .completed number _ => some number
  | .append _ => none

/-- The text that the transcript gets for an event. -/
def text : Event → Text
  | .completed _ outcome => outcome.toText
  | .append text => text

end Event

namespace Widget

/-- The entries that a widget shows. -/
def transcript (w : Widget) : Transcript := w.session.panel.transcript

variable (w : Widget)

/-! ## Changes to the panel alone -/

@[simp] theorem transcript_type (value : Text) : (w.type value).transcript = w.transcript := rfl

@[simp] theorem input_type (value : Text) : (w.type value).input = w.input.setValue value := rfl

@[simp] theorem transcript_onPanel (change : Panel → Panel) :
    (w.onPanel change).transcript = (change w.session.panel).transcript := rfl

@[simp] theorem input_onPanel (change : Panel → Panel) :
    (w.onPanel change).input = (change w.session.panel).input := rfl

/-- A click changes at most the focus of the input line. -/
theorem click_eq (selecting : Bool) :
    w.click selecting = w ∨ w.click selecting = w.onPanel .focusInput := by
  unfold click
  split
  · exact .inr rfl
  · exact .inl rfl

/-! ## Submissions -/

/-- The widget once the typed command is accepted. -/
def begun (runtime : Bool) : Widget :=
  { w with session := w.session.begun }.dispatch runtime w.session.request

theorem submitFor_eq (runtime : Bool) (trigger : Trigger) :
    w.submitFor runtime trigger =
      if w.session.accepts trigger then (w.begun runtime, true) else (w, false) := by
  unfold submitFor
  rw [Session.submit_eq]
  cases w.session.accepts trigger <;> rfl

theorem submitFor_accepted {runtime : Bool} {trigger : Trigger}
    (h : w.session.accepts trigger = true) :
    w.submitFor runtime trigger = (w.begun runtime, true) := by
  rw [submitFor_eq, if_pos h]

theorem submitFor_refused {runtime : Bool} {trigger : Trigger}
    (h : w.session.accepts trigger = false) : w.submitFor runtime trigger = (w, false) := by
  rw [submitFor_eq, if_neg (by simp [h])]

theorem accepts_of_submit {w : Widget} {runtime : Bool} (h : (w.submit runtime).2 = true) :
    w.session.accepts .user = true := by
  cases ha : w.session.accepts .user with
  | true => rfl
  | false => simp [submit, submitFor_refused w ha] at h

theorem submit_eq_begun {w : Widget} {runtime : Bool} (h : (w.submit runtime).2 = true) :
    (w.submit runtime).1 = w.begun runtime := by
  rw [submit, submitFor_accepted w (accepts_of_submit h)]

theorem submit_eq_self {w : Widget} {runtime : Bool} (h : (w.submit runtime).2 = false) :
    (w.submit runtime).1 = w := by
  cases ha : w.session.accepts .user with
  | true => simp [submit, submitFor_accepted w ha] at h
  | false => rw [submit, submitFor_refused w ha]

variable (runtime : Bool)

@[simp] theorem session_begun : (w.begun runtime).session = w.session.begun := by
  cases runtime <;> rfl

@[simp] theorem inFlight_begun : (w.begun runtime).inFlight = w.inFlight + 1 := by
  cases runtime <;> rfl

@[simp] theorem nextNumber_begun : (w.begun runtime).nextNumber = w.nextNumber + 1 := by
  cases runtime <;> rfl

@[simp] theorem running_begun : (w.begun runtime).running =
    w.running ++ if runtime then [⟨w.nextNumber, w.session.request⟩] else [] := by
  cases runtime
  · exact (List.append_nil _).symm
  · rfl

@[simp] theorem queue_begun : (w.begun runtime).queue =
    w.queue ++ if runtime then [] else [.completed w.nextNumber (.failure .generic)] := by
  cases runtime
  · rfl
  · exact (List.append_nil _).symm

@[simp] theorem settings_begun : (w.begun runtime).settings = w.settings := by
  rw [settings, session_begun]
  rfl

@[simp] theorem transcript_begun : (w.begun runtime).transcript =
    w.transcript ++ w.settings.echo w.session.command := by
  rw [transcript, session_begun, Session.transcript_begun]
  rfl

@[simp] theorem input_begun : (w.begun runtime).input = w.input.hide.clear := by
  rw [input, session_begun, Session.input_begun]
  rfl

/-! ## Events -/

@[simp] theorem running_handle (event : Event) : (w.handle event).running = w.running := by
  cases event <;> rfl

@[simp] theorem queue_handle (event : Event) : (w.handle event).queue = w.queue := by
  cases event <;> rfl

@[simp] theorem nextNumber_handle (event : Event) :
    (w.handle event).nextNumber = w.nextNumber := by
  cases event <;> rfl

/-- An event shows its text, whatever it is. -/
theorem session_handle (event : Event) :
    (w.handle event).session = w.session.append event.text := by
  cases event <;> rfl

@[simp] theorem settings_handle (event : Event) : (w.handle event).settings = w.settings := by
  rw [settings, session_handle]
  rfl

@[simp] theorem transcript_handle (event : Event) : (w.handle event).transcript =
    w.transcript ++ [Entry.ofOutput w.settings event.text] := by
  rw [transcript, session_handle]
  rfl

theorem visible_handle (event : Event) : (w.handle event).input.visible = true := by
  rw [input, session_handle]
  exact Panel.visible_append _ _ _

@[simp] theorem disabled_handle (event : Event) :
    (w.handle event).input.disabled = w.input.disabled := by
  rw [input, session_handle]
  exact Panel.disabled_append _ _ _

theorem inFlight_handle (event : Event) :
    (w.handle event).inFlight = w.inFlight - if event.number?.isSome then 1 else 0 := by
  cases event <;> rfl

theorem take?_eq_some {w next : Widget} {event : Event} :
    w.take? = some (event, next) ↔
      ∃ rest, w.queue = event :: rest ∧ next = { w with queue := rest } := by
  unfold take?
  split
  next h => simp [h]
  next first rest h =>
    rw [h]
    constructor
    · rintro ⟨⟩
      exact ⟨rest, rfl, rfl⟩
    · rintro ⟨_, ⟨⟩, rfl⟩
      rfl

@[simp] theorem queue_drain : w.drain.queue = [] := by
  have kept (events : List Event) (w : Widget) : (events.foldl handle w).queue = w.queue := by
    induction events generalizing w with
    | nil => rfl
    | cons event events ih => rw [List.foldl_cons, ih, queue_handle]
  exact kept _ _

theorem inFlight_drain_le : w.drain.inFlight ≤ w.inFlight := by
  have falls (events : List Event) (w : Widget) :
      (events.foldl handle w).inFlight ≤ w.inFlight := by
    induction events generalizing w with
    | nil => exact Nat.le_refl _
    | cons event events ih =>
      refine Nat.le_trans (ih _) ?_
      rw [inFlight_handle]
      exact Nat.sub_le _ _
  exact falls _ _

theorem drain_of_empty {w : Widget} (h : w.queue = []) : w.drain = w := by
  obtain ⟨session, clickToFocus, inFlight, nextNumber, running, queue⟩ := w
  obtain rfl : queue = [] := h
  rfl

/-! ## The start -/

/-- A widget right before its first submission. -/
def opened (url : Text) (settings : Settings) : Widget :=
  let w : Widget := { session := .start url settings {} }
  let w := if settings.themeEnabled then w.onPanel .applyTheme else w
  let w := { w with clickToFocus := settings.grabFocusOnClick }
  match settings.helloMessage with
  | some message => w.onPanel (·.greet message)
  | none => w

/-- What the start does after the first submission. -/
def dressed (w : Widget) (settings : Settings) : Widget :=
  let w := if settings.focusOnLoad then w.onPanel .focusInput else w
  let w := if settings.inputDisabled then w.onPanel .disableInput else w
  match settings.onLoad with
  | some hook => w.onPanel (·.signal (.loaded hook))
  | none => w

theorem start_eq (url : Text) (options : Options) (containerHeight : Nat) (runtime : Bool) :
    start url options containerHeight runtime =
      let settings := options.resolve containerHeight
      (if settings.submitOnLoad then (opened url settings).begun runtime
        else opened url settings).dressed settings := by
  have accepted : (opened url (options.resolve containerHeight)).session.accepts .forcedFirst =
      true := by
    simp [Session.accepts]
  have first : (opened url (options.resolve containerHeight)).submitFor runtime .forcedFirst = _ :=
    submitFor_accepted _ accepted
  simp only [start]
  show dressed (if _ then ((opened url (options.resolve containerHeight)).submitFor runtime
    .forcedFirst).1 else _) _ = _
  rw [first]
  rfl

theorem opened_eq (url : Text) (settings : Settings) :
    ∃ panel : Panel, opened url settings =
        { session := .start url settings panel, clickToFocus := settings.grabFocusOnClick } ∧
      panel.transcript = settings.welcome ∧ panel.input = {} := by
  unfold opened Settings.welcome
  cases settings.helloMessage <;> cases settings.themeEnabled <;> exact ⟨_, rfl, rfl, rfl⟩

theorem dressed_eq (settings : Settings) :
    ∃ panel : Panel, w.dressed settings = w.onPanel (fun _ => panel) ∧
      panel.transcript = w.transcript ∧ panel.input.visible = w.input.visible ∧
      panel.input.disabled = (w.input.disabled || settings.inputDisabled) := by
  unfold dressed
  cases settings.inputDisabled
  · cases settings.focusOnLoad <;> cases settings.onLoad <;>
      exact ⟨_, rfl, rfl, rfl, (Bool.or_false _).symm⟩
  · cases settings.focusOnLoad <;> cases settings.onLoad <;>
      exact ⟨_, rfl, rfl, rfl, (Bool.or_true _).symm⟩

/-- What a widget is like at its start. A first submission carries the empty command. -/
structure Fresh (url : Text) (settings : Settings) (runtime : Bool) (w : Widget) : Prop where
  configured : w.session.Configured url settings
  transcript_eq : w.transcript =
    settings.welcome ++ if settings.submitOnLoad then settings.echo [] else []
  visible_eq : w.input.visible = !settings.submitOnLoad
  disabled_eq : w.input.disabled = settings.inputDisabled
  inFlight_eq : w.inFlight = if settings.submitOnLoad then 1 else 0
  nextNumber_eq : w.nextNumber = if settings.submitOnLoad then 1 else 0
  running_eq : w.running =
    if settings.submitOnLoad && runtime then [⟨0, .ofCommand url settings []⟩] else []
  queue_eq : w.queue =
    if settings.submitOnLoad && !runtime then [.completed 0 (.failure .generic)] else []

theorem start_fresh (url : Text) (options : Options) (containerHeight : Nat) (runtime : Bool) :
    Fresh url (options.resolve containerHeight) runtime
      (start url options containerHeight runtime) := by
  rw [start_eq]
  generalize options.resolve containerHeight = settings
  obtain ⟨first, ho, hshown, hline⟩ := opened_eq url settings
  have conf : (opened url settings).session.Configured url settings := by
    rw [ho]
    exact .start ..
  have shown : (opened url settings).transcript = settings.welcome := by
    rw [ho]
    exact hshown
  have line : (opened url settings).input = {} := by
    rw [ho]
    exact hline
  have none_yet : (opened url settings).inFlight = 0 ∧ (opened url settings).nextNumber = 0 ∧
      (opened url settings).running = [] ∧ (opened url settings).queue = [] := by
    rw [ho]
    exact ⟨rfl, rfl, rfl, rfl⟩
  dsimp only
  generalize opened url settings = w at *
  obtain ⟨inFlight, next, running, queue⟩ := none_yet
  have empty : w.session.command = [] := by
    show w.input.value.trim = []
    rw [line]
    rfl
  cases hs : settings.submitOnLoad with
  | false =>
    obtain ⟨panel, hd, hshown', hvis, hdis⟩ := dressed_eq w settings
    simp only [Bool.false_eq_true, if_false, hd]
    exact {
      configured := conf.with_panel panel
      transcript_eq := by simp [hs, hshown', shown]
      visible_eq := by simp [hs, hvis, line]
      disabled_eq := by simp [hdis, line]
      inFlight_eq := by simp [hs, onPanel, inFlight]
      nextNumber_eq := by simp [hs, onPanel, next]
      running_eq := by simp [hs, onPanel, running]
      queue_eq := by simp [hs, onPanel, queue] }
  | true =>
    obtain ⟨panel, hd, hshown', hvis, hdis⟩ := dressed_eq (w.begun runtime) settings
    simp only [if_true, hd]
    exact {
      configured := by
        simpa [onPanel] using conf.begun.with_panel panel
      transcript_eq := by
        have same : w.settings = settings := conf.settings_eq
        simp [hs, hshown', shown, empty, same]
      visible_eq := by simp [hs, hvis, line, InputLine.hide, InputLine.clear]
      disabled_eq := by simp [hdis, line, InputLine.hide, InputLine.clear]
      inFlight_eq := by simp [hs, onPanel, inFlight]
      nextNumber_eq := by simp [hs, onPanel, next]
      running_eq := by simp [hs, onPanel, running, next, conf.request_eq, empty]
      queue_eq := by cases runtime <;> simp [hs, onPanel, queue, next] }

end Widget
end RemoteTerminal
