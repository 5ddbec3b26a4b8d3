import RemoteTerminal.Proofs.Host.Loop
import RemoteTerminal.Proofs.Widget.Changes
import Mathlib.Logic.Basic

/-!
# What a step of the loop changes

`Change`: what one step of the loop makes of the session, of the lines taken and of those still
pending, and of the warnings. A step leaves them alone, ignores a line, puts out a text, or submits
a line, which is accepted or refused (`change_of_step`). It only adds to what was signalled
(`Change.signals_grow`).
-/

namespace RemoteTerminal.Host

/-- The lines that were typed and that nothing was made of yet. -/
def Loop.pending (s : Loop) : List Text := s.host.queued ++ s.unread.filterMap Except.toOption

/-- What a step of the loop makes of the session, of the pending lines and of the warnings. -/
inductive Change (s t : Loop) : Prop where
  | idle (session : t.host.widget.session = s.host.widget.session) (taken : t.taken = s.taken)
      (pending : t.pending = s.pending) (warnings : t.host.warnings = s.host.warnings)
  | ignored (line : Text) (disabled : s.host.widget.input.disabled = true)
      (session : t.host.widget.session = s.host.widget.session) (taken : t.taken = s.taken)
      (pending : s.pending = line :: t.pending)
      (warnings : t.host.warnings = s.host.warnings ∨
        t.host.warnings = s.host.warnings ++ [ignoredWarning])
  | shown (output : Text)
      (session : t.host.widget.session = s.host.widget.session.append output)
      (taken : t.taken = s.taken) (pending : t.pending = s.pending)
      (warnings : t.host.warnings = s.host.warnings)
  | submitted (line : Text) (enabled : s.host.widget.input.disabled = false)
      (admitted : s.host.widget.settings.admits line.trim = true)
      (session : t.host.widget.session = (s.host.widget.session.type line).begun)
      (taken : t.taken = s.taken ++ [line]) (pending : s.pending = line :: t.pending)
      (warnings : t.host.warnings = s.host.warnings)
  | refused (line : Text) (enabled : s.host.widget.input.disabled = false)
      (session : t.host.widget.session = { s.host.widget.session with
        panel := (s.host.widget.panel.type line).signal
          (.prompt (s.host.widget.panel.type line).input) })
      (taken : t.taken = s.taken ++ [line]) (pending : s.pending = line :: t.pending)
      (warnings : t.host.warnings = s.host.warnings)

theorem change_of_step {replies : Nat → Reply} {s t : Loop} (h : Step replies s t) :
    Change s t := by
  cases h with
  | line line rest _ _ next =>
    refine .idle rfl rfl ?_ rfl
    simp [Loop.pending, next, Except.toOption]
  | event event widget _ next | drain event widget _ next =>
    obtain ⟨rest, _, rfl⟩ := Widget.take?_eq_some.mp next
    exact .shown event.text (Widget.session_handle _ _) rfl rfl rfl
  | submit line rest _ visible enabled next =>
    have pending : s.pending = line :: (rest ++ s.unread.filterMap Except.toOption) := by
      rw [Loop.pending, next]
      rfl
    cases admitted : s.host.widget.settings.admits line.trim with
    | true =>
      refine .submitted line enabled admitted ?_ rfl pending rfl
      show (submitLine s.host.widget line).session = _
      rw [submitLine_admitted enabled admitted, Widget.session_begun]
      rfl
    | false =>
      refine .refused line enabled ?_ rfl pending rfl
      show (submitLine s.host.widget line).session = _
      rw [submitLine_refused enabled admitted]
      rfl
  | ignore line rest _ _ disabled next =>
    refine .ignored line disabled rfl rfl ?_ (ite_eq_or_eq ..)
    rw [Loop.pending, next]
    rfl
  | fault | close | interrupt | rest | leave | reach | finish | post => exact .idle rfl rfl rfl rfl

/-- A step only adds to what was signalled. -/
theorem Change.signals_grow {s t : Loop} (h : Change s t) :
    s.host.widget.signals <+: t.host.widget.signals := by
  unfold Widget.signals
  cases h with
  | idle session | ignored _ _ session => exact ⟨[], by rw [session, List.append_nil]⟩
  | shown output session =>
    rw [session]
    exact ⟨_, (Panel.signals_append ..).symm⟩
  | submitted line _ _ session =>
    rw [session]
    exact ⟨_, (Session.signals_begun (s.host.widget.session.type line)).symm⟩
  | refused line _ session =>
    rw [session]
    exact ⟨_, (Panel.signals_signal ..).symm⟩

end RemoteTerminal.Host
