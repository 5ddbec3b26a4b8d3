import Mathlib
import RemoteTerminal.Proofs.Options.Layers
import RemoteTerminal.Proofs.Text.Trim

/-!
# Resolving twice is resolving once

`Settings.reify` sets every option to what a terminal runs with. Settings are `Fit` if nothing in
them is left to be made fit.

* `Text.blank_asciiUpper`: writing a text in upper case makes it neither blank nor shown.
* `normalizePrompt_eq_self_iff`: the prompts that stay as they are.
* `Settings.resolve_reify`: fit settings come back from their options, in any container.
* `Options.fit_resolve`: options resolve to fit settings, and so `resolution_projects`.
* `Settings.fit_iff`: there are no other fit settings.
-/

namespace RemoteTerminal

namespace Text

theorem isBlank_toUpper (c : Char) : isBlank c.toUpper = isBlank c := by
  by_cases lower : c.isLower = true
  · have range : 97 ≤ c.toNat ∧ c.toNat ≤ 122 := by
      simpa [Char.isLower, UInt32.le_iff_toNat_le] using lower
    have upper : c.toUpper.toNat = c.toNat - 32 := by
      rw [Char.toUpper_eq_of_isLower lower]
      rw [Char.toNat_ofNat]
      exact if_pos (.inl (by omega))
    rw [isBlank_of_printed (by omega) (by omega), isBlank_of_printed (by omega) (by omega)]
  · rw [Char.toUpper_eq_of_not_isLower lower]

theorem blank_asciiUpper (t : Text) : t.asciiUpper.blank = t.blank := by
  rw [Bool.eq_iff_iff, blank_iff, blank_iff, asciiUpper, List.forall_mem_map]
  simp only [isBlank_toUpper]

theorem isLower_of_mem_asciiUpper {t : Text} {c : Char} (mem : c ∈ t.asciiUpper) :
    c.isLower = false := by
  obtain ⟨d, -, rfl⟩ := List.mem_map.mp mem
  exact Char.isLower_toUpper_eq_false d

theorem asciiUpper_eq_self {t : Text} (upper : ∀ c ∈ t, c.isLower = false) :
    t.asciiUpper = t := by
  refine (List.map_congr_left fun c mem => ?_).trans t.map_id
  exact Char.toUpper_eq_of_not_isLower (by simp [upper c mem])

end Text

/-- A prompt of one space, after a text that white space neither begins nor ends. -/
def FitPrompt (prompt : Text) : Prop := ∃ shown : Text, shown.Trimmed ∧ prompt = shown ++ [' ']

theorem trim_fitPrompt {shown : Text} (trimmed : shown.Trimmed) : (shown ++ [' ']).trim = shown :=
  Text.trim_surrounded (a := []) (by simp) (by simp [Text.isBlank, Text.blankRanges]) trimmed

theorem normalizePrompt_eq_some {raw : Text} {prompt : Text}
    (fit : normalizePrompt raw = some prompt) : FitPrompt prompt := by
  unfold normalizePrompt at fit
  split at fit
  next => cases fit
  next =>
    cases fit
    exact ⟨raw.trim, raw.trimmed_trim, rfl⟩

/-- The prompts that stay as they are. -/
theorem normalizePrompt_eq_self_iff {prompt : Text} :
    normalizePrompt prompt = some prompt ↔ FitPrompt prompt := by
  constructor
  · exact normalizePrompt_eq_some
  · rintro ⟨shown, trimmed, rfl⟩
    rw [normalizePrompt, if_neg (by simp), trim_fitPrompt trimmed]

namespace Settings

/-- The options that set everything to what it is. A prompt or a welcome that there is none of is
left unset. -/
def reify (s : Settings) : Options where
  maxHeight := some (.pixels s.maxHeight)
  formMethod := some s.formMethod
  inputFieldName := some s.inputFieldName
  extraPostFields := some s.extraPostFields
  promptText := s.promptText
  focusOnLoad := some s.focusOnLoad
  submitOnLoad := some s.submitOnLoad
  grabFocusOnClick := some s.grabFocusOnClick
  helloMessage := s.helloMessage
  themeEnabled := some s.themeEnabled
  allowEmptyInput := some s.allowEmptyInput
  tabWidth := some s.tabWidth
  inputDisabled := some s.inputDisabled
  onLoad := s.onLoad

/-- Nothing in the settings is left to be made fit. -/
structure Fit (s : Settings) : Prop where
  prompt : ∀ prompt ∈ s.promptText, FitPrompt prompt
  method_shown : s.formMethod.blank = false
  method_upper : ∀ c ∈ s.formMethod, c.isLower = false
  name_shown : s.inputFieldName.blank = false
  welcome : ∀ message ∈ s.helloMessage, message ≠ []
  tabs : s.tabWidth ≤ 64

/-- Fit settings come back from their options, whatever the container. -/
theorem resolve_reify {s : Settings} (fit : s.Fit) (height : Nat) : s.reify.resolve height = s := by
  have method : ((Options.nonBlank (some s.formMethod)).map Text.asciiUpper).getD
      Options.usualMethod = s.formMethod := by
    rw [Options.map_nonBlank_getD]
    simp only [fit.method_shown, Text.asciiUpper_eq_self fit.method_upper]
    rfl
  have name : (Options.nonBlank (some s.inputFieldName)).getD Options.usualFieldName =
      s.inputFieldName := by
    rw [Options.nonBlank_getD]
    simp only [fit.name_shown]
    rfl
  have prompt : s.promptText.bind normalizePrompt = s.promptText := by
    cases given : s.promptText with
    | none => rfl
    | some prompt => exact normalizePrompt_eq_self_iff.mpr (fit.prompt prompt given)
  have welcome : (s.helloMessage.filter fun message => !message.isEmpty) = s.helloMessage := by
    cases given : s.helloMessage with
    | none => rfl
    | some message => simp [fit.welcome message given]
  have tabs : min s.tabWidth Options.greatestTabWidth = s.tabWidth := Nat.min_eq_left fit.tabs
  simp only [Options.resolve, reify, Option.getD_some, method, name, prompt, welcome, tabs]

end Settings

namespace Options

theorem fit_resolve (o : Options) (height : Nat) : (o.resolve height).Fit where
  prompt prompt given := by
    obtain ⟨raw, -, normal⟩ := Option.bind_eq_some_iff.mp given
    exact normalizePrompt_eq_some normal
  method_shown := by
    show (((nonBlank o.formMethod).map Text.asciiUpper).getD usualMethod).blank = false
    rw [map_nonBlank_getD]
    split
    next method _ =>
      cases blank : method.blank with
      | true => rfl
      | false => simp [Text.blank_asciiUpper, blank]
    next => rfl
  method_upper := by
    show ∀ c ∈ ((nonBlank o.formMethod).map Text.asciiUpper).getD usualMethod, c.isLower = false
    cases nonBlank o.formMethod with
    | none => simp [usualMethod]
    | some method => exact fun c mem => Text.isLower_of_mem_asciiUpper mem
  name_shown := by
    show ((nonBlank o.inputFieldName).getD usualFieldName).blank = false
    rw [nonBlank_getD]
    split
    next name _ =>
      cases blank : name.blank with
      | true => rfl
      | false => simp [blank]
    next => rfl
  welcome message given := by simpa using (Option.filter_eq_some_iff.mp given).2
  tabs := Nat.min_le_right _ _

/-- **Resolving twice is resolving once.** Set as options, the settings that options resolve to
resolve to themselves in every container, and no container has to be asked. Such settings are fit: a
prompt ends in one space, and no other white space begins or ends it; the method and the name of the
input field are not blank, and no letter of the method is in lower case; a welcome is not empty, and
a tab is at most 64 spaces wide. -/
theorem resolution_projects (o : Options) (height other : Nat) :
    let s := o.resolve height
    s.reify.resolve other = s ∧ s.reify.asksContainer = false ∧ s.Fit :=
  ⟨Settings.resolve_reify (o.fit_resolve height) other, rfl, o.fit_resolve height⟩

/-- Only of the empty prompt nothing is left, and of blank ones the space. -/
example : ["", " \t", " $ ", "$ "].map (fun raw => normalizePrompt raw.toList) =
    [none, some " ".toList, some "$ ".toList, some "$ ".toList] := by decide

end Options

/-- Settings are fit if some options resolve to them. -/
theorem Settings.fit_iff {s : Settings} : s.Fit ↔ ∃ o height, Options.resolve o height = s := by
  constructor
  · intro fit
    exact ⟨s.reify, 0, resolve_reify fit 0⟩
  · rintro ⟨o, height, rfl⟩
    exact o.fit_resolve height

end RemoteTerminal
