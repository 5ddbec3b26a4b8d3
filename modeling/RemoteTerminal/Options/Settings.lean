import RemoteTerminal.Options

/-!
The settings that one terminal runs with: every option decided, from what was set, what is usual,
and the height of the container. Main definition: `Options.resolve`.
-/
namespace RemoteTerminal

/-- What a terminal runs with. A prompt ends in one space; the form method is in upper case. -/
structure Settings where
  maxHeight : Nat
  formMethod : Text
  inputFieldName : Text
  extraPostFields : Fields
  promptText : Option Text
  focusOnLoad : Bool
  submitOnLoad : Bool
  grabFocusOnClick : Bool
  helloMessage : Option Text
  themeEnabled : Bool
  allowEmptyInput : Bool
  tabWidth : Nat
  inputDisabled : Bool
  onLoad : Option LoadHook
  deriving DecidableEq, Inhabited

/-- A prompt trimmed and given one space at its end; only the empty text is no prompt. -/
def normalizePrompt (raw : Text) : Option Text :=
  if raw.isEmpty then none else some (raw.trim ++ [' '])

namespace Options

def usualMethod : Text := "POST".toList
def usualFieldName : Text := "input".toList
def usualTabWidth : Nat := 4
def greatestTabWidth : Nat := 64

/-- A text that was set, untouched, unless it is blank. -/
def nonBlank (value : Option Text) : Option Text := value.filter fun t => !t.blank

/-- Whether the height of the container has to be asked for. -/
def asksContainer (o : Options) : Bool :=
  match o.maxHeight with
  | some (.pixels _) => false
  | some .fill | none => true

/-- The settings that the options come to in a container of the given height. -/
def resolve (o : Options) (containerHeight : Nat) : Settings where
  maxHeight := match o.maxHeight.getD .fill with
    | .pixels count => count
    | .fill => containerHeight
  formMethod := ((nonBlank o.formMethod).map Text.asciiUpper).getD usualMethod
  inputFieldName := (nonBlank o.inputFieldName).getD usualFieldName
  extraPostFields := o.extraPostFields.getD .empty
  promptText := o.promptText.bind normalizePrompt
  focusOnLoad := o.focusOnLoad.getD true
  submitOnLoad := o.submitOnLoad.getD false
  grabFocusOnClick := o.grabFocusOnClick.getD true
  helloMessage := o.helloMessage.filter fun message => !message.isEmpty
  themeEnabled := o.themeEnabled.getD true
  allowEmptyInput := o.allowEmptyInput.getD false
  tabWidth := min (o.tabWidth.getD usualTabWidth) greatestTabWidth
  inputDisabled := o.inputDisabled.getD false
  onLoad := o.onLoad

end Options
end RemoteTerminal
