import RemoteTerminal.Fields
import RemoteTerminal.Text.Digits

/-!
The options of a terminal, each of which may be left unset, and layers of them: where two layers
set the same option, the upper one counts. How tall the output region may grow is a number of
pixels, or as much as the container gives.
-/
namespace RemoteTerminal

/-- The cap on the height of the output region. -/
inductive Height where
  | fill
  | pixels (count : Nat)
  deriving DecidableEq, Repr

namespace Height

/-- Pixel counts are below this. -/
def bound : Nat := Nat.pow 2 32

/-- The words for `fill`, in any case of their letters. -/
def keywords : List Text := ["fill".toList, "100%".toList, "auto".toList]

/-- Reads a keyword, or a count with or without the unit `px`; white space around them is free. -/
def parse (raw : Text) : Option Height :=
  let body := raw.trim
  if keywords.contains body.asciiLower then some .fill
  else (Text.count? bound (body.dropTail "px".toList).trim).map .pixels

/-- What a text in place of a height means: one that does not parse fills the container. -/
def ofText (raw : Text) : Height := (parse raw).getD .fill

end Height

/-- What a caller wants called when the start is over. What it does is the caller's own; it is known
by a number. -/
structure LoadHook where
  number : Nat
  deriving DecidableEq, Repr

/-- The options that a user may set. -/
structure Options where
  maxHeight : Option Height := none
  formMethod : Option Text := none
  inputFieldName : Option Text := none
  extraPostFields : Option Fields := none
  promptText : Option Text := none
  focusOnLoad : Option Bool := none
  submitOnLoad : Option Bool := none
  grabFocusOnClick : Option Bool := none
  helloMessage : Option Text := none
  themeEnabled : Option Bool := none
  allowEmptyInput : Option Bool := none
  tabWidth : Option Nat := none
  inputDisabled : Option Bool := none
  onLoad : Option LoadHook := none
  deriving DecidableEq, Inhabited

namespace Options

/-- No option set. -/
def unset : Options := {}

/-- The options of `upper` where it sets them, those of `lower` elsewhere. -/
def overlay (lower upper : Options) : Options where
  maxHeight := upper.maxHeight.or lower.maxHeight
  formMethod := upper.formMethod.or lower.formMethod
  inputFieldName := upper.inputFieldName.or lower.inputFieldName
  extraPostFields := upper.extraPostFields.or lower.extraPostFields
  promptText := upper.promptText.or lower.promptText
  focusOnLoad := upper.focusOnLoad.or lower.focusOnLoad
  submitOnLoad := upper.submitOnLoad.or lower.submitOnLoad
  grabFocusOnClick := upper.grabFocusOnClick.or lower.grabFocusOnClick
  helloMessage := upper.helloMessage.or lower.helloMessage
  themeEnabled := upper.themeEnabled.or lower.themeEnabled
  allowEmptyInput := upper.allowEmptyInput.or lower.allowEmptyInput
  tabWidth := upper.tabWidth.or lower.tabWidth
  inputDisabled := upper.inputDisabled.or lower.inputDisabled
  onLoad := upper.onLoad.or lower.onLoad

end Options
end RemoteTerminal
