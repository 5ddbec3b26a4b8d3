import RemoteTerminal.Options
import RemoteTerminal.Tree.Read

/-!
Options read from a tree: the fields in their order, and the spellings of each.
-/
namespace RemoteTerminal.Options

/-- The options that a tree can set. -/
inductive Field where
  | maxHeight
  | formMethod
  | inputFieldName
  | extraPostFields
  | promptText
  | focusOnLoad
  | submitOnLoad
  | grabFocusOnClick
  | helloMessage
  | themeEnabled
  | allowEmptyInput
  | tabWidth
  | inputDisabled
  deriving DecidableEq, Repr

namespace Field

def order : List Field :=
  [maxHeight, formMethod, inputFieldName, extraPostFields, promptText, focusOnLoad, submitOnLoad,
   grabFocusOnClick, helloMessage, themeEnabled, allowEmptyInput, tabWidth, inputDisabled]

/-- The spellings of a field, the first of which is its name. -/
def spellings : Field → List Text
  | maxHeight => ["max_height".toList, "maxHeight".toList]
  | formMethod => ["form_method".toList, "formMethod".toList]
  | inputFieldName => ["input_field_name".toList, "inputFieldName".toList, "input_name".toList]
  | extraPostFields => ["extra_post_fields".toList, "extraPostFields".toList, "post_vars".toList]
  | promptText => ["prompt_text".toList, "promptText".toList, "custom_prompt".toList]
  | focusOnLoad => ["focus_on_load".toList, "focusOnLoad".toList]
  | submitOnLoad => ["submit_on_load".toList, "submitOnLoad".toList]
  | grabFocusOnClick => ["grab_focus_on_click".toList, "grabFocusOnClick".toList]
  | helloMessage => ["hello_message".toList, "helloMessage".toList]
  | themeEnabled => ["theme_enabled".toList, "themeEnabled".toList, "unix_theme".toList]
  | allowEmptyInput => ["allow_empty_input".toList, "allowEmptyInput".toList]
  | tabWidth => ["tab_width".toList, "tabWidth".toList]
  | inputDisabled => ["input_disabled".toList, "inputDisabled".toList, "disable_input".toList]

end Field

variable {ν : Type} [Tree ν]

open Read (optional text boolean)

/-- Sets one option to what a tree holds; null leaves it unset. -/
def assign (field : Field) (v : ν) (o : Options) : Except ReadError Options :=
  match field with
  | .maxHeight => do pure { o with maxHeight := ← optional Read.height v }
  | .formMethod => do pure { o with formMethod := ← optional text v }
  | .inputFieldName => do pure { o with inputFieldName := ← optional text v }
  | .extraPostFields => do pure { o with extraPostFields := ← optional Read.fields v }
  | .promptText => do pure { o with promptText := ← optional text v }
  | .focusOnLoad => do pure { o with focusOnLoad := ← optional boolean v }
  | .submitOnLoad => do pure { o with submitOnLoad := ← optional boolean v }
  | .grabFocusOnClick => do pure { o with grabFocusOnClick := ← optional boolean v }
  | .helloMessage => do pure { o with helloMessage := ← optional text v }
  | .themeEnabled => do pure { o with themeEnabled := ← optional boolean v }
  | .allowEmptyInput => do pure { o with allowEmptyInput := ← optional boolean v }
  | .tabWidth => do pure { o with tabWidth := ← optional (Read.count .size) v }
  | .inputDisabled => do pure { o with inputDisabled := ← optional boolean v }

def layout : Read.Layout ν Field Options where
  expected := .options
  order := Field.order
  spellings := Field.spellings
  assign := assign

/-- The options that a tree sets. -/
def read (v : ν) : Except ReadError Options := layout.read .unset v

end RemoteTerminal.Options
