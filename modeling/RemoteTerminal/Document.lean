import RemoteTerminal.Panel
import RemoteTerminal.Text.Digits

/-!
The panel as a markup document: a container around a scrolling region, in it the transcript and a
form with the prompt and the input line. A theme is written into style attributes.
-/
namespace RemoteTerminal

/-- A style attribute, or nothing where there is no style. -/
def styleAttribute (style : Text) : Text :=
  if style.isEmpty then [] else " style=\"".toList ++ style ++ ['"']

def scrollDeclarations : List Declaration :=
  declare [("display", "block"), ("overflow-x", "hidden"), ("overflow-y", "auto"), ("padding", "0")]

/-- An attribute with an escaped value. -/
def escapedAttribute (name : String) (value : Text) : Text :=
  name.toList ++ "=\"".toList ++ Markup.escape value ++ ['"']

/-- The document of a panel whose commands go to `url`. -/
def renderDocument (url : Text) (settings : Settings) (panel : Panel) : Text :=
  let themed (target : StyleTarget) : List Declaration :=
    if settings.themeEnabled then Theme.unix.declarations target else []
  let styled (declarations : List Declaration) : Text := styleAttribute (inlineStyle declarations)
  let textStyle := styled (themed .text)
  let scrollStyle := inlineStyle scrollDeclarations ++ " max-height: ".toList ++
    Text.decimal settings.maxHeight ++ "px;".toList
  let shown := if panel.input.visible then "inline" else "none"
  let prompt := match settings.promptText with
    | some prompt =>
      "<span".toList ++ textStyle ++ ">".toList ++ Markup.escape prompt ++ "</span>".toList
    | none => []
  "<div".toList ++ styled (themed .container) ++ "><div".toList ++ styleAttribute scrollStyle ++
    "><span".toList ++ textStyle ++ ">".toList ++ panel.transcript.toMarkup ++
    "</span><form ".toList ++ escapedAttribute "method" settings.formMethod ++ " ".toList ++
    escapedAttribute "action" url ++ styled (declare [("display", shown)] ++ themed .form) ++
    ">".toList ++ prompt ++ "<input type=\"text\" ".toList ++
    escapedAttribute "name" settings.inputFieldName ++ " autocomplete=\"off\" ".toList ++
    escapedAttribute "value" panel.input.value ++
    (if panel.input.disabled then " disabled=\"disabled\"".toList else []) ++
    (if panel.input.focused then " autofocus=\"autofocus\"".toList else []) ++
    styled (declare [("width", "80%")] ++ themed .input ++ themed .text) ++
    " /></form></div></div>".toList

end RemoteTerminal
