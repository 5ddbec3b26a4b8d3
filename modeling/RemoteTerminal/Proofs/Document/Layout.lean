import RemoteTerminal.Document
import RemoteTerminal.Proofs.Markup.Tags
import RemoteTerminal.Proofs.Transcript.Lines

/-!
# The layout of the document

The document is written tag by tag, with the texts between them (`renderDocument_eq`). The tags of
the transcript stand in the middle, those of the form below it.
-/

namespace RemoteTerminal

open Markup (Tag writeTags writeAttribute writeAttributes)

/-- The tag that opens an element. -/
def opening (name : String) (attributes : List (Text × Text) := []) : Tag :=
  { name := name.toList, attributes }

/-- The tag that ends an element. -/
def ending (name : String) : Tag := { closing := true, name := name.toList }

theorem write_opening (name : String) (attributes : List (Text × Text)) :
    (opening name attributes).write =
      '<' :: name.toList ++ writeAttributes attributes ++ ['>'] := by
  simp [opening, Tag.write]

theorem write_ending (name : String) : (ending name).write = '<' :: '/' :: name.toList ++ ['>'] := by
  simp [ending, Tag.write, writeAttributes]

/-! ## The transcript -/

/-- The tags of a row, each with the text before it. -/
def Row.tags (row : Row) : List (Text × Tag) :=
  ([], opening "span") ::
    if row.breaks then
      [(row.markup, { name := "br".toList, void := true }), ([], ending "span")]
    else [(row.markup, ending "span")]

theorem Row.toMarkup_eq (row : Row) : row.toMarkup = writeTags row.tags := by
  unfold toMarkup tags
  cases row.breaks <;> simp [opening, ending, Tag.write, writeAttributes]

/-- The tags of an entry, each with the text before it. -/
def Entry.tags (entry : Entry) : List (Text × Tag) :=
  match entry.kind with
  | .output => ([], opening "span") :: entry.rows.flatMap Row.tags ++ [([], ending "span")]
  | .greeting | .echo => entry.rows.flatMap Row.tags

theorem Entry.toMarkup_eq (entry : Entry) : entry.toMarkup = writeTags entry.tags := by
  have rows : entry.rows.flatMap Row.toMarkup = writeTags (entry.rows.flatMap Row.tags) := by
    rw [Markup.writeTags_flatMap]
    exact List.flatMap_congr fun row _ => row.toMarkup_eq
  unfold toMarkup tags
  cases entry.kind <;> simp [rows, opening, ending, Tag.write, writeAttributes]

theorem Transcript.toMarkup_eq (t : Transcript) : t.toMarkup = writeTags (t.flatMap Entry.tags) := by
  rw [Markup.writeTags_flatMap]
  exact List.flatMap_congr fun entry _ => entry.toMarkup_eq

/-! ## The document -/

/-- The declarations of the theme, if there is one. -/
def Settings.themed (settings : Settings) (target : StyleTarget) : List Declaration :=
  if settings.themeEnabled then Theme.unix.declarations target else []

/-- The attribute of a style, unless the style is empty. -/
def styling (style : Text) : List (Text × Text) :=
  if style.isEmpty then [] else [("style".toList, style)]

theorem write_styling (style : Text) :
    writeAttributes (styling style) = styleAttribute style := by
  unfold styleAttribute styling
  split
  · rfl
  · simp [writeAttribute, writeAttributes]

/-- The style of the region that scrolls. -/
def scrollStyle (settings : Settings) : Text :=
  inlineStyle scrollDeclarations ++ " max-height: ".toList ++ Text.decimal settings.maxHeight ++
    "px;".toList

/-- The attributes of the form. -/
def formAttributes (url : Text) (settings : Settings) (visible : Bool) : List (Text × Text) :=
  [("method".toList, Markup.escape settings.formMethod), ("action".toList, Markup.escape url)] ++
    styling (inlineStyle (declare [("display", if visible then "inline" else "none")] ++
      settings.themed .form))

/-- The attributes of the input line. -/
def inputAttributes (settings : Settings) (line : InputLine) : List (Text × Text) :=
  [("type".toList, "text".toList), ("name".toList, Markup.escape settings.inputFieldName),
    ("autocomplete".toList, "off".toList), ("value".toList, Markup.escape line.value)] ++
    (if line.disabled then [("disabled".toList, "disabled".toList)] else []) ++
    (if line.focused then [("autofocus".toList, "autofocus".toList)] else []) ++
    styling (inlineStyle (declare [("width", "80%")] ++ settings.themed .input ++
      settings.themed .text))

/-- The tags of the prompt. -/
def promptTags (settings : Settings) : List (Text × Tag) :=
  match settings.promptText with
  | some prompt =>
    [([], opening "span" (styling (inlineStyle (settings.themed .text)))),
      (Markup.escape prompt, ending "span")]
  | none => []

/-- The tags of the document, each with the text before it. -/
def documentTags (url : Text) (settings : Settings) (panel : Panel) : List (Text × Tag) :=
  [([], opening "div" (styling (inlineStyle (settings.themed .container)))),
    ([], opening "div" (styling (scrollStyle settings))),
    ([], opening "span" (styling (inlineStyle (settings.themed .text))))] ++
  panel.transcript.flatMap Entry.tags ++
  [([], ending "span"), ([], opening "form" (formAttributes url settings panel.input.visible))] ++
  promptTags settings ++
  [([], { name := "input".toList, attributes := inputAttributes settings panel.input, void := true }),
    ([], ending "form"), ([], ending "div"), ([], ending "div")]

theorem write_formAttributes (url : Text) (settings : Settings) (visible : Bool) :
    writeAttributes (formAttributes url settings visible) =
      ' ' :: escapedAttribute "method" settings.formMethod ++ " ".toList ++
        escapedAttribute "action" url ++
        styleAttribute (inlineStyle (declare [("display", if visible then "inline" else "none")] ++
          settings.themed .form)) := by
  unfold formAttributes
  rw [Markup.writeAttributes_append, write_styling]
  simp [writeAttributes, writeAttribute, escapedAttribute]

theorem write_inputAttributes (settings : Settings) (line : InputLine) :
    writeAttributes (inputAttributes settings line) =
      " type=\"text\" ".toList ++ escapedAttribute "name" settings.inputFieldName ++
        " autocomplete=\"off\" ".toList ++ escapedAttribute "value" line.value ++
        (if line.disabled then " disabled=\"disabled\"".toList else []) ++
        (if line.focused then " autofocus=\"autofocus\"".toList else []) ++
        styleAttribute (inlineStyle (declare [("width", "80%")] ++ settings.themed .input ++
          settings.themed .text)) := by
  unfold inputAttributes
  rw [Markup.writeAttributes_append, Markup.writeAttributes_append, Markup.writeAttributes_append,
    write_styling]
  cases line.disabled <;> cases line.focused <;>
    simp [writeAttributes, writeAttribute, escapedAttribute]

theorem write_promptTags (settings : Settings) :
    writeTags (promptTags settings) =
      match settings.promptText with
      | some prompt => "<span".toList ++
          styleAttribute (inlineStyle (settings.themed .text)) ++ ">".toList ++
          Markup.escape prompt ++ "</span>".toList
      | none => [] := by
  unfold promptTags
  cases settings.promptText with
  | none => rfl
  | some prompt =>
    simp only [Markup.writeTags_cons, write_opening, write_ending, write_styling]
    simp

theorem renderDocument_eq (url : Text) (settings : Settings) (panel : Panel) :
    renderDocument url settings panel = writeTags (documentTags url settings panel) := by
  unfold renderDocument documentTags
  simp only [Markup.writeTags_append, Markup.writeTags_cons, Markup.writeTags_nil,
    ← Transcript.toMarkup_eq, write_opening, write_ending, write_styling, write_formAttributes,
    write_promptTags]
  simp only [Tag.write, write_inputAttributes, Settings.themed, scrollStyle]
  simp only [List.append_assoc, List.nil_append, List.append_nil, List.cons_append]
  rfl

end RemoteTerminal
