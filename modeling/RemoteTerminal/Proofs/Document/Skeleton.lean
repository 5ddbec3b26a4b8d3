import RemoteTerminal.Proofs.Document.Layout
import RemoteTerminal.Proofs.Text.Pieces

/-!
# The skeleton of the document

Texts and values that come from outside are escaped, and all other values are those of styles, which
hold no quotes. So every tag of the document is read as it was written (`tagsOf_renderDocument`),
and what the tags are is known without the texts: `documentSkeleton` lists them. Two documents that
agree on flags and on the shape of the transcript have the same skeleton (`skeletons_agree`).
-/

namespace RemoteTerminal

open Markup (Tag Bone Quotable Legible Ordinary)

/-! ## Values without quotes -/

/-- Declarations without quotes. -/
def Unquoted (declarations : List Declaration) : Prop :=
  ∀ d ∈ declarations, '"' ∉ d.1 ∧ '"' ∉ d.2

instance (declarations : List Declaration) : Decidable (Unquoted declarations) :=
  List.decidableBAll _ declarations

theorem Unquoted.append {a b : List Declaration} (ha : Unquoted a) (hb : Unquoted b) :
    Unquoted (a ++ b) := List.forall_mem_append.mpr ⟨ha, hb⟩

theorem quote_not_mem_inlineStyle {declarations : List Declaration}
    (unquoted : Unquoted declarations) : '"' ∉ inlineStyle declarations := by
  refine Text.not_mem_intercalate (by decide) fun piece mem => ?_
  obtain ⟨d, listed, rfl⟩ := List.mem_map.mp mem
  obtain ⟨property, value⟩ := unquoted d listed
  simp [property, value]

theorem Settings.themed_unquoted (settings : Settings) (target : StyleTarget) :
    Unquoted (settings.themed target) := by
  unfold themed
  cases settings.themeEnabled <;> cases target <;> decide

theorem Settings.quote_not_mem_themed (settings : Settings) (target : StyleTarget) :
    '"' ∉ inlineStyle (settings.themed target) :=
  quote_not_mem_inlineStyle (settings.themed_unquoted target)

theorem quote_not_mem_scrollStyle (settings : Settings) : '"' ∉ scrollStyle settings := by
  have base : '"' ∉ inlineStyle scrollDeclarations := quote_not_mem_inlineStyle (by decide)
  have height : '"' ∉ Text.decimal settings.maxHeight := by
    intro mem
    have digit := Nat.isDigit_of_mem_toDigits (by decide) (by decide) mem
    exact absurd digit (by decide)
  simp [scrollStyle, base, height]

theorem quotable_styling {style : Text} (unquoted : '"' ∉ style) : Quotable (styling style) := by
  unfold styling
  split
  · exact nofun
  · exact .single (by decide) (by decide) unquoted

/-- An escaped value can be that of an attribute, whatever it is. -/
theorem quotable_escape (name : Text) (named : name ≠ []) (ordinary : Ordinary name)
    (value : Text) : Quotable [(name, Markup.escape value)] :=
  .single named ordinary ((Markup.inert_escape value).not_mem (by decide))

theorem quotable_formAttributes (url : Text) (settings : Settings) (visible : Bool) :
    Quotable (formAttributes url settings visible) := by
  have method := quotable_escape "method".toList (by decide) (by decide) settings.formMethod
  have action := quotable_escape "action".toList (by decide) (by decide) url
  have shown : Unquoted (declare [("display", if visible then "inline" else "none")]) := by
    cases visible <;> decide
  have style := quote_not_mem_inlineStyle (shown.append (settings.themed_unquoted .form))
  exact (method.append action).append (quotable_styling style)

theorem quotable_inputAttributes (settings : Settings) (line : InputLine) :
    Quotable (inputAttributes settings line) := by
  have type : Quotable [("type".toList, "text".toList)] := by decide
  have name := quotable_escape "name".toList (by decide) (by decide) settings.inputFieldName
  have complete : Quotable [("autocomplete".toList, "off".toList)] := by decide
  have value := quotable_escape "value".toList (by decide) (by decide) line.value
  have disabled : Quotable
      (if line.disabled then [("disabled".toList, "disabled".toList)] else []) := by
    cases line.disabled <;> decide
  have focused : Quotable
      (if line.focused then [("autofocus".toList, "autofocus".toList)] else []) := by
    cases line.focused <;> decide
  have width : Unquoted (declare [("width", "80%")]) := by decide
  have style := quote_not_mem_inlineStyle
    ((width.append (settings.themed_unquoted .input)).append (settings.themed_unquoted .text))
  have values := type.append (name.append (complete.append value))
  exact ((values.append disabled).append focused).append (quotable_styling style)

/-! ## Tags that are read as they are written -/

/-- The elements of the document. -/
def elements : List String := ["div", "span", "form", "br", "input"]

theorem sound_element {name : String} (known : name ∈ elements) {attributes : List (Text × Text)}
    (quotable : Quotable attributes) (closing void : Bool) :
    Tag.Sound { closing, name := name.toList, attributes, void } := by
  have names : ∀ name ∈ elements,
      name.toList.head?.any Char.isAlpha = true ∧ Ordinary name.toList := by decide
  obtain ⟨starts, ordinary⟩ := names name known
  exact ⟨starts, ordinary, quotable⟩

theorem sound_opening {name : String} (known : name ∈ elements) {attributes : List (Text × Text)}
    (quotable : Quotable attributes) : (opening name attributes).Sound :=
  sound_element known quotable false false

theorem sound_ending {name : String} (known : name ∈ elements) : (ending name).Sound :=
  sound_element known .nil true false

theorem Row.legible_tags {row : Row} (inert : Markup.Inert row.markup) : Legible row.tags := by
  have plain : '<' ∉ row.markup := inert.not_mem (by decide)
  have starts : (opening "span").Sound := sound_opening (by decide) .nil
  have ends : (ending "span").Sound := sound_ending (by decide)
  refine .tag starts ?_
  split
  · have breaks : Tag.Sound { name := "br".toList, void := true } :=
      sound_element (by decide) .nil false true
    exact (Legible.tag ends .nil).cons plain breaks
  · exact Legible.nil.cons plain ends

/-- The tags of an output stand as they are, whatever the output holds. -/
theorem Entry.legible_tags (settings : Settings) (output : Text) :
    Legible (ofOutput settings output).tags := by
  have starts : (opening "span").Sound := sound_opening (by decide) .nil
  have ends : (ending "span").Sound := sound_ending (by decide)
  have rows : Legible ((ofOutput settings output).rows.flatMap Row.tags) :=
    .flatMap fun _ mem => Row.legible_tags (Row.inert_ofOutput mem)
  exact .tag starts (rows.append (.tag ends .nil))

theorem legible_promptTags (settings : Settings) : Legible (promptTags settings) := by
  unfold promptTags
  cases settings.promptText with
  | none => exact .nil
  | some prompt =>
    have style := quotable_styling (settings.quote_not_mem_themed .text)
    have plain : '<' ∉ Markup.escape prompt := (Markup.inert_escape prompt).not_mem (by decide)
    have ends : (ending "span").Sound := sound_ending (by decide)
    exact .tag (sound_opening (by decide) style) (Legible.nil.cons plain ends)

theorem legible_documentTags (url : Text) (settings : Settings) {panel : Panel}
    (outputs : panel.transcript.Outputs) : Legible (documentTags url settings panel) := by
  have styled (target : StyleTarget) := quotable_styling (settings.quote_not_mem_themed target)
  have scroll := quotable_styling (quote_not_mem_scrollStyle settings)
  have form := quotable_formAttributes url settings panel.input.visible
  have input := quotable_inputAttributes settings panel.input
  have ends (name : String) (known : name ∈ elements) := sound_ending known
  have shown : Legible (panel.transcript.flatMap Entry.tags) := by
    refine .flatMap fun entry mem => ?_
    obtain ⟨settings, output, rfl⟩ := outputs entry mem
    exact Entry.legible_tags settings output
  refine .append (.append (.append (.append ?_ shown) ?_) (legible_promptTags settings)) ?_
  · exact .tag (sound_opening (by decide) (styled .container))
      (.tag (sound_opening (by decide) scroll)
        (.tag (sound_opening (by decide) (styled .text)) .nil))
  · exact .tag (sound_ending (by decide)) (.tag (sound_opening (by decide) form) .nil)
  · exact .tag (sound_element (by decide) input false true)
      (.tag (sound_ending (by decide)) (.tag (sound_ending (by decide))
        (.tag (sound_ending (by decide)) .nil)))

/-- The tags of the document are read as they are written. -/
theorem tagsOf_renderDocument (url : Text) (settings : Settings) {panel : Panel}
    (outputs : panel.transcript.Outputs) :
    Markup.tagsOf (renderDocument url settings panel) = documentTags url settings panel := by
  rw [renderDocument_eq, Markup.tagsOf_writeTags (legible_documentTags url settings outputs)]

/-! ## The skeleton -/

/-- For each row of each entry, whether a break follows it. -/
def Transcript.shape (t : Transcript) : List (List Bool) := t.map fun entry => entry.rows.map (·.breaks)

def opens (name : String) (attributes : List String) : Bone :=
  { name := name.toList, attributes := attributes.map (·.toList) }

def ends (name : String) : Bone := { closing := true, name := name.toList }

def void (name : String) (attributes : List String) : Bone := { opens name attributes with void := true }

/-- The skeleton of a row. -/
def rowSkeleton (breaks : Bool) : List Bone :=
  opens "span" [] :: (if breaks then [void "br" []] else []) ++ [ends "span"]

/-- The skeleton of an output, from where the breaks are. -/
def outputSkeleton (breaks : List Bool) : List Bone :=
  opens "span" [] :: breaks.flatMap rowSkeleton ++ [ends "span"]

/-- The skeleton of a document, by its theme, its prompt, the flags of its input line and the shape
of its transcript. -/
def documentSkeleton (themed prompted disabled focused : Bool) (shape : List (List Bool)) :
    List Bone :=
  let style := if themed then ["style"] else []
  [opens "div" style, opens "div" ["style"], opens "span" style] ++
    shape.flatMap outputSkeleton ++
    [ends "span", opens "form" ["method", "action", "style"]] ++
    (if prompted then [opens "span" style, ends "span"] else []) ++
    [void "input" (["type", "name", "autocomplete", "value"] ++
        (if disabled then ["disabled"] else []) ++ (if focused then ["autofocus"] else []) ++
        ["style"]),
      ends "form", ends "div", ends "div"]

theorem Row.bones_tags (row : Row) : Markup.bones row.tags = rowSkeleton row.breaks := by
  unfold tags
  cases row.breaks <;> rfl

theorem Entry.bones_ofOutput (settings : Settings) (output : Text) :
    Markup.bones (ofOutput settings output).tags =
      outputSkeleton ((ofOutput settings output).rows.map (·.breaks)) := by
  have rows := Markup.bones_flatMap (ofOutput settings output).rows Row.tags
  simp only [Row.bones_tags] at rows
  show Markup.bones (([], opening "span") ::
    (ofOutput settings output).rows.flatMap Row.tags ++ [([], ending "span")]) = _
  rw [outputSkeleton, List.flatMap_map, ← rows, Markup.bones_append]
  rfl

theorem Transcript.bones_tags {t : Transcript} (outputs : t.Outputs) :
    Markup.bones (t.flatMap Entry.tags) = t.shape.flatMap outputSkeleton := by
  rw [Markup.bones_flatMap, shape, List.flatMap_map]
  refine List.flatMap_congr fun entry mem => ?_
  obtain ⟨settings, output, rfl⟩ := outputs entry mem
  exact Entry.bones_ofOutput settings output

theorem inlineStyle_cons_ne_nil (d : Declaration) (declarations : List Declaration) :
    inlineStyle (d :: declarations) ≠ [] := by
  unfold inlineStyle
  cases declarations with
  | nil => simp
  | cons => simp [List.intercalate_cons_cons]

theorem names_styling {style : Text} (some : style ≠ []) :
    (styling style).map Prod.fst = ["style"].map (·.toList) := by
  simp [styling, some]

theorem Settings.names_themed (settings : Settings) (target : StyleTarget) :
    (styling (inlineStyle (settings.themed target))).map Prod.fst =
      (if settings.themeEnabled then ["style"] else []).map (·.toList) := by
  unfold themed
  cases settings.themeEnabled with
  | false => rfl
  | true => cases target <;> exact names_styling (inlineStyle_cons_ne_nil _ _)

theorem names_scrollStyle (settings : Settings) :
    (styling (scrollStyle settings)).map Prod.fst = ["style"].map (·.toList) := by
  apply names_styling
  simp [scrollStyle]

theorem names_formAttributes (url : Text) (settings : Settings) (visible : Bool) :
    (formAttributes url settings visible).map Prod.fst =
      ["method", "action", "style"].map (·.toList) := by
  have style := names_styling (inlineStyle_cons_ne_nil
    ("display".toList, (if visible then "inline" else "none").toList) (settings.themed .form))
  exact congrArg (["method".toList, "action".toList] ++ ·) style

theorem names_inputAttributes (settings : Settings) (line : InputLine) :
    (inputAttributes settings line).map Prod.fst =
      (["type", "name", "autocomplete", "value"] ++ (if line.disabled then ["disabled"] else []) ++
        (if line.focused then ["autofocus"] else []) ++ ["style"]).map (·.toList) := by
  have style := names_styling (inlineStyle_cons_ne_nil ("width".toList, "80%".toList)
    (settings.themed .input ++ settings.themed .text))
  unfold inputAttributes
  rw [List.map_append]
  cases line.disabled <;> cases line.focused <;> exact congrArg (_ ++ ·) style

theorem bone_eq (name : String) {attributes : List (Text × Text)} {names : List String}
    (same : attributes.map Prod.fst = names.map (·.toList)) (void : Bool) :
    Tag.bone { name := name.toList, attributes, void } = { opens name names with void } := by
  show Bone.mk false name.toList (attributes.map Prod.fst) void = _
  rw [same]
  rfl

theorem bones_promptTags (settings : Settings) :
    Markup.bones (promptTags settings) =
      if settings.promptText.isSome then
        [opens "span" (if settings.themeEnabled then ["style"] else []), ends "span"] else [] := by
  unfold promptTags
  cases settings.promptText with
  | none => rfl
  | some prompt =>
    exact congrArg ([·, ends "span"]) (bone_eq "span" (settings.names_themed .text) false)

/-- The skeleton of a document is known without its texts. -/
theorem bones_documentTags (url : Text) (settings : Settings) {panel : Panel}
    (outputs : panel.transcript.Outputs) :
    Markup.bones (documentTags url settings panel) =
      documentSkeleton settings.themeEnabled settings.promptText.isSome panel.input.disabled
        panel.input.focused panel.transcript.shape := by
  have container := bone_eq "div" (settings.names_themed .container) false
  have scroll := bone_eq "div" (names_scrollStyle settings) false
  have text := bone_eq "span" (settings.names_themed .text) false
  have form := bone_eq "form" (names_formAttributes url settings panel.input.visible) false
  have input := bone_eq "input" (names_inputAttributes settings panel.input) true
  unfold documentTags documentSkeleton
  simp only [Markup.bones_append, Markup.bones_cons, Transcript.bones_tags outputs,
    bones_promptTags, opening, container, scroll, text, form, input]
  rfl

theorem skeleton_renderDocument (url : Text) (settings : Settings) {panel : Panel}
    (outputs : panel.transcript.Outputs) :
    Markup.skeleton (renderDocument url settings panel) =
      documentSkeleton settings.themeEnabled settings.promptText.isSome panel.input.disabled
        panel.input.focused panel.transcript.shape := by
  rw [Markup.skeleton, tagsOf_renderDocument url settings outputs, bones_documentTags _ _ outputs]

/-- **No text changes a tag.** Two documents of outputs have the same tags with the same attributes
if they agree on the theme, on whether there is a prompt, on whether the input line is disabled and
focused, and on the shape of the transcript. The url, the method, the name of the field, the prompt,
the value of the input line and the outputs can be any texts. -/
theorem skeletons_agree (url url' : Text) (settings settings' : Settings)
    (outputs outputs' : List (Settings × Text)) (line line' : InputLine)
    (theme : settings.themeEnabled = settings'.themeEnabled)
    (prompt : settings.promptText.isSome = settings'.promptText.isSome)
    (disabled : line.disabled = line'.disabled) (focused : line.focused = line'.focused)
    (shape : (Panel.putOut {} outputs).transcript.shape =
      (Panel.putOut {} outputs').transcript.shape) :
    let document := renderDocument url settings { Panel.putOut {} outputs with input := line }
    let document' := renderDocument url' settings' { Panel.putOut {} outputs' with input := line' }
    Markup.skeleton document = Markup.skeleton document' ∧
      Markup.skeleton document =
        documentSkeleton settings.themeEnabled settings.promptText.isSome line.disabled line.focused
          (Panel.putOut {} outputs).transcript.shape := by
  intro document document'
  have known : Markup.skeleton document = _ :=
    skeleton_renderDocument url settings (Panel.outputs_putOut outputs)
  have known' : Markup.skeleton document' = _ :=
    skeleton_renderDocument url' settings' (Panel.outputs_putOut outputs')
  refine ⟨?_, known⟩
  rw [known, known', theme, prompt]
  exact congr (congrArg₂ (documentSkeleton _ _) disabled focused) shape

/-- Texts that look like tags and like the ends of attributes, in every place that takes one. -/
theorem hostile_skeletons_agree :
    let settings := Options.resolve { promptText := some "$".toList } 100
    let hostile := Options.resolve
      { formMethod := some "\"/><br".toList, inputFieldName := some "x\" onfocus=\"".toList,
        promptText := some "</form><!--".toList } 100
    let line : InputLine := { focused := true }
    let document := renderDocument "http://host/cmd".toList settings
      { Panel.putOut {} [(settings, "a\nb".toList)] with input := line }
    let document' := renderDocument "\"><script>".toList hostile
      { Panel.putOut {} [(hostile, "</span>\t<br />\n<p id='&lt;'>".toList)] with
        input := line.setValue "\" disabled=\"".toList }
    Markup.skeleton document = Markup.skeleton document' ∧
      Markup.skeleton document = documentSkeleton true true false true [[true, true]] :=
  skeletons_agree _ _ _ _ _ _ _ _ rfl rfl rfl rfl (by decide)

end RemoteTerminal
