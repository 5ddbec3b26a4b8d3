import RemoteTerminal.Proofs.Document.Skeleton
import RemoteTerminal.Proofs.Markup.Decoding
import RemoteTerminal.Proofs.Text.Digits

/-!
# What a document tells

The tags of a document are read as they were written, so two documents are the same only if their
tags are. The tags tell the rest.

* `Delimited`: what is written of an item tells where it ends; so do lists of such items up to
  something that starts none of them (`Delimited.flatMap`).
* `delimited_rowTags`, `delimited_outputTags`: rows and outputs are such items.
* `documentTags_injective`: the tags tell all that was written into them.
* `values_renderDocument`: which values an attribute has in a document.
* `document_faithful`: so the document tells its content, and the texts that were given.
-/

namespace RemoteTerminal

open Markup (Tag)

/-! ## Parts that tell where they end -/

section
variable {α β : Type} {write : α → List β}

/-- What is written of an item tells the item, and where it ends. -/
def Delimited (write : α → List β) : Prop :=
  ∀ a b x y, write a ++ x = write b ++ y → a = b ∧ x = y

/-- Items that start alike can be read one by one up to something else. -/
theorem Delimited.flatMap (h : Delimited write) {start stop : β}
    (starts : ∀ a, ∃ rest, write a = start :: rest) (apart : start ≠ stop) {items others : List α}
    {x y : List β} (same : items.flatMap write ++ stop :: x = others.flatMap write ++ stop :: y) :
    items = others ∧ x = y := by
  induction items generalizing others with
  | nil =>
    cases others with
    | nil => exact ⟨rfl, (List.cons.inj same).2⟩
    | cons b others =>
      obtain ⟨rest, first⟩ := starts b
      rw [List.flatMap_cons, first] at same
      exact absurd (List.cons.inj same).1.symm apart
  | cons a items ih =>
    cases others with
    | nil =>
      obtain ⟨rest, first⟩ := starts a
      rw [List.flatMap_cons, first] at same
      exact absurd (List.cons.inj same).1 apart
    | cons b others =>
      rw [List.flatMap_cons, List.flatMap_cons, List.append_assoc, List.append_assoc] at same
      obtain ⟨rfl, rest⟩ := h a b _ _ same
      obtain ⟨rfl, after⟩ := ih rest
      exact ⟨rfl, after⟩

end

/-! ## The transcript -/

/-- What the markup of a transcript is made of: for each row of each entry its own markup, and
whether a break follows it. -/
def Transcript.contents (t : Transcript) : List (List (Text × Bool)) :=
  t.map fun entry => entry.rows.map fun row => (row.markup, row.breaks)

/-- The tags of a row, from what it is made of. -/
def rowTags (content : Text × Bool) : List (Text × Tag) :=
  ([], opening "span") ::
    if content.2 then
      [(content.1, { name := "br".toList, void := true }), ([], ending "span")]
    else [(content.1, ending "span")]

/-- The tags of an output, from what its rows are made of. -/
def outputTags (contents : List (Text × Bool)) : List (Text × Tag) :=
  ([], opening "span") :: contents.flatMap rowTags ++ [([], ending "span")]

theorem span_apart : (([], opening "span") : Text × Tag) ≠ ([], ending "span") := by decide

theorem delimited_rowTags : Delimited rowTags := by
  rintro ⟨markup, breaks⟩ ⟨markup', breaks'⟩ x y same
  have apart : ({ name := "br".toList, void := true } : Tag) ≠ ending "span" := by decide
  replace same := (List.cons.inj same).2
  cases breaks with
  | false =>
    cases breaks' with
    | false =>
      obtain ⟨first, rest⟩ := List.cons.inj same
      exact ⟨congrArg (·, false) (congrArg Prod.fst first), rest⟩
    | true => exact absurd (congrArg Prod.snd (List.cons.inj same).1).symm apart
  | true =>
    cases breaks' with
    | false => exact absurd (congrArg Prod.snd (List.cons.inj same).1) apart
    | true =>
      obtain ⟨first, rest⟩ := List.cons.inj same
      exact ⟨congrArg (·, true) (congrArg Prod.fst first), (List.cons.inj rest).2⟩

theorem delimited_outputTags : Delimited outputTags := by
  intro a b x y same
  simp only [outputTags, List.cons_append, List.append_assoc, List.nil_append] at same
  exact delimited_rowTags.flatMap (fun _ => ⟨_, rfl⟩) span_apart (List.cons.inj same).2

theorem Transcript.tags_eq {t : Transcript} (outputs : t.Outputs) :
    t.flatMap Entry.tags = t.contents.flatMap outputTags := by
  rw [contents, List.flatMap_map]
  refine List.flatMap_congr fun entry mem => ?_
  obtain ⟨settings, output, rfl⟩ := outputs entry mem
  rw [outputTags, List.flatMap_map]
  rfl

/-! ## The attributes -/

theorem opening_injective {name : String} {a b : List (Text × Text)}
    (same : opening name a = opening name b) : a = b := congrArg Tag.attributes same

theorem styling_injective {a b : Text} (same : styling a = styling b) : a = b := by
  cases a with
  | nil =>
    cases b with
    | nil => rfl
    | cons => exact absurd same.symm (List.cons_ne_nil _ _)
  | cons =>
    cases b with
    | nil => exact absurd same (List.cons_ne_nil _ _)
    | cons => exact congrArg Prod.snd (List.cons.inj same).1

section
variable {settings settings' : Settings}

theorem themeEnabled_of_container
    (same : inlineStyle (settings.themed .container) = inlineStyle (settings'.themed .container)) :
    settings.themeEnabled = settings'.themeEnabled := by
  unfold Settings.themed at same
  revert same
  cases settings.themeEnabled <;> cases settings'.themeEnabled <;> decide

theorem Settings.themed_congr (theme : settings.themeEnabled = settings'.themeEnabled)
    (target : StyleTarget) : settings.themed target = settings'.themed target := by
  rw [themed, theme, themed]

theorem maxHeight_of_scrollStyle (same : scrollStyle settings = scrollStyle settings') :
    settings.maxHeight = settings'.maxHeight := by
  unfold scrollStyle at same
  have digits := List.append_cancel_right same
  exact Text.decimal_injective (List.append_cancel_left digits)

/-- The attributes of the form tell its url, its method and whether the input line is visible. -/
theorem formAttributes_injective (theme : settings.themeEnabled = settings'.themeEnabled)
    {url url' : Text} {visible visible' : Bool}
    (same : formAttributes url settings visible = formAttributes url' settings' visible') :
    url = url' ∧ settings.formMethod = settings'.formMethod ∧ visible = visible' := by
  simp only [formAttributes, List.cons_append, List.nil_append, List.cons.injEq, Prod.mk.injEq,
    true_and] at same
  obtain ⟨method, action, style⟩ := same
  refine ⟨Markup.escape_injective action, Markup.escape_injective method, ?_⟩
  replace style := styling_injective style
  rw [Settings.themed_congr theme, Settings.themed] at style
  revert style
  cases visible <;> cases visible' <;> cases settings'.themeEnabled <;> decide

/-- Two things that may be missing tell whether they are there, if they differ. -/
theorem optional_injective {α : Type} {a b : α} (apart : a ≠ b)
    {first first' second second' : Bool}
    (same : (if first then [a] else []) ++ (if second then [b] else []) =
      (if first' then [a] else []) ++ (if second' then [b] else [])) :
    first = first' ∧ second = second' := by
  cases first <;> cases first' <;> cases second <;> cases second' <;>
    simp [apart, apart.symm] at same ⊢

/-- The attributes of the input line tell its name, its value and its flags. -/
theorem inputAttributes_injective (theme : settings.themeEnabled = settings'.themeEnabled)
    {line line' : InputLine}
    (same : inputAttributes settings line = inputAttributes settings' line') :
    settings.inputFieldName = settings'.inputFieldName ∧ line.value = line'.value ∧
      line.disabled = line'.disabled ∧ line.focused = line'.focused := by
  unfold inputAttributes at same
  rw [Settings.themed_congr theme, Settings.themed_congr theme] at same
  have values := List.append_cancel_right same
  simp only [List.cons_append, List.nil_append, List.cons.injEq, Prod.mk.injEq, true_and] at values
  obtain ⟨name, value, flags⟩ := values
  have apart : ("disabled".toList, "disabled".toList) ≠
      ("autofocus".toList, "autofocus".toList) := by decide
  exact ⟨Markup.escape_injective name, Markup.escape_injective value,
    optional_injective apart flags⟩

/-- The prompt, up to the tag of the input line. -/
theorem promptTags_injective {input input' : Tag} (named : input.name = "input".toList)
    (named' : input'.name = "input".toList) {x y : List (Text × Tag)}
    (same : promptTags settings ++ ([], input) :: x = promptTags settings' ++ ([], input') :: y) :
    settings.promptText = settings'.promptText ∧ input = input' ∧ x = y := by
  have apart {attributes : List (Text × Text)} {tag : Tag} (named : tag.name = "input".toList) :
      opening "span" attributes ≠ tag := by
    rintro rfl
    exact absurd named (by simp [opening])
  unfold promptTags at same
  cases prompt : settings.promptText with
  | none =>
    cases prompt' : settings'.promptText with
    | none =>
      simp only [prompt, prompt', List.nil_append, List.cons.injEq, Prod.mk.injEq, true_and] at same
      exact ⟨rfl, same⟩
    | some _ =>
      rw [prompt, prompt'] at same
      exact absurd (congrArg Prod.snd (List.cons.inj same).1).symm (apart named)
  | some _ =>
    cases prompt' : settings'.promptText with
    | none =>
      rw [prompt, prompt'] at same
      exact absurd (congrArg Prod.snd (List.cons.inj same).1) (apart named')
    | some _ =>
      simp only [prompt, prompt', List.cons_append, List.nil_append, List.cons.injEq,
        Prod.mk.injEq, true_and, and_true] at same
      exact ⟨congrArg some (Markup.escape_injective same.2.1), same.2.2⟩

end

/-! ## The document -/

/-- What two documents of panels have in common: all that can be told from a document. -/
structure SameContent (url url' : Text) (settings settings' : Settings) (panel panel' : Panel) :
    Prop where
  url : url = url'
  formMethod : settings.formMethod = settings'.formMethod
  inputFieldName : settings.inputFieldName = settings'.inputFieldName
  promptText : settings.promptText = settings'.promptText
  themeEnabled : settings.themeEnabled = settings'.themeEnabled
  maxHeight : settings.maxHeight = settings'.maxHeight
  value : panel.input.value = panel'.input.value
  visible : panel.input.visible = panel'.input.visible
  disabled : panel.input.disabled = panel'.input.disabled
  focused : panel.input.focused = panel'.input.focused
  contents : panel.transcript.contents = panel'.transcript.contents

section
variable {url url' : Text} {settings settings' : Settings} {panel panel' : Panel}

theorem documentTags_injective (outputs : panel.transcript.Outputs)
    (outputs' : panel'.transcript.Outputs)
    (same : documentTags url settings panel = documentTags url' settings' panel') :
    SameContent url url' settings settings' panel panel' := by
  unfold documentTags at same
  rw [Transcript.tags_eq outputs, Transcript.tags_eq outputs'] at same
  simp only [List.cons_append, List.append_assoc, List.nil_append, List.cons.injEq, Prod.mk.injEq,
    true_and] at same
  obtain ⟨container, scroll, -, rest⟩ := same
  -- The theme comes first: the styles of all later tags are known from it.
  have theme := themeEnabled_of_container (styling_injective (opening_injective container))
  have height := maxHeight_of_scrollStyle (styling_injective (opening_injective scroll))
  obtain ⟨contents, rest⟩ := delimited_outputTags.flatMap (fun _ => ⟨_, rfl⟩) span_apart rest
  obtain ⟨form, rest⟩ := List.cons.inj rest
  obtain ⟨url_same, method, visible⟩ :=
    formAttributes_injective theme (opening_injective (congrArg Prod.snd form))
  obtain ⟨prompt, input, -⟩ := promptTags_injective rfl rfl rest
  obtain ⟨field, value, disabled, focused⟩ :=
    inputAttributes_injective theme (congrArg Tag.attributes input)
  exact {
    url := url_same
    formMethod := method
    inputFieldName := field
    promptText := prompt
    themeEnabled := theme
    maxHeight := height
    value := value
    visible := visible
    disabled := disabled
    focused := focused
    contents := contents }

theorem documentTags_congr (outputs : panel.transcript.Outputs)
    (outputs' : panel'.transcript.Outputs)
    (same : SameContent url url' settings settings' panel panel') :
    documentTags url settings panel = documentTags url' settings' panel' := by
  unfold documentTags formAttributes inputAttributes promptTags scrollStyle Settings.themed
  rw [Transcript.tags_eq outputs, Transcript.tags_eq outputs', same.contents, same.url,
    same.formMethod, same.inputFieldName, same.promptText, same.themeEnabled, same.maxHeight,
    same.value, same.visible, same.disabled, same.focused]

theorem renderDocument_eq_iff (outputs : panel.transcript.Outputs)
    (outputs' : panel'.transcript.Outputs) :
    renderDocument url settings panel = renderDocument url' settings' panel' ↔
      SameContent url url' settings settings' panel panel' := by
  constructor
  · intro same
    have tags := congrArg Markup.tagsOf same
    rw [tagsOf_renderDocument url settings outputs, tagsOf_renderDocument url' settings' outputs']
      at tags
    exact documentTags_injective outputs outputs' tags
  · intro same
    rw [renderDocument_eq, renderDocument_eq, documentTags_congr outputs outputs' same]

end

/-! ## The values of attributes -/

namespace Markup

/-- The attributes of tags, in order. -/
def attributesOf (tags : List (Text × Tag)) : List (Text × Text) :=
  tags.flatMap fun (_, tag) => tag.attributes

/-- The values of the attributes of a name, decoded. -/
def valuesOf (name : Text) (attributes : List (Text × Text)) : List Text :=
  (attributes.filter (·.1 = name)).map fun (_, value) => decode value

/-- The values of an attribute in a markup text, decoded. -/
def values (name t : Text) : List Text := valuesOf name (attributesOf (tagsOf t))

@[simp] theorem attributesOf_nil : attributesOf [] = [] := rfl

@[simp] theorem attributesOf_cons (before : Text) (tag : Tag) (tags : List (Text × Tag)) :
    attributesOf ((before, tag) :: tags) = tag.attributes ++ attributesOf tags := rfl

@[simp] theorem attributesOf_append (a b : List (Text × Tag)) :
    attributesOf (a ++ b) = attributesOf a ++ attributesOf b := List.flatMap_append

@[simp] theorem valuesOf_append (name : Text) (a b : List (Text × Text)) :
    valuesOf name (a ++ b) = valuesOf name a ++ valuesOf name b := by
  simp [valuesOf]

theorem valuesOf_of_ne {name other : Text} (ne : other ≠ name) (value : Text) :
    valuesOf name [(other, value)] = [] := by
  rw [valuesOf, List.filter_cons_of_neg (by simpa using ne)]
  rfl

theorem valuesOf_if (name other value : Text) (given : Bool) (ne : other ≠ name) :
    valuesOf name (if given then [(other, value)] else []) = [] := by
  cases given with
  | false => rfl
  | true => exact valuesOf_of_ne ne value

end Markup

open Markup (attributesOf valuesOf values)

theorem attributesOf_rowTags (content : Text × Bool) : attributesOf (rowTags content) = [] := by
  unfold rowTags
  split <;> rfl

theorem attributesOf_outputTags (contents : List (Text × Bool)) :
    attributesOf (outputTags contents) = [] := by
  have rows : attributesOf (contents.flatMap rowTags) = [] := by
    rw [attributesOf, List.flatMap_assoc, List.flatMap_eq_nil_iff]
    exact fun content _ => attributesOf_rowTags content
  rw [outputTags, Markup.attributesOf_append, Markup.attributesOf_cons, rows]
  rfl

theorem valuesOf_styling {name : Text} (other : "style".toList ≠ name) (style : Text) :
    valuesOf name (styling style) = [] := by
  unfold styling
  split
  · rfl
  · exact Markup.valuesOf_of_ne other style

theorem valuesOf_promptTags (settings : Settings) {name : Text} (other : "style".toList ≠ name) :
    valuesOf name (attributesOf (promptTags settings)) = [] := by
  unfold promptTags
  split
  · simp only [Markup.attributesOf_cons, Markup.valuesOf_append, opening, valuesOf_styling other]
    rfl
  · rfl

/-- The names of attributes that can be there or not, and hold no text from outside. -/
def optionalNames : List Text := ["style".toList, "disabled".toList, "autofocus".toList]

/-- All other attributes are those of the form and of the input line. -/
theorem values_renderDocument (url : Text) (settings : Settings) {panel : Panel}
    (outputs : panel.transcript.Outputs) {name : Text} (other : name ∉ optionalNames) :
    values name (renderDocument url settings panel) =
      valuesOf name [("method".toList, Markup.escape settings.formMethod),
        ("action".toList, Markup.escape url), ("type".toList, "text".toList),
        ("name".toList, Markup.escape settings.inputFieldName),
        ("autocomplete".toList, "off".toList),
        ("value".toList, Markup.escape panel.input.value)] := by
  have apart : ∀ known ∈ optionalNames, known ≠ name := fun known mem same => other (same ▸ mem)
  have style : "style".toList ≠ name := apart _ (by decide)
  have shown : attributesOf (panel.transcript.contents.flatMap outputTags) = [] := by
    rw [attributesOf, List.flatMap_assoc, List.flatMap_eq_nil_iff]
    exact fun contents _ => attributesOf_outputTags contents
  have disabled := Markup.valuesOf_if name "disabled".toList "disabled".toList panel.input.disabled
    (apart _ (by decide))
  have focused := Markup.valuesOf_if name "autofocus".toList "autofocus".toList panel.input.focused
    (apart _ (by decide))
  rw [values, tagsOf_renderDocument url settings outputs, documentTags, Transcript.tags_eq outputs]
  simp only [Markup.attributesOf_nil, Markup.attributesOf_cons, Markup.attributesOf_append,
    Markup.valuesOf_append, shown, opening, ending, formAttributes, inputAttributes, disabled,
    focused, valuesOf_styling style, valuesOf_promptTags settings style, List.nil_append,
    List.append_nil]
  exact (Markup.valuesOf_append name [_, _] _).symm

/-- **The document is faithful.** Two documents of panels to which outputs were added, under
whatever settings, are the same exactly if they have the same content: the url, the method, the
name of the field, the prompt, the theme, the height, the value and the flags of the input line,
and the markup and the break of each row of each entry. And the only attributes of these names
hold, once decoded, the method, the url, the name of the field and the value of the input line as
they were given. -/
theorem document_faithful (url url' : Text) (settings settings' : Settings)
    (outputs outputs' : List (Settings × Text)) (line line' : InputLine) :
    let panel : Panel := { Panel.putOut {} outputs with input := line }
    let panel' : Panel := { Panel.putOut {} outputs' with input := line' }
    let document := renderDocument url settings panel
    (document = renderDocument url' settings' panel' ↔
      SameContent url url' settings settings' panel panel') ∧
    values "method".toList document = [settings.formMethod] ∧
    values "action".toList document = [url] ∧
    values "name".toList document = [settings.inputFieldName] ∧
    values "value".toList document = [line.value] := by
  intro panel panel' document
  have only_outputs : panel.transcript.Outputs := Panel.outputs_putOut outputs
  have only_outputs' : panel'.transcript.Outputs := Panel.outputs_putOut outputs'
  have read {name : Text} (other : name ∉ optionalNames) : values name document = _ :=
    values_renderDocument url settings only_outputs other
  refine ⟨renderDocument_eq_iff only_outputs only_outputs', ?_, ?_, ?_, ?_⟩
  · rw [read (by decide)]
    simp [valuesOf]
  · rw [read (by decide)]
    simp [valuesOf]
  · rw [read (by decide)]
    simp [valuesOf]
  · rw [read (by decide)]
    simp [valuesOf, panel]

end RemoteTerminal
