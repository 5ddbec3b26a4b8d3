import RemoteTerminal.CommandLine
import RemoteTerminal.Options.Settings

/-!
# Layers of options

Options may be set in several layers. `topmost` is what the first of the layers that sets a thing
sets it to, and `Layering` is a way to put layers over each other, pair by pair.

* `overlay_assoc`, `unset_overlay`, `overlay_unset`: layers make a monoid.
* `Layering.merged_eq`: so only the order of the layers counts, and not how they are paired.
* `Settings.layered`: what a command line, a JSON text and a file come to, setting by setting.
* `resolve_layers`: the layers, put over each other and resolved, come to that.
-/

namespace RemoteTerminal

/-- What the first layer that sets a thing sets it to. -/
def topmost {α : Type} : List (Option α) → Option α
  | [] => none
  | some value :: _ => some value
  | none :: lower => topmost lower

theorem topmost_cons {α : Type} (upper : Option α) (lower : List (Option α)) :
    topmost (upper :: lower) = upper.or (topmost lower) := by
  cases upper <;> rfl

namespace Options

theorem overlay_assoc (a b c : Options) : (a.overlay b).overlay c = a.overlay (b.overlay c) := by
  simp only [overlay, Option.or_assoc]

@[simp] theorem unset_overlay (o : Options) : unset.overlay o = o := by
  simp only [overlay, unset, Option.or_none]

@[simp] theorem overlay_unset (o : Options) : o.overlay unset = o := by
  simp only [overlay, unset, Option.none_or]

/-- A way to put layers over each other. -/
inductive Layering where
  | layer (o : Options)
  | cover (lower upper : Layering)

namespace Layering

/-- The layers, the lowest first. -/
def layers : Layering → List Options
  | layer o => [o]
  | cover lower upper => lower.layers ++ upper.layers

/-- What the layers come to together. -/
def merged : Layering → Options
  | layer o => o
  | cover lower upper => lower.merged.overlay upper.merged

theorem foldl_overlay (bottom lower : Options) (upper : List Options) :
    upper.foldl overlay (bottom.overlay lower) = bottom.overlay (upper.foldl overlay lower) := by
  induction upper generalizing lower with
  | nil => rfl
  | cons o upper ih => rw [List.foldl_cons, List.foldl_cons, overlay_assoc, ih]

/-- However layers are paired, they come to the same as one by one from the lowest. -/
theorem merged_eq (l : Layering) : l.merged = l.layers.foldl overlay unset := by
  induction l with
  | layer o => exact (unset_overlay o).symm
  | cover lower upper ihl ihu =>
    have above := foldl_overlay lower.merged unset upper.layers
    rw [overlay_unset] at above
    rw [merged, layers, List.foldl_append, ← ihl, above, ← ihu]

end Layering

end Options

/-! ## The layers of a run -/

/-- What a flag sets an option to, if it is raised. -/
def flag (raised value : Bool) : Option Bool := if raised then some value else none

/-- The settings that a command line, the options given as JSON and those of the configuration come
to: each is taken from the first of them that sets it, or else as usual, and made fit then. A name
or a method that is blank where it is set is the usual one. -/
def Settings.layered (line : CommandLine) (given file : Options) (height : Nat) : Settings where
  maxHeight := match topmost [given.maxHeight, file.maxHeight] with
    | some (.pixels count) => count
    | some .fill | none => height
  formMethod := match topmost [line.method, given.formMethod, file.formMethod] with
    | some method => if method.blank then "POST".toList else method.asciiUpper
    | none => "POST".toList
  inputFieldName := match topmost [line.field, given.inputFieldName, file.inputFieldName] with
    | some name => if name.blank then "input".toList else name
    | none => "input".toList
  extraPostFields :=
    let posted := if line.post.isEmpty then none else some (Fields.ofList line.post)
    (topmost [posted, given.extraPostFields, file.extraPostFields]).getD .empty
  promptText := match topmost [line.prompt, given.promptText, file.promptText] with
    | some prompt => if prompt.isEmpty then none else some (prompt.trim ++ [' '])
    | none => none
  focusOnLoad := (topmost [given.focusOnLoad, file.focusOnLoad]).getD true
  submitOnLoad :=
    (topmost [flag line.submitOnLoad true, given.submitOnLoad, file.submitOnLoad]).getD false
  grabFocusOnClick := (topmost [given.grabFocusOnClick, file.grabFocusOnClick]).getD true
  helloMessage := match topmost [line.hello, given.helloMessage, file.helloMessage] with
    | some message => if message.isEmpty then none else some message
    | none => none
  themeEnabled :=
    (topmost [flag line.noTheme false, given.themeEnabled, file.themeEnabled]).getD true
  allowEmptyInput :=
    (topmost [flag line.allowEmpty true, given.allowEmptyInput, file.allowEmptyInput]).getD false
  tabWidth := min ((topmost [line.tabWidth, given.tabWidth, file.tabWidth]).getD 4) 64
  inputDisabled :=
    (topmost [flag line.disableInput true, given.inputDisabled, file.inputDisabled]).getD false
  onLoad := topmost [given.onLoad, file.onLoad]

namespace Options

theorem map_nonBlank_getD (fit : Text → Text) (name : Option Text) (usual : Text) :
    ((nonBlank name).map fit).getD usual =
      match name with
      | some name => if name.blank then usual else fit name
      | none => usual := by
  cases name with
  | none => rfl
  | some name =>
    cases blank : name.blank <;> simp only [nonBlank, Option.filter_some, blank] <;> rfl

theorem nonBlank_getD (name : Option Text) (usual : Text) :
    (nonBlank name).getD usual =
      match name with
      | some name => if name.blank then usual else name
      | none => usual := by
  simpa using map_nonBlank_getD id name usual

theorem bind_normalizePrompt {prompt : Option Text} :
    prompt.bind normalizePrompt =
      match prompt with
      | some prompt => if prompt.isEmpty then none else some (prompt.trim ++ [' '])
      | none => none := by
  cases prompt <;> rfl

theorem filter_nonempty {message : Option Text} :
    (message.filter fun message => !message.isEmpty) =
      match message with
      | some message => if message.isEmpty then none else some message
      | none => none := by
  cases message with
  | none => rfl
  | some message =>
    cases empty : message.isEmpty <;> simp only [Option.filter_some, empty] <;> rfl

/-- The layers of a run come to its settings, field by field. -/
theorem resolve_layers (line : CommandLine) (given file : Options) (height : Nat) :
    ((file.overlay given).overlay line.toOptions).resolve height =
      Settings.layered line given file height := by
  have three {α : Type} (upper middle lower : Option α) :
      topmost [upper, middle, lower] = upper.or (middle.or lower) := by
    simp only [topmost_cons, topmost, Option.or_none]
  have two {α : Type} (upper lower : Option α) : topmost [upper, lower] = upper.or lower := by
    simp only [topmost_cons, topmost, Option.or_none]
  -- The winners are the same, by associativity; each is made fit in its own way.
  rw [overlay_assoc]
  simp only [resolve, Settings.layered, two, three, map_nonBlank_getD, nonBlank_getD,
    bind_normalizePrompt, filter_nonempty, overlay, CommandLine.toOptions, flag, Option.or_assoc,
    Option.none_or, usualMethod, usualFieldName, usualTabWidth, greatestTabWidth]
  generalize given.maxHeight.or file.maxHeight = winner
  obtain _ | (_ | _) := winner <;> rfl

end Options
end RemoteTerminal
