import RemoteTerminal.Markup
import Mathlib.Data.List.Basic

/-!
# Reading tags

`Scanner` reads markup character by character, as HTML is read, into tags with their attributes and
the text before each. `skeleton` keeps the names of tags and attributes only. A tag whose names are
ordinary and whose values hold no quote is read as it was written (`scans_tag`), after a text in
which no tag starts; so is a list of them (`tagsOf_writeTags`).
-/

namespace RemoteTerminal.Markup

/-- A tag. An empty one ends in a slash. -/
structure Tag where
  closing : Bool := false
  name : Text
  attributes : List (Text × Text) := []
  void : Bool := false
  deriving DecidableEq, Repr

def Tag.addAttribute (tag : Tag) (name value : Text) : Tag :=
  { tag with attributes := tag.attributes ++ [(name, value)], void := false }

def Tag.endedBySlash (tag : Tag) (slash : Bool) : Tag := { tag with void := slash }

/-- Where a reader is: outside of tags, right after a `<`, in the name of a tag, where an attribute
can start, in or after the name of an attribute, before its value, or in a value with or without
quotes. -/
inductive Place where
  | text
  | opened
  | named (tag : Tag)
  | inside (tag : Tag)
  | naming (tag : Tag) (name : Text)
  | spaced (tag : Tag) (name : Text)
  | equals (tag : Tag) (name : Text)
  | quoted (tag : Tag) (name : Text) (quote : Char) (value : Text)
  | bare (tag : Tag) (name value : Text)
  deriving DecidableEq, Repr

/-- A reader at a place, with the text that it has read since the last tag. -/
structure Scanner where
  seen : Text := []
  place : Place := .text
  deriving DecidableEq, Repr

/-- The white space of tags. -/
def isSpace (c : Char) : Bool := [' ', '\t', '\n', '\x0c', '\r'].contains c

namespace Scanner

/-- Reads a character. A tag is given out, with the text before it, once it has ended. -/
def step (s : Scanner) (c : Char) : Scanner × Option (Text × Tag) :=
  let within (place : Place) : Scanner × Option (Text × Tag) := ({ s with place }, none)
  let ended (tag : Tag) : Scanner × Option (Text × Tag) := ({}, some (s.seen, tag))
  match s.place with
  | .text => if c = '<' then within .opened else ({ s with seen := s.seen ++ [c] }, none)
  | .opened =>
    if c = '/' then within (.named { closing := true, name := [] })
    else if c.isAlpha || c = '!' || c = '?' then within (.named { name := [c] })
    else if c = '<' then ({ s with seen := s.seen ++ ['<'] }, none)
    else (⟨s.seen ++ ['<', c], .text⟩, none)
  | .named tag =>
    if c = '>' then ended tag
    else if isSpace c || c = '/' then within (.inside (tag.endedBySlash (c = '/')))
    else within (.named { tag with name := tag.name ++ [c] })
  | .inside tag =>
    if c = '>' then ended tag
    else if isSpace c || c = '/' then within (.inside (tag.endedBySlash (c = '/')))
    else within (.naming tag [c])
  | .naming tag name =>
    if c = '>' then ended (tag.addAttribute name [])
    else if c = '/' then within (.inside ((tag.addAttribute name []).endedBySlash true))
    else if isSpace c then within (.spaced tag name)
    else if c = '=' then within (.equals tag name)
    else within (.naming tag (name ++ [c]))
  | .spaced tag name =>
    if c = '>' then ended (tag.addAttribute name [])
    else if c = '/' then within (.inside ((tag.addAttribute name []).endedBySlash true))
    else if isSpace c then within (.spaced tag name)
    else if c = '=' then within (.equals tag name)
    else within (.naming (tag.addAttribute name []) [c])
  | .equals tag name =>
    if c = '>' then ended (tag.addAttribute name [])
    else if isSpace c then within (.equals tag name)
    else if c = '"' || c = '\'' then within (.quoted tag name c [])
    else within (.bare tag name [c])
  | .quoted tag name quote value =>
    if c = quote then within (.inside (tag.addAttribute name value))
    else within (.quoted tag name quote (value ++ [c]))
  | .bare tag name value =>
    if c = '>' then ended (tag.addAttribute name value)
    else if isSpace c then within (.inside (tag.addAttribute name value))
    else within (.bare tag name (value ++ [c]))

/-- Reads a text. -/
def run : Scanner → Text → List (Text × Tag) × Scanner
  | s, [] => ([], s)
  | s, c :: cs =>
    let next := s.step c
    let rest := next.1.run cs
    (next.2.toList ++ rest.1, rest.2)

end Scanner

/-- The tags of a markup text, each with the text before it. -/
def tagsOf (t : Text) : List (Text × Tag) := (Scanner.run {} t).1

/-- A tag without the values of its attributes. -/
structure Bone where
  closing : Bool := false
  name : Text
  attributes : List Text := []
  void : Bool := false
  deriving DecidableEq, Repr

def Tag.bone (tag : Tag) : Bone :=
  { closing := tag.closing, name := tag.name, attributes := tag.attributes.map Prod.fst,
    void := tag.void }

def bones (tags : List (Text × Tag)) : List Bone := tags.map fun (_, tag) => tag.bone

/-- The tags of a markup text with the names of their attributes, without values and text. -/
def skeleton (t : Text) : List Bone := bones (tagsOf t)

theorem bones_cons (before : Text) (tag : Tag) (tags : List (Text × Tag)) :
    bones ((before, tag) :: tags) = tag.bone :: bones tags := rfl

@[simp] theorem bones_append (a b : List (Text × Tag)) : bones (a ++ b) = bones a ++ bones b :=
  List.map_append

theorem bones_flatMap {α : Type} (items : List α) (f : α → List (Text × Tag)) :
    bones (items.flatMap f) = items.flatMap fun item => bones (f item) := List.map_flatMap

/-! ## Writing tags -/

/-- An attribute in double quotes, after a space. -/
def writeAttribute (name value : Text) : Text := ' ' :: name ++ "=\"".toList ++ value ++ ['"']

def writeAttributes (attributes : List (Text × Text)) : Text :=
  attributes.flatMap fun (name, value) => writeAttribute name value

def Tag.write (tag : Tag) : Text :=
  '<' :: (if tag.closing then ['/'] else []) ++ tag.name ++ writeAttributes tag.attributes ++
    if tag.void then " />".toList else ['>']

/-- Tags, each after the text before it. -/
def writeTags (tags : List (Text × Tag)) : Text :=
  tags.flatMap fun (before, tag) => before ++ tag.write

/-- A name that holds nothing that ends a name. -/
def Ordinary (name : Text) : Prop :=
  ∀ c ∈ name, c ≠ '>' ∧ c ≠ '/' ∧ c ≠ '=' ∧ isSpace c = false

instance (name : Text) : Decidable (Ordinary name) := List.decidableBAll _ name

/-- Attributes that are read as they are written. -/
def Quotable (attributes : List (Text × Text)) : Prop :=
  ∀ a ∈ attributes, a.1 ≠ [] ∧ Ordinary a.1 ∧ '"' ∉ a.2

instance (attributes : List (Text × Text)) : Decidable (Quotable attributes) :=
  List.decidableBAll _ attributes

/-- A tag that is read as it is written. -/
structure Tag.Sound (tag : Tag) : Prop where
  starts : tag.name.head?.any Char.isAlpha = true
  ordinary : Ordinary tag.name
  attributes : Quotable tag.attributes

/-- Tags that are read as they are written, and texts before them in which no tag starts. -/
def Legible (tags : List (Text × Tag)) : Prop := ∀ t ∈ tags, '<' ∉ t.1 ∧ t.2.Sound

@[simp] theorem writeAttributes_cons (name value : Text) (attributes : List (Text × Text)) :
    writeAttributes ((name, value) :: attributes) =
      writeAttribute name value ++ writeAttributes attributes := rfl

@[simp] theorem writeAttributes_append (a b : List (Text × Text)) :
    writeAttributes (a ++ b) = writeAttributes a ++ writeAttributes b := List.flatMap_append

@[simp] theorem writeTags_nil : writeTags [] = [] := rfl

@[simp] theorem writeTags_cons (before : Text) (tag : Tag) (tags : List (Text × Tag)) :
    writeTags ((before, tag) :: tags) = before ++ tag.write ++ writeTags tags := rfl

@[simp] theorem writeTags_append (a b : List (Text × Tag)) :
    writeTags (a ++ b) = writeTags a ++ writeTags b := List.flatMap_append

theorem writeTags_flatMap {α : Type} (items : List α) (f : α → List (Text × Tag)) :
    writeTags (items.flatMap f) = items.flatMap fun item => writeTags (f item) := List.flatMap_assoc

theorem Quotable.nil : Quotable [] := nofun

theorem Quotable.single {name value : Text} (named : name ≠ []) (ordinary : Ordinary name)
    (unquoted : '"' ∉ value) : Quotable [(name, value)] :=
  List.forall_mem_singleton.mpr ⟨named, ordinary, unquoted⟩

theorem Quotable.append {a b : List (Text × Text)} (ha : Quotable a) (hb : Quotable b) :
    Quotable (a ++ b) := List.forall_mem_append.mpr ⟨ha, hb⟩

theorem Legible.nil : Legible [] := nofun

theorem Legible.cons {before : Text} {tag : Tag} {tags : List (Text × Tag)}
    (others : Legible tags) (plain : '<' ∉ before) (sound : tag.Sound) :
    Legible ((before, tag) :: tags) := List.forall_mem_cons.mpr ⟨⟨plain, sound⟩, others⟩

theorem Legible.tag {tag : Tag} {tags : List (Text × Tag)} (sound : tag.Sound)
    (others : Legible tags) : Legible (([], tag) :: tags) := others.cons List.not_mem_nil sound

theorem Legible.append {a b : List (Text × Tag)} (ha : Legible a) (hb : Legible b) :
    Legible (a ++ b) := List.forall_mem_append.mpr ⟨ha, hb⟩

theorem Legible.flatMap {α : Type} {items : List α} {f : α → List (Text × Tag)}
    (each : ∀ item ∈ items, Legible (f item)) : Legible (items.flatMap f) := by
  intro t mem
  obtain ⟨item, listed, mem⟩ := List.mem_flatMap.mp mem
  exact each item listed t mem

/-! ## Reading what was written -/

namespace Scanner

theorem run_append (s : Scanner) (a b : Text) :
    s.run (a ++ b) = ((s.run a).1 ++ ((s.run a).2.run b).1, ((s.run a).2.run b).2) := by
  induction a generalizing s with
  | nil => rfl
  | cons c a ih =>
    rw [List.cons_append, run, run]
    simp only [ih, List.append_assoc]

/-- From the reader `s`, the text gives out the tags and leaves the reader `t`. -/
abbrev Scans (s : Scanner) (text : Text) (tags : List (Text × Tag)) (t : Scanner) : Prop :=
  s.run text = (tags, t)

theorem Scans.append {s t u : Scanner} {a b : Text} {tags others : List (Text × Tag)}
    (first : Scans s a tags t) (second : Scans t b others u) :
    Scans s (a ++ b) (tags ++ others) u := by
  rw [Scans, run_append, first, second]

/-- A character that ends no tag. -/
theorem Scans.cons {s t u : Scanner} {c : Char} {cs : Text} {tags : List (Text × Tag)}
    (first : s.step c = (t, none)) (others : Scans t cs tags u) : Scans s (c :: cs) tags u := by
  simp only [Scans, run, first]
  rw [others]
  rfl

section
variable (seen : Text) (tag : Tag)

theorem scans_text {t : Text} (plain : '<' ∉ t) :
    Scans ⟨seen, .text⟩ t [] ⟨seen ++ t, .text⟩ := by
  induction t generalizing seen with
  | nil => rw [List.append_nil]; rfl
  | cons c t ih =>
    have other : c ≠ '<' := fun same => plain (same ▸ .head _)
    have others := ih (seen ++ [c]) fun mem => plain (.tail _ mem)
    rw [List.append_assoc] at others
    exact .cons (by simp [step, other]) others

theorem scans_name {name : Text} (ordinary : Ordinary name) :
    Scans ⟨seen, .named tag⟩ name [] ⟨seen, .named { tag with name := tag.name ++ name }⟩ := by
  induction name generalizing tag with
  | nil => rw [List.append_nil]; rfl
  | cons c name ih =>
    obtain ⟨gt, slash, -, space⟩ := ordinary c (.head _)
    have others := ih { tag with name := tag.name ++ [c] } fun d mem => ordinary d (.tail _ mem)
    rw [List.append_assoc] at others
    exact .cons (by simp [step, gt, slash, space]) others

theorem scans_naming (start : Text) {name : Text} (ordinary : Ordinary name) :
    Scans ⟨seen, .naming tag start⟩ name [] ⟨seen, .naming tag (start ++ name)⟩ := by
  induction name generalizing start with
  | nil => rw [List.append_nil]; rfl
  | cons c name ih =>
    obtain ⟨gt, slash, equals, space⟩ := ordinary c (.head _)
    have others := ih (start ++ [c]) fun d mem => ordinary d (.tail _ mem)
    rw [List.append_assoc] at others
    exact .cons (by simp [step, gt, slash, equals, space]) others

theorem scans_value (name : Text) {quote : Char} (start : Text) {value : Text}
    (unquoted : quote ∉ value) :
    Scans ⟨seen, .quoted tag name quote start⟩ value []
      ⟨seen, .quoted tag name quote (start ++ value)⟩ := by
  induction value generalizing start with
  | nil => rw [List.append_nil]; rfl
  | cons c value ih =>
    have other : c ≠ quote := fun same => unquoted (same ▸ .head _)
    have others := ih (start ++ [c]) fun mem => unquoted (.tail _ mem)
    rw [List.append_assoc] at others
    exact .cons (by simp [step, other]) others

/-- A place that takes attributes of a tag. -/
def Takes (tag : Tag) (p : Place) : Prop := p = .named tag ∨ p = .inside tag

variable {tag}

theorem scans_attribute {p : Place} (takes : Takes tag p) {name value : Text} (named : name ≠ [])
    (ordinary : Ordinary name) (unquoted : '"' ∉ value) :
    Scans ⟨seen, p⟩ (writeAttribute name value) [] ⟨seen, .inside (tag.addAttribute name value)⟩ := by
  obtain ⟨c, cs, rfl⟩ := List.exists_cons_of_ne_nil named
  obtain ⟨gt, slash, -, space⟩ := ordinary c (.head _)
  have apart : (⟨seen, p⟩ : Scanner).step ' ' = (⟨seen, .inside (tag.endedBySlash false)⟩, none) := by
    obtain rfl | rfl := takes <;> rfl
  have starts : (⟨seen, .inside (tag.endedBySlash false)⟩ : Scanner).step c =
      (⟨seen, .naming (tag.endedBySlash false) [c]⟩, none) := by
    simp [step, gt, slash, space]
  have names := scans_naming seen (tag.endedBySlash false) [c] fun d mem => ordinary d (.tail _ mem)
  have opens : Scans ⟨seen, .naming (tag.endedBySlash false) (c :: cs)⟩ "=\"".toList []
      ⟨seen, .quoted (tag.endedBySlash false) (c :: cs) '"' []⟩ := rfl
  have reads := scans_value seen (tag.endedBySlash false) (c :: cs) [] unquoted
  have shuts : Scans ⟨seen, .quoted (tag.endedBySlash false) (c :: cs) '"' value⟩ ['"'] []
      ⟨seen, .inside (tag.addAttribute (c :: cs) value)⟩ := rfl
  exact (((Scans.cons apart (.cons starts names)).append opens).append reads).append shuts

/-- Attributes are added to the tag in their order. -/
theorem scans_attributes (tag : Tag) {p : Place} (takes : Takes tag p) (open_ended : tag.void = false)
    (attributes : List (Text × Text))
    (sound : Quotable attributes) :
    ∃ q, Takes { tag with attributes := tag.attributes ++ attributes } q ∧
      Scans ⟨seen, p⟩ (writeAttributes attributes) [] ⟨seen, q⟩ := by
  induction attributes generalizing tag p with
  | nil =>
    rw [List.append_nil]
    exact ⟨p, takes, rfl⟩
  | cons a attributes ih =>
    obtain ⟨named, ordinary, unquoted⟩ := sound a (.head _)
    have first := scans_attribute seen takes named ordinary unquoted
    obtain ⟨q, takes_others, others⟩ := ih (tag.addAttribute a.1 a.2) (.inr rfl) rfl
      fun b mem => sound b (.tail _ mem)
    refine ⟨q, ?_, first.append others⟩
    simpa [Tag.addAttribute, open_ended] using takes_others

theorem scans_ending {p : Place} (takes : Takes tag p) (open_ended : tag.void = false)
    (void : Bool) :
    Scans ⟨seen, p⟩ (if void then " />".toList else ['>']) [(seen, { tag with void })] {} := by
  obtain ⟨closing, name, attributes, ends⟩ := tag
  obtain rfl : ends = false := open_ended
  cases void <;> obtain rfl | rfl := takes <;> rfl

theorem scans_start (closing : Bool) {name : Text}
    (starts : name.head?.any Char.isAlpha = true) (ordinary : Ordinary name) :
    Scans ⟨seen, .text⟩ ('<' :: (if closing then ['/'] else []) ++ name) []
      ⟨seen, .named { closing, name }⟩ := by
  have named : name ≠ [] := fun empty => by simp [empty] at starts
  obtain ⟨c, cs, rfl⟩ := List.exists_cons_of_ne_nil named
  have alpha : c.isAlpha = true := starts
  obtain ⟨-, slash, -⟩ := ordinary c (.head _)
  have opens : (⟨seen, .text⟩ : Scanner).step '<' = (⟨seen, .opened⟩, none) := rfl
  cases closing with
  | true =>
    have closes : (⟨seen, .opened⟩ : Scanner).step '/' =
        (⟨seen, .named { closing := true, name := [] }⟩, none) := rfl
    exact .cons opens (.cons closes (scans_name seen _ ordinary))
  | false =>
    have starts : (⟨seen, .opened⟩ : Scanner).step c = (⟨seen, .named { name := [c] }⟩, none) := by
      simp [step, slash, alpha]
    exact .cons opens (.cons starts (scans_name seen _ fun d mem => ordinary d (.tail _ mem)))

variable {seen}

theorem scans_tag (sound : tag.Sound) : Scans ⟨seen, .text⟩ tag.write [(seen, tag)] {} := by
  have start := scans_start seen tag.closing sound.starts sound.ordinary
  obtain ⟨q, takes, attributes⟩ := scans_attributes seen
    { closing := tag.closing, name := tag.name } (.inl rfl) rfl tag.attributes sound.attributes
  exact (start.append attributes).append (scans_ending seen takes rfl tag.void)

/-- Tags are read as they were written, and the texts before them. -/
theorem scans_writeTags {tags : List (Text × Tag)} (legible : Legible tags) :
    Scans {} (writeTags tags) tags {} := by
  induction tags with
  | nil => rfl
  | cons first tags ih =>
    obtain ⟨plain, tag⟩ := legible first (.head _)
    have others := ih fun t mem => legible t (.tail _ mem)
    exact ((scans_text [] plain).append (scans_tag tag)).append others

end

end Scanner

theorem tagsOf_writeTags {tags : List (Text × Tag)} (legible : Legible tags) :
    tagsOf (writeTags tags) = tags := by
  rw [tagsOf, Scanner.scans_writeTags legible]

-- A value that holds a quote ends there, and what follows is read as a tag.
example :
    skeleton (Tag.write { name := "p".toList, attributes := [("id".toList, "\"><br>".toList)] }) =
      [{ name := "p".toList, attributes := ["id".toList] }, { name := "br".toList }] := by rfl

end RemoteTerminal.Markup
